import Aivtuber.App.Budget
import Aivtuber.Base.Slots
import Aivtuber.Base.Window

/-!
# The windows of the budget governor

Characters and cost are *metered*: their ledgers hold amounts, and the instant of an
amount is that of the grant it was charged for.  The governor forgets these instants, and
its trimming compares the amounts themselves with the horizon.

A `Book` keeps what the governor forgets: an account for each grant, and the entries of
the ledgers under the instants of their grants.  While every trim happens to cut exactly
at the horizon, a ledger shows what was booked in the window, and the governor admits and
denies accordingly.  It is enough that one trim drops a small recent amount
(`recent_grant_forgotten`).
-/

open Saturating Window

namespace Aivtuber

/-- The budgets whose ledgers hold amounts. -/
inductive Meter where
  | ttsChars | estimatedCost
deriving DecidableEq, Repr

namespace Meter

def limit (policy : GenerativeBudgetPolicy) : Meter → Option Nat
  | ttsChars => policy.maxTtsCharsPerInterval
  | estimatedCost => policy.maxEstimatedCostMilliunitsPerInterval

/-- What an admission may use of a limit: only characters keep a share in reserve. -/
def share (policy : GenerativeBudgetPolicy) (admission : BudgetAdmission) (limit : Nat) :
    Meter → Nat
  | ttsChars => policy.effectiveLimit (admission.priority = .high) limit
  | estimatedCost => limit

def ledger (governor : GenerativeBudgetGovernor) : Meter → List Nat
  | ttsChars => governor.ttsChars
  | estimatedCost => governor.costMilliunits

def estimate (admission : BudgetAdmission) : Meter → Nat
  | ttsChars => admission.estimatedTtsChars
  | estimatedCost => admission.estimatedCostMilliunits

/-- What a grant reserves: nothing without a limit. -/
def reserve (policy : GenerativeBudgetPolicy) (admission : BudgetAdmission) (meter : Meter) : Nat :=
  if (meter.limit policy).isSome then meter.estimate admission else 0

def charged (reservation : BudgetReservation) : Meter → Nat
  | ttsChars => reservation.chargedTtsChars
  | estimatedCost => reservation.chargedCostMilliunits

def settled (ttsChars estimatedCostMilliunits : Nat) : Meter → Nat
  | .ttsChars => ttsChars
  | .estimatedCost => estimatedCostMilliunits

def denial : Meter → BudgetDenialReason
  | ttsChars => .ttsCharBudgetExhausted
  | estimatedCost => .costBudgetExhausted

end Meter

/-- The budgets are charged for an admission. -/
def GenerativeBudgetGovernor.charges (governor : GenerativeBudgetGovernor)
    (admission : BudgetAdmission) : Bool :=
  governor.isEnforced && !(admission.priority = .shadow && !governor.policy.chargeShadowToBudget)

/-! ## The book -/

/-- What was granted, and settled. -/
structure Account where
  grantedAtMs : Nat
  reserved : Meter → Nat
  settled : Option (Meter → Nat)

namespace Account

/-- The settled amount, in the place of the reserved one. -/
def spent (meter : Meter) (account : Account) : Nat :=
  account.settled.elim (account.reserved meter) (· meter)

/-- What is charged for a grant: a settlement below the reservation gives nothing back. -/
def booked (meter : Meter) (account : Account) : Nat :=
  max (account.reserved meter) (account.spent meter)

theorem spent_le_booked (meter : Meter) (account : Account) :
    account.spent meter ≤ account.booked meter := le_max_right _ _

end Account

/-- An amount in a ledger, with the instant of its grant. -/
structure Entry where
  atMs : Nat
  amount : Nat

structure Book where
  clockMs : Nat
  /-- One account for each grant. -/
  accounts : List Account
  entries : Meter → List Entry

namespace Book

def empty : Book := ⟨0, [], fun _ ↦ []⟩

/-- The amounts in front that are smaller than the horizon. -/
def isSmall (horizonMs : Nat) (entry : Entry) : Bool := entry.amount < horizonMs

def trim (book : Book) (horizonMs : Nat) : Book :=
  { book with entries := fun meter ↦ (book.entries meter).dropWhile (isSmall horizonMs) }

/-- Enter amounts of a grant at `atMs`. -/
def enter (book : Book) (atMs : Nat) (amount : Meter → Nat) : Book :=
  { book with entries := fun meter ↦
      if 0 < amount meter then book.entries meter ++ [⟨atMs, amount meter⟩]
      else book.entries meter }

/-- Open the account of a grant. -/
def opened (book : Book) (grantedAtMs : Nat) (reserved : Meter → Nat) : Book :=
  { book.enter grantedAtMs reserved with
    accounts := book.accounts ++ [⟨grantedAtMs, reserved, none⟩] }

/-- Settle an account, entering what exceeds its reservation. -/
def settle (book : Book) (policy : GenerativeBudgetPolicy) (index : Nat) (settled : Meter → Nat) :
    Book :=
  match book.accounts[index]? with
  | none => book
  | some account =>
    { book.enter account.grantedAtMs (fun meter ↦ if (meter.limit policy).isSome then
        settled meter - account.reserved meter else 0) with
      accounts := book.accounts.set index { account with settled := some settled } }

abbrev BudgetEvent := Machine.Event BudgetHost BudgetHost.Op (Except BudgetDenialReason Unit)

/-- The book after one more step. -/
def observe (book : Book) (e : BudgetEvent) : Book :=
  let governor := e.pre.governor
  match e.input, e.output with
  | .tryAdmit admission nowMs, output =>
    let charges := governor.charges admission
    let book := { book with clockMs := nowMs }
    let book := if charges then book.trim (governor.policy.horizonMs nowMs) else book
    match output with
    | .error _ => book
    | .ok _ => book.opened nowMs fun meter ↦
        if charges then meter.reserve governor.policy admission else 0
  | .settle index ttsChars estimatedCostMilliunits, _ =>
    match e.pre.reservation index with
    | some reservation =>
      if reservation.finished then book
      else book.settle governor.policy index (Meter.settled ttsChars estimatedCostMilliunits)
    | none => book
  | .tick nowMs, _ => { book with clockMs := nowMs }.trim (governor.policy.horizonMs nowMs)
  | _, _ => book

/-- What was booked since `horizonMs` for grants in the window. -/
def bookedSince (book : Book) (meter : Meter) (horizonMs : Nat) : Nat :=
  since Account.grantedAtMs (Account.booked meter) horizonMs book.accounts

/-- The same with settled amounts in the place of reserved ones. -/
def spentSince (book : Book) (meter : Meter) (horizonMs : Nat) : Nat :=
  since Account.grantedAtMs (Account.spent meter) horizonMs book.accounts

/-- An admission, or a denial for want of characters or cost, is due to what was charged in
the window alone. -/
def Kept (book : Book) (e : BudgetEvent) : Prop :=
  ∀ admission nowMs, e.input = .tryAdmit admission nowMs →
    e.pre.governor.charges admission = true →
      ∀ (meter : Meter) limit, meter.limit e.pre.governor.policy = some limit →
        (e.output = .ok () →
          book.spentSince meter (e.pre.governor.policy.horizonMs nowMs) +
            meter.estimate admission ≤ limit) ∧
        (e.output = .error meter.denial →
          meter.share e.pre.governor.policy admission limit <
            book.bookedSince meter (e.pre.governor.policy.horizonMs nowMs) +
              meter.estimate admission)

/-- A trim at `horizonMs` drops what is older, and nothing else. -/
def CutsExactly (book : Book) (horizonMs : Nat) (meter : Meter) : Prop :=
  ExactCut (isSmall horizonMs) Entry.atMs horizonMs (book.entries meter)

/-- The arithmetic of an admission does not overflow: the sum of the ledger is in range,
and a sum that the estimate takes out of range exceeds the limit. -/
def Fits (governor : GenerativeBudgetGovernor) (admission : BudgetAdmission) (meter : Meter) :
    Prop :=
  (meter.ledger governor).sum ≤ u64Max ∧
    ((meter.ledger governor).sum + meter.estimate admission ≤ u64Max ∨
      (meter.limit governor.policy).all (· < u64Max))

instance (book : Book) (horizonMs : Nat) (meter : Meter) :
    Decidable (book.CutsExactly horizonMs meter) :=
  inferInstanceAs (Decidable (ExactCut _ _ _ _))

instance (governor : GenerativeBudgetGovernor) (admission : BudgetAdmission) (meter : Meter) :
    Decidable (Fits governor admission meter) := inferInstanceAs (Decidable (_ ∧ _))

/-- A condition on both meters. -/
def onBoth (p : Meter → Bool) : Bool := p .ttsChars && p .estimatedCost

/-- Time does not go back, no reservation is copied, and whatever trims cuts exactly. -/
def timely (book : Book) (e : BudgetEvent) : Bool :=
  let governor := e.pre.governor
  match e.input with
  | .tryAdmit admission nowMs =>
    book.clockMs ≤ nowMs &&
      (!governor.charges admission || onBoth fun meter ↦
        book.CutsExactly (governor.policy.horizonMs nowMs) meter &&
          Fits (governor.trimWindows nowMs) admission meter)
  | .tick nowMs =>
    book.clockMs ≤ nowMs && onBoth fun meter ↦
      book.CutsExactly (governor.policy.horizonMs nowMs) meter
  | .clone _ => false
  | _ => true

/-! ## The book agrees with the governor -/

/-- The book records what the governor charged. -/
structure Agrees (book : Book) (host : BudgetHost) : Prop where
  ledger : ∀ meter, (book.entries meter).map Entry.amount = meter.ledger host.governor
  paired : host.reservations.length = book.accounts.length
  /-- The account of a reservation that is not finished is not settled. -/
  unsettled : ∀ index reservation, host.reservation index = some reservation →
    reservation.finished = false → ∃ account, book.accounts[index]? = some account ∧
      account.settled = none ∧ ∀ meter, account.reserved meter = meter.charged reservation
  /-- Nothing of the window is missing from the entries. -/
  window : ∀ (meter : Meter) horizonMs, (meter.limit host.governor.policy).isSome →
    host.governor.policy.horizonMs book.clockMs ≤ horizonMs →
      since Entry.atMs Entry.amount horizonMs (book.entries meter) =
        book.bookedSince meter horizonMs

section Agrees

variable {book : Book} {host : BudgetHost}

theorem new_agrees (policy : GenerativeBudgetPolicy) : Agrees empty (.new policy) where
  ledger meter := by cases meter <;> rfl
  paired := rfl
  unsettled index reservation h := by simp [BudgetHost.reservation, BudgetHost.new] at h
  window _ _ _ _ := rfl

theorem horizonMs_mono (policy : GenerativeBudgetPolicy) {a b : Nat} (h : a ≤ b) :
    policy.horizonMs a ≤ policy.horizonMs b := Nat.sub_le_sub_right h _

/-- The clock of the book goes on. -/
theorem Agrees.tock (h : Agrees book host) {nowMs : Nat} (hclock : book.clockMs ≤ nowMs) :
    Agrees { book with clockMs := nowMs } host where
  ledger := h.ledger
  paired := h.paired
  unsettled := h.unsettled
  window meter horizonMs hlimit hle :=
    h.window meter horizonMs hlimit ((horizonMs_mono _ hclock).trans hle)

theorem ledger_trimWindows (governor : GenerativeBudgetGovernor) (nowMs : Nat) (meter : Meter) :
    meter.ledger (governor.trimWindows nowMs) =
      (meter.ledger governor).dropWhile (· < governor.policy.horizonMs nowMs) := by
  cases meter <;> rfl

/-- A trim that cuts exactly at the horizon of the clock. -/
theorem Agrees.trim (h : Agrees book host)
    (hcuts : ∀ meter, book.CutsExactly (host.governor.policy.horizonMs book.clockMs) meter) :
    Agrees (book.trim (host.governor.policy.horizonMs book.clockMs))
      { host with governor := host.governor.trimWindows book.clockMs } where
  ledger meter := by
    rw [ledger_trimWindows, ← h.ledger meter, List.dropWhile_map]
    rfl
  paired := h.paired
  unsettled := h.unsettled
  window meter horizonMs hlimit hle :=
    ((hcuts meter).since_dropWhile hle).trans (h.window meter horizonMs hlimit hle)

/-- After such a trim, a ledger shows what is charged in the window. -/
theorem Agrees.sum_trim (h : Agrees book host) {meter : Meter}
    (hlimit : (meter.limit host.governor.policy).isSome)
    (hcuts : book.CutsExactly (host.governor.policy.horizonMs book.clockMs) meter) :
    (meter.ledger (host.governor.trimWindows book.clockMs)).sum =
      book.bookedSince meter (host.governor.policy.horizonMs book.clockMs) := by
  rw [← h.window meter _ hlimit (Nat.le_refl _), ← hcuts.sum_dropWhile, ledger_trimWindows,
    ← h.ledger meter, List.dropWhile_map]
  rfl

/-- A step that leaves the ledgers and the open reservations alone. -/
theorem Agrees.keep (h : Agrees book host) {host' : BudgetHost}
    (hledger : ∀ meter : Meter, meter.ledger host'.governor = meter.ledger host.governor)
    (hpolicy : host'.governor.policy = host.governor.policy)
    (hpaired : host'.reservations.length = host.reservations.length)
    (hopen : ∀ index reservation, host'.reservation index = some reservation →
      reservation.finished = false → host.reservation index = some reservation) :
    Agrees book host' where
  ledger meter := (h.ledger meter).trans (hledger meter).symm
  paired := hpaired.trans h.paired
  unsettled index reservation hfound hunfinished :=
    h.unsettled index reservation (hopen index reservation hfound hunfinished) hunfinished
  window := by
    rw [hpolicy]
    exact h.window

theorem map_enter (book : Book) (meter : Meter) (atMs : Nat) (amount : Meter → Nat) :
    ((book.enter atMs amount).entries meter).map Entry.amount =
      pushCharge ((book.entries meter).map Entry.amount) (amount meter) := by
  rw [enter, pushCharge]
  dsimp only
  split
  · rw [List.map_append]
    rfl
  · rfl

theorem since_enter (book : Book) (meter : Meter) (atMs horizonMs : Nat) (amount : Meter → Nat) :
    since Entry.atMs Entry.amount horizonMs ((book.enter atMs amount).entries meter) =
      since Entry.atMs Entry.amount horizonMs (book.entries meter) +
        if horizonMs ≤ atMs then amount meter else 0 := by
  rw [enter]
  dsimp only
  split
  case isTrue => simp
  case isFalse hzero => simp [Nat.eq_zero_of_not_pos hzero]

theorem reservation_append (governor : GenerativeBudgetGovernor) (new : BudgetReservation)
    (index : Nat) : BudgetHost.reservation ⟨governor, host.reservations ++ [some new]⟩ index =
      if index = host.reservations.length then some new else host.reservation index :=
  List.join_getElem?_concat host.reservations (some new) index

/-- A grant that charges what its account reserves. -/
theorem Agrees.opened (h : Agrees book host) {governor : GenerativeBudgetGovernor}
    {new : BudgetReservation} (reserved : Meter → Nat)
    (hpolicy : governor.policy = host.governor.policy)
    (hledger : ∀ meter : Meter, meter.ledger governor =
      pushCharge (meter.ledger host.governor) (reserved meter))
    (hcharged : ∀ meter : Meter, reserved meter = meter.charged new) (atMs : Nat) :
    Agrees (book.opened atMs reserved) ⟨governor, host.reservations ++ [some new]⟩ where
  ledger meter := by
    rw [hledger meter, ← h.ledger meter]
    exact map_enter book meter atMs reserved
  paired := by simp [Book.opened, h.paired]
  unsettled index reservation hfound hunfinished := by
    rw [reservation_append] at hfound
    split at hfound
    case isTrue heq =>
      cases hfound
      refine ⟨⟨atMs, reserved, none⟩, ?_, rfl, hcharged⟩
      rw [heq, h.paired]
      exact List.getElem?_concat_length
    case isFalse =>
      obtain ⟨account, haccount, hrest⟩ := h.unsettled index reservation hfound hunfinished
      refine ⟨account, ?_, hrest⟩
      exact List.getElem?_append_left (List.getElem?_eq_some_iff.mp haccount).1 ▸ haccount
  window meter horizonMs hlimit hle := by
    rw [hpolicy] at hlimit hle
    have hentries := since_enter book meter atMs horizonMs reserved
    rw [h.window meter horizonMs hlimit hle] at hentries
    refine hentries.trans ?_
    simp [bookedSince, Book.opened, Account.booked, Account.spent]

theorem reservation_set (governor : GenerativeBudgetGovernor) (new : Option BudgetReservation)
    {index other : Nat} {reservation : BudgetReservation}
    (h : BudgetHost.reservation ⟨governor, host.reservations.set index new⟩ other =
      some reservation) :
    (other = index ∧ new = some reservation) ∨
      (other ≠ index ∧ host.reservation other = some reservation) := by
  rw [BudgetHost.reservation, List.getElem?_set] at h
  split at h
  case isTrue heq =>
    split at h
    · exact Or.inl ⟨heq.symm, h⟩
    · cases h
  case isFalse hne => exact Or.inr ⟨Ne.symm hne, h⟩

/-- A step that leaves the ledgers alone, and finishes or drops one reservation at most. -/
theorem Agrees.set (h : Agrees book host) {governor : GenerativeBudgetGovernor}
    (hledger : ∀ meter : Meter, meter.ledger governor = meter.ledger host.governor)
    (hpolicy : governor.policy = host.governor.policy) {index : Nat}
    {new : Option BudgetReservation}
    (hnew : ∀ reservation, new = some reservation → reservation.finished = true) :
    Agrees book ⟨governor, host.reservations.set index new⟩ := by
  refine h.keep hledger hpolicy List.length_set fun other reservation hfound hunfinished ↦ ?_
  rcases reservation_set _ _ hfound with ⟨-, hclosed⟩ | ⟨-, hother⟩
  · rw [hnew reservation hclosed] at hunfinished
    cases hunfinished
  · exact hother

theorem policy_returnSlot (governor : GenerativeBudgetGovernor) (slot : Bool) :
    (governor.returnSlot slot).policy = governor.policy := by
  rw [GenerativeBudgetGovernor.returnSlot]
  split <;> rfl

theorem ledger_returnSlot (governor : GenerativeBudgetGovernor) (slot : Bool) (meter : Meter) :
    meter.ledger (governor.returnSlot slot) = meter.ledger governor := by
  rw [GenerativeBudgetGovernor.returnSlot]
  split
  · cases meter <;> dsimp only [Meter.ledger]
  · rfl

theorem ledger_releaseSlot (governor : GenerativeBudgetGovernor) (slot : Bool) (meter : Meter) :
    meter.ledger (governor.releaseSlot slot) = meter.ledger governor := by
  rw [← ledger_returnSlot governor slot meter]
  cases meter <;> rfl

theorem pushCharge_ite (ledger : List Nat) (limited : Bool) (amount : Nat) :
    pushCharge ledger (if limited then amount else 0) =
      if limited then pushCharge ledger amount else ledger := by
  cases limited <;> rfl

theorem ledger_settleUnits (governor : GenerativeBudgetGovernor)
    (ttsChars cost : Nat) (reservation : BudgetReservation) (meter : Meter) :
    meter.ledger (governor.settleUnits ttsChars cost reservation.chargedTtsChars
      reservation.chargedCostMilliunits reservation.inFlightSlot) =
        pushCharge (meter.ledger governor) (if (meter.limit governor.policy).isSome then
          Meter.settled ttsChars cost meter - meter.charged reservation else 0) := by
  have hledger := ledger_returnSlot governor reservation.inFlightSlot meter
  have hpolicy := policy_returnSlot governor reservation.inFlightSlot
  rw [pushCharge_ite, ← hledger, ← hpolicy]
  cases meter <;> rfl

/-- The settlement of a reservation that is not finished. -/
theorem Agrees.settle (h : Agrees book host) {index ttsChars cost : Nat}
    {reservation : BudgetReservation} (hfound : host.reservation index = some reservation)
    (hunfinished : reservation.finished = false) :
    Agrees (book.settle host.governor.policy index (Meter.settled ttsChars cost))
      { governor := host.governor.settleUnits ttsChars cost reservation.chargedTtsChars
          reservation.chargedCostMilliunits reservation.inFlightSlot
        reservations := host.reservations.set index (some reservation.close) } := by
  obtain ⟨account, haccount, hunsettled, hreserved⟩ :=
    h.unsettled index reservation hfound hunfinished
  have hpolicy : (host.governor.settleUnits ttsChars cost reservation.chargedTtsChars
      reservation.chargedCostMilliunits reservation.inFlightSlot).policy = host.governor.policy :=
    policy_returnSlot _ _
  rw [Book.settle, haccount]
  dsimp only
  generalize hextra : (fun meter : Meter ↦ if (meter.limit host.governor.policy).isSome then
    Meter.settled ttsChars cost meter - account.reserved meter else 0) = extra
  refine ⟨fun meter ↦ ?_, ?_, fun other found hother hopen ↦ ?_,
    fun meter horizonMs hlimit hle ↦ ?_⟩
  · have hentries := map_enter book meter account.grantedAtMs extra
    refine hentries.trans ?_
    rw [h.ledger meter, ledger_settleUnits, ← hextra, ← hreserved meter]
  · rw [List.length_set, List.length_set]
    exact h.paired
  · rcases reservation_set _ _ hother with ⟨-, hclosed⟩ | ⟨hne, hother⟩
    · cases hclosed
      cases hopen
    · obtain ⟨account', haccount', hrest⟩ := h.unsettled other found hother hopen
      refine ⟨account', ?_, hrest⟩
      rw [List.getElem?_set_ne (Ne.symm hne)]
      exact haccount'
  · rw [hpolicy] at hlimit hle
    have hbooked : account.booked meter = account.reserved meter := by
      rw [Account.booked, Account.spent, hunsettled]
      exact max_self _
    have hmax : Account.booked meter { account with settled := some (Meter.settled ttsChars cost) } =
        account.booked meter + (Meter.settled ttsChars cost meter - account.reserved meter) := by
      rw [hbooked]
      show max (account.reserved meter) (Meter.settled ttsChars cost meter) = _
      omega
    have hset : since Account.grantedAtMs (Account.booked meter) horizonMs (book.accounts.set index
        { account with settled := some (Meter.settled ttsChars cost) }) =
          book.bookedSince meter horizonMs + if horizonMs ≤ account.grantedAtMs then
            Meter.settled ttsChars cost meter - account.reserved meter else 0 :=
      since_set haccount rfl hmax
    have hentries := since_enter book meter account.grantedAtMs horizonMs extra
    have hamount : extra meter = Meter.settled ttsChars cost meter - account.reserved meter := by
      rw [← hextra]
      exact if_pos hlimit
    rw [h.window meter horizonMs hlimit hle, hamount] at hentries
    exact hentries.trans hset.symm

end Agrees

/-! ## Steps -/

section Decisions

variable {governor : GenerativeBudgetGovernor} {admission : BudgetAdmission} {meter : Meter}
  {limit : Nat}

theorem tryAdmit_uncharged (h : governor.charges admission = false) (nowMs : Nat) :
    governor.tryAdmit admission nowMs =
      (governor, .ok (GenerativeBudgetGovernor.unchargedReservation nowMs)) := by
  rw [GenerativeBudgetGovernor.charges, Bool.and_eq_false_iff] at h
  rw [GenerativeBudgetGovernor.tryAdmit]
  rcases h with h | h
  · rw [h]
    rfl
  · rw [Bool.not_eq_false'] at h
    rw [if_pos h, ite_self]

theorem tryAdmit_charged (h : governor.charges admission = true) (nowMs : Nat) :
    governor.tryAdmit admission nowMs =
      match (governor.trimWindows nowMs).denial admission with
      | some reason => ((governor.trimWindows nowMs).deny reason, .error reason)
      | none =>
        (((governor.trimWindows nowMs).grant admission nowMs).1,
          .ok ((governor.trimWindows nowMs).grant admission nowMs).2) := by
  rw [GenerativeBudgetGovernor.charges, Bool.and_eq_true, Bool.not_eq_true'] at h
  rw [GenerativeBudgetGovernor.tryAdmit, h.1]
  exact (if_neg (by simp)).trans (if_neg (by simp [h.2]))

variable (host : BudgetHost)

/-- An admission without a charge. -/
theorem event_uncharged (h : host.governor.charges admission = false) (nowMs : Nat) :
    BudgetHost.machine.event host (.tryAdmit admission nowMs) =
      ⟨host, .tryAdmit admission nowMs, ⟨host.governor, host.reservations ++
        [some (GenerativeBudgetGovernor.unchargedReservation nowMs)]⟩, .ok ()⟩ := by
  dsimp only [Machine.event, BudgetHost.machine, BudgetHost.perform]
  rw [tryAdmit_uncharged h]

/-- A denial. -/
theorem event_denied (h : host.governor.charges admission = true) {nowMs : Nat}
    {reason : BudgetDenialReason}
    (hdenial : (host.governor.trimWindows nowMs).denial admission = some reason) :
    BudgetHost.machine.event host (.tryAdmit admission nowMs) =
      ⟨host, .tryAdmit admission nowMs,
        ⟨(host.governor.trimWindows nowMs).deny reason, host.reservations⟩, .error reason⟩ := by
  dsimp only [Machine.event, BudgetHost.machine, BudgetHost.perform]
  rw [tryAdmit_charged h, hdenial]

/-- An admission with a charge. -/
theorem event_granted (h : host.governor.charges admission = true) {nowMs : Nat}
    (hdenial : (host.governor.trimWindows nowMs).denial admission = none) :
    BudgetHost.machine.event host (.tryAdmit admission nowMs) =
      ⟨host, .tryAdmit admission nowMs,
        ⟨((host.governor.trimWindows nowMs).grant admission nowMs).1, host.reservations ++
          [some ((host.governor.trimWindows nowMs).grant admission nowMs).2]⟩, .ok ()⟩ := by
  dsimp only [Machine.event, BudgetHost.machine, BudgetHost.perform]
  rw [tryAdmit_charged h, hdenial]

/-- No denial: both meters have room. -/
theorem denial_eq_none (h : governor.denial admission = none)
    (hlimit : meter.limit governor.policy = some limit) :
    satAdd (ledgerSum (meter.ledger governor)) (meter.estimate admission) ≤
      meter.share governor.policy admission limit := by
  rw [GenerativeBudgetGovernor.denial] at h
  split_ifs at h with _ _ _ _ hchars hcost
  cases meter with
  | ttsChars =>
    rw [show governor.policy.maxTtsCharsPerInterval = some limit from hlimit, Option.any_some,
      decide_eq_true_eq, not_lt] at hchars
    exact hchars
  | estimatedCost =>
    rw [show governor.policy.maxEstimatedCostMilliunitsPerInterval = some limit from hlimit,
      Option.any_some, decide_eq_true_eq, not_lt] at hcost
    exact hcost

/-- A denial by a meter: it has no room. -/
theorem denial_eq_some (h : governor.denial admission = some meter.denial)
    (hlimit : meter.limit governor.policy = some limit) :
    meter.share governor.policy admission limit <
      satAdd (ledgerSum (meter.ledger governor)) (meter.estimate admission) := by
  rw [GenerativeBudgetGovernor.denial] at h
  cases meter with
  | ttsChars =>
    split_ifs at h with _ _ _ _ hchars <;> try (cases h; done)
    rw [show governor.policy.maxTtsCharsPerInterval = some limit from hlimit, Option.any_some,
      decide_eq_true_eq] at hchars
    exact hchars
  | estimatedCost =>
    split_ifs at h with _ _ _ _ _ hcost <;> try (cases h; done)
    rw [show governor.policy.maxEstimatedCostMilliunitsPerInterval = some limit from hlimit,
      Option.any_some, decide_eq_true_eq] at hcost
    exact hcost

theorem share_le (policy : GenerativeBudgetPolicy) (admission : BudgetAdmission) (limit : Nat)
    (meter : Meter) : meter.share policy admission limit ≤ limit := by
  cases meter with
  | ttsChars =>
    rw [Meter.share, GenerativeBudgetPolicy.effectiveLimit]
    split
    · exact Nat.le_refl _
    · exact Nat.sub_le _ _
  | estimatedCost => exact Nat.le_refl _

/-- In range, the comparison of an admission is that of the sums. -/
theorem Fits.share_lt_iff (h : Fits governor admission meter)
    (hlimit : meter.limit governor.policy = some limit) :
    meter.share governor.policy admission limit <
        satAdd (ledgerSum (meter.ledger governor)) (meter.estimate admission) ↔
      meter.share governor.policy admission limit <
        (meter.ledger governor).sum + meter.estimate admission := by
  obtain ⟨hsum, hroom⟩ := h
  have hledger : ledgerSum (meter.ledger governor) = (meter.ledger governor).sum :=
    Nat.mod_eq_of_lt (Nat.lt_of_le_of_lt hsum (by decide))
  rw [hledger]
  refine lt_satAdd_iff (hroom.imp_right fun hall ↦ ?_)
  rw [hlimit] at hall
  exact Nat.lt_of_le_of_lt (share_le _ _ _ _) (by simpa using hall)

theorem ledger_grant (governor : GenerativeBudgetGovernor) (admission : BudgetAdmission)
    (nowMs : Nat) (meter : Meter) : meter.ledger (governor.grant admission nowMs).1 =
      pushCharge (meter.ledger governor) (meter.reserve governor.policy admission) := by
  cases meter <;> rfl

end Decisions

section Steps

variable {book : Book} {host : BudgetHost}

theorem onBoth_iff {p : Meter → Bool} : onBoth p = true ↔ ∀ meter, p meter = true := by
  rw [onBoth, Bool.and_eq_true]
  constructor
  · rintro ⟨hchars, hcost⟩ (_ | _)
    · exact hchars
    · exact hcost
  · exact fun h ↦ ⟨h _, h _⟩

/-- The admission step of a governor that charges for it, when it is timely. -/
structure TimelyCharge (book : Book) (host : BudgetHost) (admission : BudgetAdmission)
    (nowMs : Nat) : Prop where
  clock : book.clockMs ≤ nowMs
  cuts : ∀ meter, book.CutsExactly (host.governor.policy.horizonMs nowMs) meter
  fits : ∀ meter, Fits (host.governor.trimWindows nowMs) admission meter

theorem timely_tryAdmit {admission : BudgetAdmission} {nowMs : Nat}
    (h : book.timely (BudgetHost.machine.event host (.tryAdmit admission nowMs)) = true) :
    book.clockMs ≤ nowMs ∧
      (host.governor.charges admission = true → TimelyCharge book host admission nowMs) := by
  dsimp only [timely, Machine.event] at h
  rw [Bool.and_eq_true, decide_eq_true_eq] at h
  refine ⟨h.1, fun hcharges ↦ ?_⟩
  have hboth := h.2
  rw [hcharges, Bool.not_true, Bool.false_or, onBoth_iff] at hboth
  refine ⟨h.1, fun meter ↦ ?_, fun meter ↦ ?_⟩
  · exact of_decide_eq_true (Bool.and_eq_true_iff.mp (hboth meter)).1
  · exact of_decide_eq_true (Bool.and_eq_true_iff.mp (hboth meter)).2

/-- A timely admission or denial is due to the window alone. -/
theorem Agrees.kept (h : Agrees book host) (op : BudgetHost.Op)
    (htimely : book.timely (BudgetHost.machine.event host op) = true) :
    book.Kept (BudgetHost.machine.event host op) := by
  intro admission nowMs hop hcharges meter limit hlimit
  obtain rfl : op = .tryAdmit admission nowMs := hop
  dsimp only [Machine.event] at hcharges hlimit ⊢
  have hcharge := (timely_tryAdmit htimely).2 hcharges
  have hbooked : (meter.ledger (host.governor.trimWindows nowMs)).sum =
      book.bookedSince meter (host.governor.policy.horizonMs nowMs) :=
    (h.tock hcharge.clock).sum_trim (by rw [hlimit]; rfl) (hcharge.cuts meter)
  have hroom := (hcharge.fits meter).share_lt_iff hlimit
  have hperform : (BudgetHost.machine.step host (.tryAdmit admission nowMs)).2 =
      ((host.governor.trimWindows nowMs).denial admission).elim (.ok ()) .error := by
    show (host.perform (.tryAdmit admission nowMs)).2 = _
    rw [BudgetHost.perform, tryAdmit_charged hcharges]
    cases (host.governor.trimWindows nowMs).denial admission <;> rfl
  rw [hperform]
  rw [hbooked] at hroom
  cases hdenial : (host.governor.trimWindows nowMs).denial admission with
  | none =>
    refine ⟨fun _ ↦ ?_, fun h ↦ by cases h⟩
    have hfits := mt hroom.mpr (Nat.not_lt.mpr (denial_eq_none hdenial hlimit))
    calc book.spentSince meter (host.governor.policy.horizonMs nowMs) + meter.estimate admission
        ≤ book.bookedSince meter (host.governor.policy.horizonMs nowMs) +
            meter.estimate admission :=
          Nat.add_le_add_right (since_le_since (Account.spent_le_booked meter) _) _
      _ ≤ meter.share host.governor.policy admission limit := Nat.not_lt.mp hfits
      _ ≤ limit := share_le _ _ _ _
  | some reason =>
    refine ⟨fun h ↦ (by cases h), fun h ↦ ?_⟩
    cases h
    exact hroom.mp (denial_eq_some hdenial hlimit)

theorem Agrees.granted (h : Agrees book host) (admission : BudgetAdmission) (atMs : Nat) :
    Agrees (book.opened atMs (Meter.reserve host.governor.policy admission))
      { governor := (host.governor.grant admission atMs).1
        reservations := host.reservations ++ [some (host.governor.grant admission atMs).2] } := by
  refine h.opened _ ?_ (ledger_grant host.governor admission atMs) (fun meter ↦ ?_) atMs
  · rfl
  · cases meter <;> rfl

/-- A timely step keeps the book. -/
theorem Agrees.next (h : Agrees book host) (op : BudgetHost.Op)
    (htimely : book.timely (BudgetHost.machine.event host op) = true) :
    Agrees (book.observe (BudgetHost.machine.event host op)) (BudgetHost.machine.next host op) := by
  cases op with
  | tryAdmit admission nowMs =>
    obtain ⟨hclock, hcharge⟩ := timely_tryAdmit htimely
    have htock := h.tock hclock
    dsimp only [Machine.event, Machine.next, BudgetHost.machine, observe, BudgetHost.perform]
    cases hcharges : host.governor.charges admission with
    | false =>
      rw [tryAdmit_uncharged hcharges]
      exact htock.opened (fun _ ↦ 0) rfl (fun _ ↦ rfl) (fun meter ↦ by cases meter <;> rfl) nowMs
    | true =>
      have htrim := htock.trim (hcharge hcharges).cuts
      rw [tryAdmit_charged hcharges]
      cases (host.governor.trimWindows nowMs).denial admission with
      | none =>
        exact htrim.granted admission nowMs
      | some reason =>
        exact htrim.keep (fun meter ↦ by cases meter <;> rfl) rfl rfl fun _ _ hfound _ ↦ hfound
  | settle index ttsChars cost =>
    dsimp only [Machine.event, Machine.next, BudgetHost.machine, observe, BudgetHost.perform,
      BudgetHost.update]
    cases hfound : host.reservation index with
    | none => exact h
    | some reservation =>
      dsimp only [BudgetReservation.settle]
      cases hfinished : reservation.finished with
      | false => exact h.settle hfound hfinished
      | true =>
        refine h.set (fun _ ↦ rfl) rfl ?_
        rintro _ ⟨⟩
        exact hfinished
  | release index =>
    dsimp only [Machine.event, Machine.next, BudgetHost.machine, observe, BudgetHost.perform,
      BudgetHost.update]
    cases hfound : host.reservation index with
    | none => exact h
    | some reservation =>
      dsimp only [BudgetReservation.release]
      cases hfinished : reservation.finished with
      | false =>
        refine h.set (fun meter ↦ ?_) ?_ ?_
        · exact (ledger_releaseSlot host.governor reservation.inFlightSlot meter)
        · exact policy_returnSlot host.governor reservation.inFlightSlot
        · rintro _ ⟨⟩
          rfl
      | true =>
        refine h.set (fun _ ↦ rfl) rfl ?_
        rintro _ ⟨⟩
        exact hfinished
  | clone index => cases htimely
  | drop index =>
    dsimp only [Machine.event, Machine.next, BudgetHost.machine, observe, BudgetHost.perform,
      BudgetHost.update]
    cases hfound : host.reservation index with
    | none => exact h
    | some reservation =>
      refine h.set (ledger_returnSlot host.governor reservation.inFlightSlot)
        (policy_returnSlot host.governor reservation.inFlightSlot) ?_
      rintro _ ⟨⟩
  | noteDegraded => exact h.keep (fun meter ↦ by cases meter <;> rfl) rfl rfl fun _ _ hfound _ ↦ hfound
  | tick nowMs =>
    dsimp only [timely, Machine.event] at htimely
    rw [Bool.and_eq_true, decide_eq_true_eq, onBoth_iff] at htimely
    exact (h.tock htimely.1).trim fun meter ↦ of_decide_eq_true (htimely.2 meter)

end Steps

/-! ## Runs -/

/-- **The rolling windows.**  In every run whose trims cut exactly, each admission keeps the
characters and the cost charged to the grants of the window within their limits, and each
denial for want of them is due to these charges alone. -/
theorem windows_kept (policy : GenerativeBudgetPolicy) (ops : List BudgetHost.Op)
    (h : BudgetHost.machine.Meets observe (fun book e ↦ timely book e = true) (.new policy) empty
      ops) :
    BudgetHost.machine.Meets observe Kept (.new policy) empty ops :=
  BudgetHost.machine.meets_of_invariant (P := fun host book ↦ Agrees book host)
    (fun _ _ op hagrees htimely ↦ hagrees.next op htimely)
    (fun _ _ op hagrees htimely ↦ hagrees.kept op htimely) (new_agrees policy) h

/-- Six hundred characters in a second. -/
def charsPolicy : GenerativeBudgetPolicy :=
  { GenerativeBudgetPolicy.default with
    enabled := true
    maxTtsCharsPerInterval := some 600
    intervalMs := 1000 }

def ask (chars : Nat) : BudgetAdmission := ⟨.ordinary, chars, 0⟩

/-- The first second: nothing is old enough to be dropped, or small enough. -/
theorem windows_kept_first_second :
    BudgetHost.machine.Meets observe Kept (.new charsPolicy) empty
      [.tryAdmit (ask 500) 10, .settle 0 550 0, .tryAdmit (ask 60) 900, .tryAdmit (ask 50) 1000] :=
  windows_kept charsPolicy _ (by decide)

/-- A grant of the same window is forgotten, since its amount is smaller than the horizon. -/
theorem recent_grant_forgotten :
    ¬BudgetHost.machine.Meets observe Kept (.new charsPolicy) empty
      [.tryAdmit (ask 500) 2000, .tryAdmit (ask 500) 2001] := by
  rintro ⟨-, hkept, -⟩
  obtain ⟨hadmitted, -⟩ := hkept (ask 500) 2001 rfl rfl .ttsChars 600 rfl
  exact absurd (hadmitted rfl) (by decide)

end Book

end Aivtuber
