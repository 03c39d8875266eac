import Aivtuber.App.BudgetWindow

/-!
# The slots of the budget governor

A charged admission takes one of the slots in flight, and its reservation gives it back
when it is settled, released or dropped.  A reservation can be cloned, and each clone has a
hold of the counter of its own, so that what one admission took is given back once for
each of its copies.

A `SlotBook` knows what the governor does not: which admission a copy belongs to, and
which admissions were released.  The counter is right exactly in the runs in which no copy
is ended after another copy of the same admission (`slots_counted`).
-/

namespace Aivtuber

/-- The reservation that an operation ends. -/
def BudgetHost.Op.ended : BudgetHost.Op → Option Nat
  | .settle index _ _ | .release index | .drop index => some index
  | _ => none

/-- A charged admission. -/
structure SlotAccount where
  /-- A copy of its reservation was settled, released or dropped. -/
  released : Bool
  /-- How often its slot was given back. -/
  returns : Nat
deriving DecidableEq

namespace SlotAccount

/-- The account once a copy ends; `moved` says whether the counter went down. -/
def endCopy (moved : Bool) (account : SlotAccount) : SlotAccount where
  released := true
  returns := account.returns + moved.toNat

/-- A slot is given back once it is released, and no further time. -/
def Exact (account : SlotAccount) : Prop := account.returns = account.released.toNat

instance (account : SlotAccount) : Decidable account.Exact := inferInstanceAs (Decidable (_ = _))

end SlotAccount

structure SlotBook where
  accounts : List SlotAccount
  /-- The account of each reservation; one that was not charged has none. -/
  owners : List (Option Nat)

namespace SlotBook

open BudgetHost (Op)
open Book (BudgetEvent)

def empty : SlotBook := ⟨[], []⟩

/-- The charged admissions that are not released. -/
def held (book : SlotBook) : Nat := book.accounts.countP fun account ↦ !account.released

/-- The account of a reservation. -/
def owner (book : SlotBook) (index : Nat) : Option Nat := (book.owners[index]?).join

/-- The admission of a reservation is released. -/
def isReleased (book : SlotBook) (index : Nat) : Bool :=
  (book.owner index).any fun account ↦ (book.accounts[account]?).any SlotAccount.released

/-- A charged admission. -/
def charge (book : SlotBook) : SlotBook where
  accounts := book.accounts ++ [⟨false, 0⟩]
  owners := book.owners ++ [some book.accounts.length]

/-- One more reservation, of an account that is already there. -/
def share (book : SlotBook) (owner : Option Nat) : SlotBook :=
  { book with owners := book.owners ++ [owner] }

def endCopy (book : SlotBook) (index : Nat) (moved : Bool) : SlotBook :=
  match book.owner index with
  | none => book
  | some account => { book with accounts := book.accounts.modify account (.endCopy moved) }

/-- The book after one more step. -/
def observe (book : SlotBook) (e : BudgetEvent) : SlotBook :=
  match e.input, e.output with
  | .tryAdmit admission _, .ok _ =>
    if e.pre.governor.charges admission then book.charge else book.share none
  | .clone index, _ =>
    if (e.pre.reservation index).isSome then book.share (book.owner index) else book
  | op, _ =>
    match op.ended with
    | none => book
    | some index =>
      if (e.pre.reservation index).isSome then
        book.endCopy index (e.post.governor.inFlight ≠ e.pre.governor.inFlight)
      else book

/-- The counter stands at the charged admissions that are not released, it did not pass
below zero, and every slot is given back at the release of its admission alone. -/
def Sound (book : SlotBook) (e : BudgetEvent) : Prop :=
  e.post.governor.inFlight = (book.observe e).held ∧
    e.post.governor.inFlight ≤ e.pre.governor.inFlight + 1 ∧
    ∀ account ∈ (book.observe e).accounts, account.Exact

instance (book : SlotBook) (e : BudgetEvent) : Decidable (book.Sound e) :=
  inferInstanceAs (Decidable (_ ∧ _ ∧ _))

/-- No copy that still holds a slot is ended after its admission was released, and the
counter has room for what is granted. -/
structure Careful (book : SlotBook) (e : BudgetEvent) : Prop where
  once : ∀ index reservation, e.input.ended = some index →
    e.pre.reservation index = some reservation → reservation.inFlightSlot = true →
      book.isReleased index = false
  room : ∀ admission nowMs, e.input = .tryAdmit admission nowMs →
    e.pre.governor.charges admission = true →
      (e.pre.governor.trimWindows nowMs).denial admission = none →
        e.pre.governor.inFlight + 1 < 2 ^ 32

/-! ## The book agrees with the governor -/

/-- The counter is right, and every reservation that holds a slot has its account. -/
structure Tallied (book : SlotBook) (host : BudgetHost) : Prop where
  paired : host.reservations.length = book.owners.length
  counted : host.governor.inFlight = book.held
  bounded : host.governor.inFlight < 2 ^ 32
  exact : ∀ account ∈ book.accounts, account.Exact
  holding : ∀ index reservation, host.reservation index = some reservation →
    reservation.inFlightSlot = true → reservation.finished = false ∧
      ∃ account, book.owner index = some account ∧ account < book.accounts.length
  spent : ∀ index reservation, host.reservation index = some reservation →
    reservation.inFlightSlot = false → ∀ account, book.owner index = some account →
      ∃ known, book.accounts[account]? = some known ∧ known.released = true

section Tallied

variable {book : SlotBook} {host : BudgetHost}

theorem new_tallied (policy : GenerativeBudgetPolicy) : Tallied empty (.new policy) where
  paired := rfl
  counted := rfl
  bounded := Nat.two_pow_pos 32
  exact account h := by cases h
  holding index reservation h := by simp [BudgetHost.reservation, BudgetHost.new] at h
  spent index reservation h := by simp [BudgetHost.reservation, BudgetHost.new] at h

/-- A step that leaves the counter and the reservations alone. -/
theorem Tallied.keep (h : Tallied book host) {governor : GenerativeBudgetGovernor}
    (hinFlight : governor.inFlight = host.governor.inFlight) :
    Tallied book ⟨governor, host.reservations⟩ where
  paired := h.paired
  counted := hinFlight.trans h.counted
  bounded := hinFlight ▸ h.bounded
  exact := h.exact
  holding := h.holding
  spent := h.spent

theorem owner_append (accounts : List SlotAccount) (owners : List (Option Nat))
    (new : Option Nat) (index : Nat) : owner ⟨accounts, owners ++ [new]⟩ index =
      if index = owners.length then new else owner ⟨accounts, owners⟩ index :=
  List.join_getElem?_concat owners new index

/-- One more reservation, of an account that is already there. -/
theorem Tallied.share (h : Tallied book host) {owner : Option Nat} {new : BudgetReservation}
    (hholding : new.inFlightSlot = true → new.finished = false ∧
      ∃ account, owner = some account ∧ account < book.accounts.length)
    (hspent : new.inFlightSlot = false → ∀ account, owner = some account →
      ∃ known, book.accounts[account]? = some known ∧ known.released = true) :
    Tallied (book.share owner) ⟨host.governor, host.reservations ++ [some new]⟩ where
  paired := by simp [SlotBook.share, h.paired]
  counted := h.counted
  bounded := h.bounded
  exact := h.exact
  holding index reservation hfound hslot := by
    rw [Book.reservation_append] at hfound
    rw [SlotBook.share, owner_append, ← h.paired]
    split at hfound
    case isTrue heq =>
      cases hfound
      rw [if_pos heq]
      exact hholding hslot
    case isFalse hne =>
      rw [if_neg hne]
      exact h.holding index reservation hfound hslot
  spent index reservation hfound hslot account howner := by
    rw [Book.reservation_append] at hfound
    rw [SlotBook.share, owner_append, ← h.paired] at howner
    split at hfound
    case isTrue heq =>
      cases hfound
      rw [if_pos heq] at howner
      exact hspent hslot account howner
    case isFalse hne =>
      rw [if_neg hne] at howner
      exact h.spent index reservation hfound hslot account howner

theorem held_concat (accounts : List SlotAccount) (owners : List (Option Nat)) (returns : Nat) :
    held ⟨accounts ++ [⟨false, returns⟩], owners⟩ = held ⟨accounts, owners⟩ + 1 := by
  rw [held, List.countP_append]
  rfl

/-- A charged admission, while the counter has room. -/
theorem Tallied.charge (h : Tallied book host) {governor : GenerativeBudgetGovernor}
    {new : BudgetReservation} (hinFlight : governor.inFlight = host.governor.inFlight + 1)
    (hroom : host.governor.inFlight + 1 < 2 ^ 32) (hslot : new.inFlightSlot = true)
    (hopen : new.finished = false) :
    Tallied book.charge ⟨governor, host.reservations ++ [some new]⟩ := by
  have hgrown : Tallied ⟨book.accounts ++ [⟨false, 0⟩], book.owners⟩ ⟨governor, host.reservations⟩ :=
    { paired := h.paired
      counted := by
        rw [hinFlight, held_concat, h.counted]
      bounded := hinFlight ▸ hroom
      exact := fun account haccount ↦ by
        rcases List.mem_append.mp haccount with hold | hnew
        · exact h.exact account hold
        · rw [List.mem_singleton.mp hnew, SlotAccount.Exact, Bool.toNat_false]
      holding := fun index reservation hfound hslot ↦ by
        obtain ⟨hunfinished, account, howner, hlt⟩ := h.holding index reservation hfound hslot
        exact ⟨hunfinished, account, howner, by simp; omega⟩
      spent := fun index reservation hfound hslot account howner ↦ by
        obtain ⟨known, hknown, hreleased⟩ := h.spent index reservation hfound hslot account howner
        exact ⟨known, (List.getElem?_append_left (List.getElem?_eq_some_iff.mp hknown).1).trans
          hknown, hreleased⟩ }
  refine hgrown.share (fun _ ↦ ⟨hopen, book.accounts.length, rfl, by simp⟩) fun hempty ↦ ?_
  rw [hslot] at hempty
  cases hempty

/-! ## The end of a copy -/

/-- A settlement or a release: a reservation that is finished has no slot left. -/
theorem finish_inFlight (governor closed : GenerativeBudgetGovernor)
    {reservation : BudgetReservation}
    (hslot : reservation.inFlightSlot = true → reservation.finished = false)
    (hclosed : closed.inFlight = (governor.returnSlot reservation.inFlightSlot).inFlight) :
    (if reservation.finished then (reservation, governor)
      else (reservation.close, closed)).1.inFlightSlot = false ∧
    (if reservation.finished then (reservation, governor)
      else (reservation.close, closed)).2.inFlight =
        (governor.returnSlot reservation.inFlightSlot).inFlight := by
  split
  case isTrue hfinished =>
    have hempty : reservation.inFlightSlot = false := by
      apply Bool.eq_false_of_not_eq_true
      intro hheld
      rw [hslot hheld] at hfinished
      cases hfinished
    refine ⟨hempty, ?_⟩
    rw [hempty]
    rfl
  case isFalse => exact ⟨rfl, hclosed⟩

/-- What an operation does to the host when it ends a copy. -/
theorem perform_ended {op : Op} {index : Nat} {reservation : BudgetReservation}
    (hop : op.ended = some index) (hfound : host.reservation index = some reservation)
    (hslot : reservation.inFlightSlot = true → reservation.finished = false) :
    ∃ new : Option BudgetReservation,
      (BudgetHost.machine.next host op).reservations = host.reservations.set index new ∧
      (∀ left, new = some left → left.inFlightSlot = false) ∧
      (BudgetHost.machine.next host op).governor.inFlight =
        (host.governor.returnSlot reservation.inFlightSlot).inFlight := by
  cases op with
  | settle index' ttsChars cost =>
    cases hop
    have hend := finish_inFlight host.governor (host.governor.settleUnits ttsChars cost
      reservation.chargedTtsChars reservation.chargedCostMilliunits
      reservation.inFlightSlot) hslot rfl
    dsimp only [Machine.next, BudgetHost.machine, BudgetHost.perform, BudgetHost.update]
    rw [hfound]
    refine ⟨_, rfl, fun left hleft ↦ ?_, hend.2⟩
    cases hleft
    exact hend.1
  | release index' =>
    cases hop
    have hend := finish_inFlight host.governor
      (host.governor.releaseSlot reservation.inFlightSlot) hslot rfl
    dsimp only [Machine.next, BudgetHost.machine, BudgetHost.perform, BudgetHost.update]
    rw [hfound]
    refine ⟨_, rfl, fun left hleft ↦ ?_, hend.2⟩
    cases hleft
    exact hend.1
  | drop index' =>
    cases hop
    dsimp only [Machine.next, BudgetHost.machine, BudgetHost.perform, BudgetHost.update]
    rw [hfound]
    refine ⟨none, rfl, fun left hleft ↦ ?_, rfl⟩
    cases hleft
  | _ => cases hop

/-- A copy that is gone ends no more. -/
theorem perform_ended_none {op : Op} {index : Nat} (hop : op.ended = some index)
    (hfound : host.reservation index = none) : BudgetHost.machine.next host op = host := by
  cases op with
  | settle | release | drop =>
    cases hop
    dsimp only [Machine.next, BudgetHost.machine, BudgetHost.perform, BudgetHost.update]
    rw [hfound]
  | _ => cases hop

/-! ### The account of the copy -/

theorem endCopy_of_owner {index account : Nat} {known : SlotAccount} (moved : Bool)
    (howner : book.owner index = some account) (hknown : book.accounts[account]? = some known) :
    book.endCopy index moved =
      ⟨book.accounts.set account (known.endCopy moved), book.owners⟩ := by
  rw [endCopy, howner]
  dsimp only
  rw [List.modify_eq_set_getElem?, hknown]
  rfl

/-- A first release takes an admission out of the count. -/
theorem held_endCopy {accounts : List SlotAccount} {owners : List (Option Nat)} {account : Nat}
    {known : SlotAccount} (moved : Bool) (hknown : accounts[account]? = some known) :
    held ⟨accounts.set account (known.endCopy moved), owners⟩ =
      held ⟨accounts, owners⟩ - (!known.released).toNat := by
  obtain ⟨hlt, rfl⟩ := List.getElem?_eq_some_iff.mp hknown
  rw [held, List.countP_set hlt]
  cases accounts[account].released <;> simp [held, SlotAccount.endCopy]

/-- An admission that is not released is counted. -/
theorem held_pos {account : Nat} {known : SlotAccount}
    (hknown : book.accounts[account]? = some known) (hopen : known.released = false) :
    0 < book.held := by
  apply List.countP_pos_iff.mpr
  exact ⟨known, List.mem_of_getElem? hknown, by rw [hopen]; rfl⟩

/-- The end of a copy that has no slot. -/
theorem Tallied.spend (h : Tallied book host) {index : Nat} {reservation : BudgetReservation}
    (hfound : host.reservation index = some reservation) (hslot : reservation.inFlightSlot = false)
    {governor : GenerativeBudgetGovernor} (hinFlight : governor.inFlight = host.governor.inFlight)
    {new : Option BudgetReservation} (hnew : ∀ left, new = some left → left.inFlightSlot = false) :
    Tallied book ⟨governor, host.reservations.set index new⟩ where
  paired := by rw [List.length_set, h.paired]
  counted := hinFlight.trans h.counted
  bounded := hinFlight ▸ h.bounded
  exact := h.exact
  holding other left hother hheld := by
    rcases Book.reservation_set _ _ hother with ⟨-, rfl⟩ | ⟨-, hother⟩
    · rw [hnew left rfl] at hheld
      cases hheld
    · exact h.holding other left hother hheld
  spent other left hother hempty := by
    rcases Book.reservation_set _ _ hother with ⟨rfl, -⟩ | ⟨-, hother⟩
    · exact h.spent other reservation hfound hslot
    · exact h.spent other left hother hempty

/-- The first end of a copy that holds a slot. -/
theorem Tallied.giveBack (h : Tallied book host) {index account : Nat} {known : SlotAccount}
    (howner : book.owner index = some account) (hknown : book.accounts[account]? = some known)
    (hopen : known.released = false) {governor : GenerativeBudgetGovernor}
    (hinFlight : governor.inFlight = host.governor.inFlight - 1)
    {new : Option BudgetReservation} (hnew : ∀ left, new = some left → left.inFlightSlot = false) :
    Tallied ⟨book.accounts.set account (known.endCopy true), book.owners⟩
      ⟨governor, host.reservations.set index new⟩ := by
  have hset : ∀ other, ∀ account' ∈ book.owner other,
      (∃ known', book.accounts[account']? = some known' ∧ known'.released = true) →
        ∃ known', (book.accounts.set account (known.endCopy true))[account']? = some known' ∧
          known'.released = true := by
    rintro other account' - ⟨known', hknown', hreleased⟩
    rw [List.getElem?_set]
    split_ifs with heq hlt
    · exact ⟨_, rfl, rfl⟩
    · exact absurd (List.getElem?_eq_some_iff.mp hknown).1 hlt
    · exact ⟨known', hknown', hreleased⟩
  refine ⟨?_, ?_, ?_, ?_, ?_, ?_⟩
  · rw [List.length_set, h.paired]
  · rw [hinFlight, held_endCopy true hknown, hopen, h.counted]
    rfl
  · rw [hinFlight]
    exact Nat.lt_of_le_of_lt (Nat.sub_le _ _) h.bounded
  · intro other hother
    rcases List.mem_or_eq_of_mem_set hother with hold | rfl
    · exact h.exact other hold
    · have hzero : known.returns = 0 := by
        rw [h.exact known (List.mem_of_getElem? hknown), hopen]
        rfl
      rw [SlotAccount.Exact, SlotAccount.endCopy, hzero]
      rfl
  · intro other left hother hheld
    rcases Book.reservation_set _ _ hother with ⟨-, rfl⟩ | ⟨-, hother⟩
    · rw [hnew left rfl] at hheld
      cases hheld
    · rw [List.length_set]
      exact h.holding other left hother hheld
  · intro other left hother hempty account' howner'
    rcases Book.reservation_set _ _ hother with ⟨rfl, -⟩ | ⟨-, hother⟩
    · obtain rfl : account = account' := Option.some.inj (howner.symm.trans howner')
      refine ⟨known.endCopy true, ?_, rfl⟩
      exact List.getElem?_set_self (List.getElem?_eq_some_iff.mp hknown).1
    · exact hset other account' howner' (h.spent other left hother hempty account' howner')

/-! ## Steps -/

/-- A step is careful and keeps the book, or is neither careful nor sound. -/
def Decided (book : SlotBook) (host : BudgetHost) (op : Op) : Prop :=
  let e := BudgetHost.machine.event host op
  (book.Careful e ∧ Tallied (book.observe e) (BudgetHost.machine.next host op) ∧
    e.post.governor.inFlight ≤ e.pre.governor.inFlight + 1) ∨
  (¬book.Careful e ∧ ¬book.Sound e)

theorem Decided.iff {op : Op} (h : Decided book host op) :
    book.Sound (BudgetHost.machine.event host op) ↔
      book.Careful (BudgetHost.machine.event host op) := by
  rcases h with ⟨hcareful, htallied, hfloor⟩ | ⟨hcareful, hsound⟩
  · exact iff_of_true ⟨htallied.counted, hfloor, htallied.exact⟩ hcareful
  · exact iff_of_false hsound hcareful

theorem Decided.next {op : Op} (h : Decided book host op)
    (hsound : book.Sound (BudgetHost.machine.event host op)) :
    Tallied (book.observe (BudgetHost.machine.event host op))
      (BudgetHost.machine.next host op) := by
  rcases h with ⟨-, htallied, -⟩ | ⟨-, hunsound⟩
  · exact htallied
  · exact absurd hsound hunsound

theorem observe_ended {op : Op} {index : Nat} (hop : op.ended = some index) :
    book.observe (BudgetHost.machine.event host op) =
      if (host.reservation index).isSome then
        book.endCopy index
          ((BudgetHost.machine.next host op).governor.inFlight ≠ host.governor.inFlight)
      else book := by
  cases op with
  | settle | release | drop =>
    cases hop
    rfl
  | _ => cases hop

theorem careful_ended_iff {op : Op} {index : Nat} (hop : op.ended = some index) :
    book.Careful (BudgetHost.machine.event host op) ↔ ∀ reservation,
      host.reservation index = some reservation → reservation.inFlightSlot = true →
        book.isReleased index = false := by
  constructor
  · intro hcareful reservation
    exact hcareful.once index reservation hop
  · intro honce
    refine ⟨fun index' reservation hop' ↦ ?_, ?_⟩
    · obtain rfl : index = index' := Option.some.inj (hop.symm.trans hop')
      exact honce reservation
    · rintro admission nowMs rfl
      cases hop

theorem endCopy_of_spent {index : Nat}
    (hspent : ∀ account, book.owner index = some account →
      ∃ known, book.accounts[account]? = some known ∧ known.released = true) :
    book.endCopy index false = book := by
  cases howner : book.owner index with
  | none => rw [endCopy, howner]
  | some account =>
    obtain ⟨known, hknown, hreleased⟩ := hspent account howner
    have hsame : known.endCopy false = known := by
      rw [SlotAccount.endCopy, Bool.toNat_false, Nat.add_zero, ← hreleased]
    rw [endCopy_of_owner false howner hknown, hsame]
    obtain ⟨hlt, rfl⟩ := List.getElem?_eq_some_iff.mp hknown
    rw [List.set_getElem_self]

/-- An operation that ends a copy without a slot. -/
theorem Tallied.decided_empty (h : Tallied book host) {op : Op} {index : Nat}
    (hop : op.ended = some index) {reservation : BudgetReservation}
    (hfound : host.reservation index = some reservation)
    (hslot : reservation.inFlightSlot = false) : Decided book host op := by
  obtain ⟨new, hreservations, hnew, hinFlight⟩ := perform_ended hop hfound fun hheld ↦ by
    rw [hslot] at hheld
    cases hheld
  rw [hslot] at hinFlight
  replace hinFlight : (BudgetHost.machine.next host op).governor.inFlight =
    host.governor.inFlight := hinFlight
  left
  rw [observe_ended hop, hfound, careful_ended_iff hop, Option.isSome_some, if_pos rfl, hinFlight,
    decide_eq_false (not_not_intro rfl), endCopy_of_spent (h.spent index reservation hfound hslot)]
  refine ⟨fun other hother hheld ↦ ?_, ?_, ?_⟩
  · obtain rfl : reservation = other := Option.some.inj (hfound.symm.trans hother)
    rw [hslot] at hheld
    cases hheld
  · have hspend := h.spend hfound hslot hinFlight hnew
    rw [← hreservations] at hspend
    exact hspend
  · exact hinFlight.trans_le (Nat.le_succ _)

/-- An operation that ends a copy with a slot. -/
theorem Tallied.decided_holding (h : Tallied book host) {op : Op} {index : Nat}
    (hop : op.ended = some index) {reservation : BudgetReservation}
    (hfound : host.reservation index = some reservation)
    (hslot : reservation.inFlightSlot = true) : Decided book host op := by
  obtain ⟨hfinished, account, howner, hlt⟩ := h.holding index reservation hfound hslot
  obtain ⟨known, hknown⟩ : ∃ known, book.accounts[account]? = some known :=
    ⟨_, List.getElem?_eq_getElem hlt⟩
  have hreleased : book.isReleased index = known.released := by
    rw [isReleased, howner, Option.any_some, hknown, Option.any_some]
  obtain ⟨new, hreservations, hnew, hinFlight⟩ := perform_ended hop hfound fun _ ↦ hfinished
  rw [hslot] at hinFlight
  replace hinFlight : (BudgetHost.machine.next host op).governor.inFlight =
    (host.governor.inFlight + (2 ^ 32 - 1)) % 2 ^ 32 := hinFlight
  have hbounded := h.bounded
  have hmoved : (BudgetHost.machine.next host op).governor.inFlight ≠ host.governor.inFlight := by
    omega
  have hobserve : book.observe (BudgetHost.machine.event host op) =
      ⟨book.accounts.set account (known.endCopy true), book.owners⟩ := by
    rw [observe_ended hop, hfound, Option.isSome_some, if_pos rfl, decide_eq_true hmoved,
      endCopy_of_owner true howner hknown]
  cases hopen : known.released with
  | false =>
    left
    have hpos : 0 < host.governor.inFlight := h.counted ▸ held_pos hknown hopen
    have hdown : (BudgetHost.machine.next host op).governor.inFlight =
        host.governor.inFlight - 1 := by omega
    rw [hobserve, careful_ended_iff hop]
    refine ⟨fun _ _ _ ↦ hreleased.trans hopen, ?_, ?_⟩
    · have hback := h.giveBack howner hknown hopen hdown hnew
      rw [← hreservations] at hback
      exact hback
    · exact hdown.trans_le ((Nat.sub_le _ _).trans (Nat.le_succ _))
  | true =>
    right
    rw [careful_ended_iff hop, Sound, hobserve]
    refine ⟨fun hcareful ↦ ?_, fun hsound ↦ ?_⟩
    · have hfalse := hcareful reservation hfound hslot
      rw [hreleased, hopen] at hfalse
      cases hfalse
    · apply hmoved
      refine hsound.1.trans ?_
      rw [held_endCopy true hknown, hopen, h.counted]
      rfl

/-- An operation that ends a copy. -/
theorem Tallied.decided_ended (h : Tallied book host) {op : Op} {index : Nat}
    (hop : op.ended = some index) : Decided book host op := by
  cases hfound : host.reservation index with
  | none =>
    left
    rw [observe_ended hop, careful_ended_iff hop, perform_ended_none hop hfound, hfound]
    refine ⟨fun reservation hnone ↦ (by cases hnone), h, ?_⟩
    show (BudgetHost.machine.next host op).governor.inFlight ≤ _
    rw [perform_ended_none hop hfound]
    exact Nat.le_succ _
  | some reservation =>
    cases hslot : reservation.inFlightSlot with
    | false => exact h.decided_empty hop hfound hslot
    | true => exact h.decided_holding hop hfound hslot

theorem careful_of_not_ended {op : Op} (hop : op.ended = none)
    (hroom : ∀ admission nowMs, op ≠ .tryAdmit admission nowMs) :
    book.Careful (BudgetHost.machine.event host op) where
  once index reservation hended := by
    rw [Machine.event, hop] at hended
    cases hended
  room admission nowMs hadmit := absurd hadmit (hroom admission nowMs)

theorem careful_tryAdmit_iff {admission : BudgetAdmission} {nowMs : Nat} :
    book.Careful (BudgetHost.machine.event host (.tryAdmit admission nowMs)) ↔
      (host.governor.charges admission = true →
        (host.governor.trimWindows nowMs).denial admission = none →
          host.governor.inFlight + 1 < 2 ^ 32) := by
  constructor
  · intro hcareful
    exact hcareful.room admission nowMs rfl
  · intro hroom
    refine ⟨fun _ _ hended ↦ (by cases hended), fun admission' nowMs' hop ↦ ?_⟩
    cases hop
    exact hroom

/-- An admission. -/
theorem Tallied.decided_tryAdmit (h : Tallied book host) (admission : BudgetAdmission)
    (nowMs : Nat) : Decided book host (.tryAdmit admission nowMs) := by
  rw [Decided, careful_tryAdmit_iff]
  show (_ ∧ Tallied _ (BudgetHost.machine.event host (.tryAdmit admission nowMs)).post ∧ _) ∨ _
  cases hcharges : host.governor.charges admission with
  | false =>
    left
    rw [Book.event_uncharged host hcharges]
    refine ⟨fun hcharged ↦ (by cases hcharged), ?_, Nat.le_succ _⟩
    rw [observe]
    dsimp only
    rw [hcharges]
    exact h.share (fun hslot ↦ (by cases hslot)) fun _ _ howner ↦ by cases howner
  | true =>
    cases hdenial : (host.governor.trimWindows nowMs).denial admission with
    | some reason =>
      left
      rw [Book.event_denied host hcharges hdenial]
      exact ⟨fun _ hnone ↦ (by cases hnone), h.keep rfl, Nat.le_succ _⟩
    | none =>
      rw [Book.event_granted host hcharges hdenial]
      have hobserve : book.observe ⟨host, .tryAdmit admission nowMs,
          ⟨((host.governor.trimWindows nowMs).grant admission nowMs).1,
            host.reservations ++
              [some ((host.governor.trimWindows nowMs).grant admission nowMs).2]⟩, .ok ()⟩ =
          book.charge := by
        rw [observe]
        dsimp only
        rw [hcharges, if_pos rfl]
      have hcounter : ((host.governor.trimWindows nowMs).grant admission nowMs).1.inFlight =
          (host.governor.inFlight + 1) % 2 ^ 32 := rfl
      dsimp only
      rw [hobserve]
      by_cases hroom : host.governor.inFlight + 1 < 2 ^ 32
      · left
        have hup := hcounter.trans (Nat.mod_eq_of_lt hroom)
        exact ⟨fun _ _ ↦ hroom, h.charge hup hroom rfl rfl, hup.le⟩
      · right
        refine ⟨fun hcareful ↦ hroom (hcareful rfl rfl), fun hsound ↦ ?_⟩
        have hcount := hsound.1
        rw [hobserve] at hcount
        have hheld : book.charge.held = book.held + 1 := held_concat book.accounts _ 0
        have hcounted := h.counted
        have hbounded := h.bounded
        dsimp only at hcount
        omega

/-- A clone holds what its original holds. -/
theorem Tallied.decided_clone (h : Tallied book host) (index : Nat) :
    Decided book host (.clone index) := by
  left
  refine ⟨careful_of_not_ended rfl fun _ _ hop ↦ (by cases hop), ?_, Nat.le_succ _⟩
  dsimp only [Machine.event, Machine.next, BudgetHost.machine, observe, BudgetHost.perform]
  cases hfound : host.reservation index with
  | none =>
    dsimp only [Option.map_none, Option.toList_none]
    rw [List.append_nil]
    exact h
  | some reservation =>
    exact h.share (h.holding index reservation hfound) (h.spent index reservation hfound)

/-- Every step is decided. -/
theorem Tallied.decided (h : Tallied book host) (op : Op) : Decided book host op := by
  cases op with
  | tryAdmit admission nowMs => exact h.decided_tryAdmit admission nowMs
  | settle index ttsChars cost => exact h.decided_ended rfl
  | release index => exact h.decided_ended rfl
  | drop index => exact h.decided_ended rfl
  | clone index => exact h.decided_clone index
  | noteDegraded =>
    left
    exact ⟨careful_of_not_ended rfl fun _ _ hop ↦ (by cases hop), h.keep rfl, Nat.le_succ _⟩
  | tick nowMs =>
    left
    exact ⟨careful_of_not_ended rfl fun _ _ hop ↦ (by cases hop), h.keep rfl, Nat.le_succ _⟩

end Tallied

/-! ## Runs -/

/-- **The slots in flight.**  In a run, the counter stands at the charged admissions that are
not released, and each gives its slot back once, exactly when no copy that holds a slot is
ended after another copy of the same admission and the counter has room. -/
theorem slots_counted (policy : GenerativeBudgetPolicy) (ops : List Op) :
    BudgetHost.machine.Meets observe Sound (.new policy) empty ops ↔
      BudgetHost.machine.Meets observe Careful (.new policy) empty ops := by
  refine BudgetHost.machine.meets_congr_of_watch (P := fun host book ↦ Tallied book host)
    (fun host book op htallied hsound ↦ ?_) (fun host book op htallied ↦ ?_) (new_tallied policy) ops
  · exact (htallied.decided op).next hsound
  · exact (htallied.decided op).iff

/-- At most one generation in flight. -/
def onePolicy : GenerativeBudgetPolicy :=
  { GenerativeBudgetPolicy.default with enabled := true, maxConcurrentGenerations := some 1 }

/-- Two copies of one reservation are dropped: the counter wraps below zero. -/
theorem clone_wraps : ¬BudgetHost.machine.Meets observe Sound (.new onePolicy) empty
    [.tryAdmit ⟨.ordinary, 0, 0⟩ 0, .clone 0, .drop 0, .drop 1] := by decide

end SlotBook

end Aivtuber
