import Aivtuber.App.BudgetWindow

/-!
# The reserve of the budget governor

Calls are counted by their instants, so that a trim of their ledgers cuts exactly at the
horizon, and a ledger shows the charged calls of the window that ends now.  Hence no window
of the length of the interval has more calls than the limit, or more calls of ordinary
priority than the share that the reserve leaves them; and a request of high priority is
refused for want of calls only in a window that has as many as the limit
(`reserve_kept`).

What a governor does not charge, it does not count: a governor that is not enforced, and
one that does not charge for shadow evaluation, admits without a limit
(`uncharged_exceed`).
-/

open Window

namespace Aivtuber

/-- The budgets that count calls. -/
inductive CallKind where
  | llm | tts
deriving DecidableEq, Repr

namespace CallKind

def limit (policy : GenerativeBudgetPolicy) : CallKind → Option Nat
  | llm => policy.maxLlmCallsPerInterval
  | tts => policy.maxTtsCallsPerInterval

def ledger (governor : GenerativeBudgetGovernor) : CallKind → List Nat
  | llm => governor.llmCalls
  | tts => governor.ttsCalls

def denial : CallKind → BudgetDenialReason
  | llm => .llmCallBudgetExhausted
  | tts => .ttsCallBudgetExhausted

end CallKind

/-- The instant of an operation that reads the clock. -/
def BudgetHost.Op.instant : BudgetHost.Op → Option Nat
  | .tryAdmit _ nowMs | .tick nowMs => some nowMs
  | _ => none

structure BudgetCall where
  atMs : Nat
  priority : BudgetPriorityClass
deriving DecidableEq

def BudgetCall.isOrdinary (call : BudgetCall) : Bool := call.priority ≠ .high

/-- The calls that were admitted. -/
structure CallBook where
  clockMs : Nat
  calls : List BudgetCall

namespace CallBook

open BudgetHost (Op)
open Book (BudgetEvent)

def empty : CallBook := ⟨0, []⟩

/-- The book after one more step, with the admissions of which `counts` holds. -/
def observe (counts : GenerativeBudgetGovernor → BudgetAdmission → Bool) (book : CallBook)
    (e : BudgetEvent) : CallBook :=
  match e.input, e.output with
  | .tryAdmit admission nowMs, .ok _ =>
    if counts e.pre.governor admission then ⟨nowMs, book.calls ++ [⟨nowMs, admission.priority⟩]⟩
    else ⟨nowMs, book.calls⟩
  | .tryAdmit _ nowMs, .error _ | .tick nowMs, _ => ⟨nowMs, book.calls⟩
  | _, _ => book

/-- The calls of the window that starts at `startMs`. -/
def callsFrom (book : CallBook) (policy : GenerativeBudgetPolicy) (startMs : Nat) : Nat :=
  within BudgetCall.atMs policy.intervalMs startMs book.calls

/-- Those of ordinary priority. -/
def ordinaryCallsFrom (book : CallBook) (policy : GenerativeBudgetPolicy) (startMs : Nat) : Nat :=
  within BudgetCall.atMs policy.intervalMs startMs (book.calls.filter BudgetCall.isOrdinary)

/-- After the step, every window keeps the limit, and the share of ordinary calls; high
priority is refused only where the window that ends now has as many calls as the limit. -/
def Kept (counts : GenerativeBudgetGovernor → BudgetAdmission → Bool) (book : CallBook)
    (e : BudgetEvent) : Prop :=
  let policy := e.pre.governor.policy
  ∀ (kind : CallKind) limit, kind.limit policy = some limit →
    (∀ startMs, (book.observe counts e).callsFrom policy startMs ≤ limit ∧
      (book.observe counts e).ordinaryCallsFrom policy startMs ≤ policy.ordinaryShare limit) ∧
    ∀ admission nowMs, e.input = .tryAdmit admission nowMs → admission.priority = .high →
      e.output = .error kind.denial →
        limit ≤ recent BudgetCall.atMs (policy.horizonMs nowMs) book.calls

/-- Time does not go back. -/
def Forward (book : CallBook) (e : BudgetEvent) : Prop :=
  ∀ nowMs ∈ e.input.instant, book.clockMs ≤ nowMs

instance (book : CallBook) (e : BudgetEvent) : Decidable (book.Forward e) :=
  inferInstanceAs (Decidable (∀ nowMs ∈ e.input.instant, _))

/-! ## The book shows the ledgers -/

/-- The ledgers show the calls since a horizon that is not later than that of the clock. -/
structure Rolled (book : CallBook) (host : BudgetHost) : Prop where
  ordered : book.calls.Pairwise fun earlier later ↦ earlier.atMs ≤ later.atMs
  past : ∀ call ∈ book.calls, call.atMs ≤ book.clockMs
  shown : ∃ horizonMs ≤ host.governor.policy.horizonMs book.clockMs, ∀ kind : CallKind,
    (kind.limit host.governor.policy).isSome → kind.ledger host.governor =
      (book.calls.filter fun call ↦ horizonMs ≤ call.atMs).map BudgetCall.atMs
  kept : ∀ (kind : CallKind) limit, kind.limit host.governor.policy = some limit → ∀ startMs,
    book.callsFrom host.governor.policy startMs ≤ limit ∧
      book.ordinaryCallsFrom host.governor.policy startMs ≤
        host.governor.policy.ordinaryShare limit

section Rolled

variable {book : CallBook} {host : BudgetHost}

theorem new_rolled (policy : GenerativeBudgetPolicy) : Rolled empty (.new policy) where
  ordered := List.Pairwise.nil
  past call h := by cases h
  shown := ⟨0, Nat.zero_le _, fun kind _ ↦ by cases kind <;> rfl⟩
  kept kind limit _ startMs := ⟨Nat.zero_le _, Nat.zero_le _⟩

/-- The clock goes on. -/
theorem Rolled.tock (h : Rolled book host) {nowMs : Nat} (hclock : book.clockMs ≤ nowMs) :
    Rolled ⟨nowMs, book.calls⟩ host where
  ordered := h.ordered
  past call hcall := (h.past call hcall).trans hclock
  shown := by
    obtain ⟨horizonMs, hle, hshown⟩ := h.shown
    exact ⟨horizonMs, hle.trans (Book.horizonMs_mono _ hclock), hshown⟩
  kept := h.kept

/-- What the ends of reservations leave alone. -/
structure SameCalls (governor governor' : GenerativeBudgetGovernor) : Prop where
  policy : governor'.policy = governor.policy
  ledger : ∀ kind : CallKind, kind.ledger governor' = kind.ledger governor

theorem Rolled.keep (h : Rolled book host) {host' : BudgetHost}
    (hsame : SameCalls host.governor host'.governor) : Rolled book host' where
  ordered := h.ordered
  past := h.past
  shown := by
    obtain ⟨horizonMs, hle, hshown⟩ := h.shown
    rw [hsame.policy]
    exact ⟨horizonMs, hle, fun kind hlimit ↦ (hsame.ledger kind).trans (hshown kind hlimit)⟩
  kept := by
    rw [hsame.policy]
    exact h.kept

theorem ledger_trimWindows (governor : GenerativeBudgetGovernor) (nowMs : Nat) (kind : CallKind) :
    kind.ledger (governor.trimWindows nowMs) =
      (kind.ledger governor).dropWhile (· < governor.policy.horizonMs nowMs) := by
  cases kind <;> rfl

/-- A trim leaves the calls of the window that ends now. -/
theorem Rolled.ledger_trim (h : Rolled book host) {kind : CallKind}
    (hlimit : (kind.limit host.governor.policy).isSome) :
    kind.ledger (host.governor.trimWindows book.clockMs) =
      (book.calls.filter fun call ↦
        host.governor.policy.horizonMs book.clockMs ≤ call.atMs).map BudgetCall.atMs := by
  obtain ⟨horizonMs, hle, hshown⟩ := h.shown
  rw [ledger_trimWindows, hshown kind hlimit, List.dropWhile_map]
  congr 1
  refine (dropWhile_eq_filter (h.ordered.filter _)).trans ?_
  rw [List.filter_filter]
  congr 1
  funext call
  rw [Bool.and_eq_left_iff_imp]
  intro hlate
  exact decide_eq_true (hle.trans (of_decide_eq_true hlate))

theorem Rolled.length_trim (h : Rolled book host) {kind : CallKind}
    (hlimit : (kind.limit host.governor.policy).isSome) :
    (kind.ledger (host.governor.trimWindows book.clockMs)).length =
      recent BudgetCall.atMs (host.governor.policy.horizonMs book.clockMs) book.calls := by
  rw [h.ledger_trim hlimit, List.length_map, recent, List.countP_eq_length_filter]

theorem Rolled.trim (h : Rolled book host) :
    Rolled book ⟨host.governor.trimWindows book.clockMs, host.reservations⟩ where
  ordered := h.ordered
  past := h.past
  shown := ⟨_, Nat.le_refl _, fun _ hlimit ↦ h.ledger_trim hlimit⟩
  kept := h.kept

/-! ## Admissions -/

variable {governor : GenerativeBudgetGovernor} {admission : BudgetAdmission} {kind : CallKind}
  {limit : Nat}

/-- No denial: there is room for a call of either kind. -/
theorem length_lt_of_denial (h : governor.denial admission = none)
    (hlimit : kind.limit governor.policy = some limit) :
    (kind.ledger governor).length <
      governor.policy.effectiveLimit (admission.priority = .high) limit := by
  rw [GenerativeBudgetGovernor.denial] at h
  split_ifs at h with _ hllm htts
  cases kind with
  | llm =>
    rw [show governor.policy.maxLlmCallsPerInterval = some limit from hlimit, Option.any_some,
      decide_eq_true_eq, not_le] at hllm
    exact hllm
  | tts =>
    rw [show governor.policy.maxTtsCallsPerInterval = some limit from hlimit, Option.any_some,
      decide_eq_true_eq, not_le] at htts
    exact htts

/-- A denial for want of calls: there is none left. -/
theorem le_length_of_denial (h : governor.denial admission = some kind.denial)
    (hlimit : kind.limit governor.policy = some limit) :
    governor.policy.effectiveLimit (admission.priority = .high) limit ≤
      (kind.ledger governor).length := by
  rw [GenerativeBudgetGovernor.denial] at h
  cases kind with
  | llm =>
    split_ifs at h with _ hllm <;> try (cases h; done)
    rw [show governor.policy.maxLlmCallsPerInterval = some limit from hlimit, Option.any_some,
      decide_eq_true_eq] at hllm
    exact hllm
  | tts =>
    split_ifs at h with _ _ htts <;> try (cases h; done)
    rw [show governor.policy.maxTtsCallsPerInterval = some limit from hlimit, Option.any_some,
      decide_eq_true_eq] at htts
    exact htts

theorem effectiveLimit_le (policy : GenerativeBudgetPolicy) (high : Bool) (limit : Nat) :
    policy.effectiveLimit high limit ≤ limit := by
  rw [GenerativeBudgetPolicy.effectiveLimit]
  split
  · exact Nat.le_refl _
  · exact Nat.sub_le _ _

theorem ledger_grant (hlimit : (kind.limit governor.policy).isSome) (nowMs : Nat) :
    kind.ledger (governor.grant admission nowMs).1 = kind.ledger governor ++ [nowMs] := by
  cases kind <;> exact if_pos hlimit

/-- A call that there is room for keeps the limit, and the share of ordinary calls. -/
theorem Rolled.room (h : Rolled book host) (hlimit : kind.limit host.governor.policy = some limit)
    (hroom : recent BudgetCall.atMs (host.governor.policy.horizonMs book.clockMs) book.calls <
      host.governor.policy.effectiveLimit (admission.priority = .high) limit) (startMs : Nat) :
    callsFrom ⟨book.clockMs, book.calls ++ [⟨book.clockMs, admission.priority⟩]⟩
        host.governor.policy startMs ≤ limit ∧
      ordinaryCallsFrom ⟨book.clockMs, book.calls ++ [⟨book.clockMs, admission.priority⟩]⟩
        host.governor.policy startMs ≤ host.governor.policy.ordinaryShare limit := by
  constructor
  · refine within_concat_le (fun startMs ↦ (h.kept kind limit hlimit startMs).1) ?_ startMs
    exact Nat.lt_of_lt_of_le hroom (effectiveLimit_le _ _ _)
  · rw [ordinaryCallsFrom, List.filter_append]
    cases hordinary : BudgetCall.isOrdinary ⟨book.clockMs, admission.priority⟩ with
    | false =>
      rw [List.filter_singleton, hordinary, cond_false, List.append_nil]
      exact (h.kept kind limit hlimit startMs).2
    | true =>
      rw [List.filter_singleton, hordinary, cond_true]
      rw [BudgetCall.isOrdinary, decide_eq_true_eq] at hordinary
      refine within_concat_le (fun startMs ↦ (h.kept kind limit hlimit startMs).2) ?_ startMs
      -- calls of high priority take room, too
      have hfewer : recent BudgetCall.atMs (host.governor.policy.horizonMs book.clockMs)
          (book.calls.filter BudgetCall.isOrdinary) ≤
            recent BudgetCall.atMs (host.governor.policy.horizonMs book.clockMs) book.calls :=
        List.Sublist.countP_le List.filter_sublist
      rw [decide_eq_false hordinary] at hroom
      exact Nat.lt_of_le_of_lt hfewer hroom

/-- An admission with a charge. -/
theorem Rolled.grant (h : Rolled book host)
    (hdenial : (host.governor.trimWindows book.clockMs).denial admission = none)
    (reservations : List (Option BudgetReservation)) :
    Rolled ⟨book.clockMs, book.calls ++ [⟨book.clockMs, admission.priority⟩]⟩
      ⟨((host.governor.trimWindows book.clockMs).grant admission book.clockMs).1, reservations⟩ where
  ordered := by
    refine List.pairwise_append.mpr ⟨h.ordered, List.pairwise_singleton _ _, ?_⟩
    intro earlier hearlier later hlater
    rw [List.mem_singleton.mp hlater]
    exact h.past earlier hearlier
  past call hcall := by
    rcases List.mem_append.mp hcall with hold | hnew
    · exact h.past call hold
    · rw [List.mem_singleton.mp hnew]
  shown := by
    refine ⟨host.governor.policy.horizonMs book.clockMs, Nat.le_refl _, fun kind hlimit ↦ ?_⟩
    change (kind.limit (host.governor.trimWindows book.clockMs).policy).isSome = true at hlimit
    have hgrant : kind.ledger
        ((host.governor.trimWindows book.clockMs).grant admission book.clockMs).1 =
          kind.ledger (host.governor.trimWindows book.clockMs) ++ [book.clockMs] :=
      ledger_grant hlimit book.clockMs
    refine hgrant.trans ?_
    rw [h.ledger_trim hlimit, List.filter_append, List.map_append]
    have hrecent : host.governor.policy.horizonMs book.clockMs ≤ book.clockMs := Nat.sub_le _ _
    simp [hrecent]
  kept kind limit hlimit startMs := by
    apply h.room hlimit
    rw [← h.length_trim (by rw [show kind.limit host.governor.policy = _ from hlimit]; rfl)]
    exact length_lt_of_denial hdenial hlimit

/-! ## Steps -/

theorem SameCalls.refl (governor : GenerativeBudgetGovernor) : SameCalls governor governor :=
  ⟨rfl, fun _ ↦ rfl⟩

theorem sameCalls_returnSlot (governor : GenerativeBudgetGovernor) (slot : Bool) :
    SameCalls governor (governor.returnSlot slot) := by
  refine ⟨Book.policy_returnSlot governor slot, fun kind ↦ ?_⟩
  rw [GenerativeBudgetGovernor.returnSlot]
  split
  · cases kind <;> dsimp only [CallKind.ledger]
  · rfl

theorem sameCalls_settle (reservation : BudgetReservation) (governor : GenerativeBudgetGovernor)
    (ttsChars cost : Nat) : SameCalls governor (reservation.settle governor ttsChars cost).2 := by
  have hreturn := sameCalls_returnSlot governor reservation.inFlightSlot
  rw [BudgetReservation.settle]
  split
  · exact .refl governor
  · refine ⟨hreturn.policy, fun kind ↦ ?_⟩
    rw [← hreturn.ledger kind]
    cases kind <;> rfl

theorem sameCalls_release (reservation : BudgetReservation) (governor : GenerativeBudgetGovernor) :
    SameCalls governor (reservation.release governor).2 := by
  have hreturn := sameCalls_returnSlot governor reservation.inFlightSlot
  rw [BudgetReservation.release]
  split
  · exact .refl governor
  · refine ⟨hreturn.policy, fun kind ↦ ?_⟩
    rw [← hreturn.ledger kind]
    cases kind <;> rfl

theorem sameCalls_update (index : Nat)
    {f : BudgetReservation → Option BudgetReservation × GenerativeBudgetGovernor}
    (hf : ∀ reservation, SameCalls host.governor (f reservation).2) :
    SameCalls host.governor (host.update index f).governor := by
  rw [BudgetHost.update]
  split
  · exact .refl host.governor
  · exact hf _

/-- An operation that does not read the clock leaves the calls alone. -/
theorem sameCalls_event {op : Op} (hop : op.instant = none) :
    SameCalls host.governor (BudgetHost.machine.event host op).post.governor := by
  cases op with
  | tryAdmit | tick => cases hop
  | settle index ttsChars cost =>
    exact sameCalls_update index fun reservation ↦ sameCalls_settle reservation _ ttsChars cost
  | release index =>
    exact sameCalls_update index fun reservation ↦ sameCalls_release reservation _
  | drop index => exact sameCalls_update index fun _ ↦ sameCalls_returnSlot _ _
  | clone index => exact .refl host.governor
  | noteDegraded => exact ⟨rfl, fun kind ↦ by cases kind <;> rfl⟩

theorem observe_of_instant {counts : GenerativeBudgetGovernor → BudgetAdmission → Bool} {op : Op}
    (hop : op.instant = none) :
    book.observe counts (BudgetHost.machine.event host op) = book := by
  cases op with
  | tryAdmit | tick => cases hop
  | _ => rfl

/-- A step that does not go back in time keeps the book. -/
theorem Rolled.next (h : Rolled book host) (op : Op)
    (hforward : book.Forward (BudgetHost.machine.event host op)) :
    Rolled (book.observe GenerativeBudgetGovernor.charges (BudgetHost.machine.event host op))
      (BudgetHost.machine.event host op).post := by
  cases op with
  | tryAdmit admission nowMs =>
    have htock := h.tock (hforward nowMs rfl)
    cases hcharges : host.governor.charges admission with
    | false =>
      rw [Book.event_uncharged host hcharges, observe]
      dsimp only
      rw [hcharges]
      exact htock.keep (.refl host.governor)
    | true =>
      cases hdenial : (host.governor.trimWindows nowMs).denial admission with
      | some reason =>
        rw [Book.event_denied host hcharges hdenial]
        exact htock.trim.keep ⟨rfl, fun kind ↦ by cases kind <;> rfl⟩
      | none =>
        rw [Book.event_granted host hcharges hdenial, observe]
        dsimp only
        rw [hcharges]
        exact htock.grant hdenial _
  | tick nowMs => exact (h.tock (hforward nowMs rfl)).trim
  | settle | release | clone | drop | noteDegraded =>
    rw [observe_of_instant rfl]
    exact h.keep (sameCalls_event rfl)

/-- High priority is refused only where the window is full. -/
theorem Rolled.refused (h : Rolled book host) {nowMs : Nat}
    (hforward : book.Forward (BudgetHost.machine.event host (.tryAdmit admission nowMs)))
    (hlimit : kind.limit host.governor.policy = some limit) (hhigh : admission.priority = .high)
    (herror : (BudgetHost.machine.event host (.tryAdmit admission nowMs)).output =
      .error kind.denial) :
    limit ≤ recent BudgetCall.atMs (host.governor.policy.horizonMs nowMs) book.calls := by
  cases hcharges : host.governor.charges admission with
  | false =>
    rw [Book.event_uncharged host hcharges] at herror
    cases herror
  | true =>
    cases hdenial : (host.governor.trimWindows nowMs).denial admission with
    | none =>
      rw [Book.event_granted host hcharges hdenial] at herror
      cases herror
    | some reason =>
      rw [Book.event_denied host hcharges hdenial] at herror
      obtain rfl : reason = kind.denial := Except.error.inj herror
      have hfull := le_length_of_denial hdenial hlimit
      rw [decide_eq_true hhigh, (h.tock (hforward nowMs rfl)).length_trim
        (by rw [hlimit]; rfl)] at hfull
      exact hfull

theorem policy_event (op : Op) : (BudgetHost.machine.event host op).post.governor.policy =
    host.governor.policy := by
  cases op with
  | tryAdmit admission nowMs =>
    cases hcharges : host.governor.charges admission with
    | false => rw [Book.event_uncharged host hcharges]
    | true =>
      cases hdenial : (host.governor.trimWindows nowMs).denial admission with
      | none =>
        rw [Book.event_granted host hcharges hdenial]
        rfl
      | some reason =>
        rw [Book.event_denied host hcharges hdenial]
        rfl
  | tick nowMs => rfl
  | settle | release | clone | drop | noteDegraded => exact (sameCalls_event rfl).policy

theorem Rolled.keeps (h : Rolled book host) (op : Op)
    (hforward : book.Forward (BudgetHost.machine.event host op)) :
    book.Kept GenerativeBudgetGovernor.charges (BudgetHost.machine.event host op) := by
  rw [Kept]
  intro kind limit hlimit
  refine ⟨fun startMs ↦ ?_, fun admission nowMs hop hhigh ↦ ?_⟩
  · have hkept := (h.next op hforward).kept kind limit
    rw [policy_event] at hkept
    exact hkept hlimit startMs
  · obtain rfl : op = .tryAdmit admission nowMs := hop
    exact h.refused hforward hlimit hhigh

end Rolled

/-! ## Runs -/

/-- **The reserve for high priority.**  While time does not go back, the charged calls of
every window keep within the limit, those of ordinary priority within their share, and high
priority is refused for want of calls only where the window has as many as the limit. -/
theorem reserve_kept (policy : GenerativeBudgetPolicy) (ops : List Op)
    (h : BudgetHost.machine.Meets (observe GenerativeBudgetGovernor.charges) Forward (.new policy)
      empty ops) :
    BudgetHost.machine.Meets (observe GenerativeBudgetGovernor.charges)
      (Kept GenerativeBudgetGovernor.charges) (.new policy) empty ops :=
  BudgetHost.machine.meets_of_invariant (P := fun host book ↦ Rolled book host)
    (fun _ _ op hrolled hforward ↦ hrolled.next op hforward)
    (fun _ _ op hrolled hforward ↦ hrolled.keeps op hforward) (new_rolled policy) h

/-- Two calls in a second, of which one is kept for high priority. -/
def callsPolicy : GenerativeBudgetPolicy :=
  { GenerativeBudgetPolicy.default with
    enabled := true
    maxLlmCallsPerInterval := some 2
    intervalMs := 1000
    highPriorityReservePercent := 50 }

def call (priority : BudgetPriorityClass) : BudgetAdmission := ⟨priority, 0, 0⟩

/-- The second ordinary call is refused, and the one of high priority finds room. -/
theorem reserve_kept_second :
    BudgetHost.machine.Meets (observe GenerativeBudgetGovernor.charges)
      (Kept GenerativeBudgetGovernor.charges) (.new callsPolicy) empty
      [.tryAdmit (call .ordinary) 10, .tryAdmit (call .ordinary) 20, .tryAdmit (call .high) 30] :=
  reserve_kept callsPolicy _ (by decide)

/-- What is admitted without a charge is not limited: neither by a governor that is not
enforced, nor for shadow evaluation that is not charged. -/
theorem uncharged_exceed :
    (∃ policy, ({ callsPolicy with enabled := false } : GenerativeBudgetPolicy).validate =
        .ok policy ∧
      ¬BudgetHost.machine.Meets (observe fun _ _ ↦ true) (Kept fun _ _ ↦ true) (.new policy) empty
        [.tryAdmit (call .high) 0, .tryAdmit (call .high) 0, .tryAdmit (call .high) 0]) ∧
    ∃ policy, callsPolicy.validate = .ok policy ∧
      ¬BudgetHost.machine.Meets (observe fun _ _ ↦ true) (Kept fun _ _ ↦ true) (.new policy) empty
        [.tryAdmit (call .shadow) 0, .tryAdmit (call .shadow) 0, .tryAdmit (call .shadow) 0] := by
  refine ⟨⟨_, rfl, ?_⟩, ⟨_, rfl, ?_⟩⟩
  · rintro ⟨-, -, hkept, -⟩
    exact absurd ((hkept .llm 2 rfl).1 0).1 (by decide)
  · rintro ⟨-, -, hkept, -⟩
    exact absurd ((hkept .llm 2 rfl).1 0).1 (by decide)

end CallBook

end Aivtuber
