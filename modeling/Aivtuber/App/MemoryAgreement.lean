import Mathlib.Data.List.Perm.Subperm
import Aivtuber.App.MemoryCompare

/-!
# The report and its validation

The evaluation of `crates/app/src/memory_eval.rs` measures what a service delivered, and the
comparison of `crates/app/src/memory_compare.rs` derives the same numbers again before it trusts
them.  A report that was measured on a valid fixture is accepted, whatever of the declared claims
was delivered (`measured_accepted`).
-/

open Aivtuber.Check Saturating

namespace Aivtuber

variable {rounding : Rounding}

/-! ## Numbers -/

/-- A float agrees with itself, also where it is not finite. -/
theorem withinTolerance_self (x : Float64) :
    MemoryCompare.withinTolerance rounding x x = true := by
  have htolerance := rounding.round_mono (show (0 : ℚ) ≤ 1 / 10 ^ 12 by norm_num)
  rw [rounding.round_zero] at htolerance
  rw [MemoryCompare.withinTolerance, MemoryCompare.floatTolerance, Bool.not_eq_true']
  cases x with
  | finite value =>
    rw [Rounding.sub, Float64.neg, Rounding.add, add_neg_cancel, rounding.round_zero,
      Float64.abs, abs_zero]
    rw [Bool.eq_false_iff]
    exact fun hlt ↦ Rounding.le_of_le_of_not htolerance hlt le_rfl
  | infinite negative => cases negative <;> cases rounding.round (1 / 10 ^ 12) <;> rfl
  | nan => cases rounding.round (1 / 10 ^ 12) <;> rfl

theorem exists_ofNat (rounding : Rounding) {n : Nat} (h : n ≤ u64Max) :
    ∃ value, rounding.ofNat n = .finite value := by
  have hfinite : (rounding.ofNat n).isFinite = true := by
    apply rounding.round_finite
    rw [abs_of_nonneg (Nat.cast_nonneg n)]
    have hword : n ≤ 2 ^ 64 := by
      rw [u64Max] at h
      omega
    exact_mod_cast hword
  cases hround : rounding.ofNat n with
  | finite value => exact ⟨value, rfl⟩
  | infinite negative =>
    rw [hround] at hfinite
    cases hfinite
  | nan =>
    rw [hround] at hfinite
    cases hfinite

/-- A correctness is a share: a float between zero and one.  The float type has the number one, and
a list is as long as a machine word counts. -/
theorem correctness_inRange (hone : rounding.round 1 = .finite 1) {mustDeliver : List String}
    (hlength : mustDeliver.length ≤ u64Max) (delivered : List String) :
    ((correctness rounding mustDeliver delivered).val.isFinite &&
      (Float64.finite 0).le (correctness rounding mustDeliver delivered).val &&
      (correctness rounding mustDeliver delivered).val.le (rounding.ofNat 1)) = true := by
  have hofOne : rounding.ofNat 1 = .finite 1 := by
    rw [Rounding.ofNat, Nat.cast_one, hone]
  rw [correctness]
  split
  case isTrue =>
    dsimp only
    rw [hofOne]
    rfl
  case isFalse hsome =>
    dsimp only
    have hhits := List.length_filter_le (fun id ↦ decide (id ∈ delivered)) mustDeliver
    have hpos : 1 ≤ mustDeliver.length := by
      rw [Nat.one_le_iff_ne_zero]
      intro hzero
      rw [List.length_eq_zero_iff] at hzero
      exact hsome (hzero ▸ rfl)
    obtain ⟨x, hx⟩ := exists_ofNat rounding (hhits.trans hlength)
    obtain ⟨y, hy⟩ := exists_ofNat rounding hlength
    have hxpos : 0 ≤ x := by
      have hle : (Float64.finite 0).le (rounding.ofNat
          (mustDeliver.filter fun id ↦ decide (id ∈ delivered)).length) = true :=
        Rounding.le_ofNat _
      rw [hx] at hle
      exact of_decide_eq_true hle
    have hxy : x ≤ y := by
      have hle : (rounding.ofNat _).le (rounding.ofNat _) = true :=
        rounding.round_mono (Nat.cast_le.mpr hhits)
      rw [hx, hy] at hle
      exact of_decide_eq_true hle
    have hyone : 1 ≤ y := by
      have hle : (rounding.ofNat 1).le (rounding.ofNat mustDeliver.length) = true :=
        rounding.round_mono (Nat.cast_le.mpr hpos)
      rw [hofOne, hy] at hle
      exact of_decide_eq_true hle
    have hshare : 0 ≤ x / y ∧ x / y ≤ 1 := by
      have hypos : 0 < y := by linarith
      exact ⟨div_nonneg hxpos hypos.le, (div_le_one hypos).mpr hxy⟩
    rw [hx, hy, Rounding.div, if_pos (by linarith : y ≠ 0), hofOne]
    have hfinite : (rounding.round (x / y)).isFinite = true := by
      apply rounding.round_finite
      rw [abs_of_nonneg hshare.1]
      linarith [hshare.2, show (1 : ℚ) ≤ 2 ^ 64 by norm_num]
    have hlow := rounding.round_mono hshare.1
    have hhigh := rounding.round_mono hshare.2
    rw [rounding.round_zero] at hlow
    rw [hone] at hhigh
    rw [hfinite, hlow, hhigh]
    rfl

/-! ## Causal spans -/

/-- Declared edges that are listed once are no more than the declared ones. -/
theorem pairsDelivered_le {edges declared : List CausalEdge} (hnodup : edges.Nodup)
    (hsubset : edges ⊆ declared) (delivered : List String) :
    pairsDelivered delivered edges ≤ pairsDelivered delivered declared := by
  rw [pairsDelivered, pairsDelivered]
  refine (List.subperm_of_subset (hnodup.filter _) fun edge hedge ↦ ?_).length_le
  obtain ⟨hmem, hboth⟩ := List.mem_filter.mp hedge
  exact List.mem_filter.mpr ⟨hsubset hmem, hboth⟩

/-! ## Rows -/

/-- A delivery of declared claims, with declared causal edges, each listed once.  A claim may come
again. -/
structure MemoryEvalCase.Delivers (case : MemoryEvalCase) (delivery : CaseDelivery) : Prop where
  declared : ∀ claim ∈ delivery.claims,
    MemoryEvalClaim.declares case.claims claim.claimId = true
  edges : delivery.causalEdges ⊆ declaredCausalEdges case
  nodup : delivery.causalEdges.Nodup

section Rows

variable {format : Format} {label : String} {case : MemoryEvalCase} {delivery : CaseDelivery}

/-- A measured row is accepted. -/
theorem MemoryEvalCase.Delivers.validateCase (h : case.Delivers delivery)
    (hone : rounding.round 1 = .finite 1) (hlength : case.mustDeliver.length ≤ u64Max)
    (retention : MemoryRetention) :
    MemoryCompare.validateCase format label case (measureCase rounding case delivery retention) =
      .ok () := by
  rw [MemoryCompare.validateCase]
  simp only [unit_bind_eq_ok, ensure_eq_ok, forM_eq_ok]
  refine ⟨decide_eq_true ⟨rfl, rfl, rfl⟩, fun id hid ↦ ?_, ?_, ?_, decide_eq_true rfl,
    decide_eq_true rfl, decide_eq_true ?_⟩
  · obtain ⟨claim, hclaim, rfl⟩ := List.mem_map.mp hid
    exact h.declared claim hclaim
  · exact correctness_inRange hone hlength _
  · exact withinTolerance_self _
  · exact pairsDelivered_le h.nodup h.edges _

end Rows

/-! ## Reports -/

section Reports

variable {format : Format} {fixture : MemoryEvalFixture}

/-- A case as the fixture validates it, after the cases before it. -/
theorem validateCases_eq_ok {before rest : List MemoryEvalCase}
    (h : MemoryEvalFixture.validateCases format before rest = .ok ()) :
    (rest.map (·.id)).Nodup ∧ ∀ case ∈ rest, case.id ∉ before.map (·.id) := by
  induction rest generalizing before with
  | nil => exact ⟨List.nodup_nil, fun case hcase ↦ absurd hcase List.not_mem_nil⟩
  | cons case rest ih =>
    rw [MemoryEvalFixture.validateCases, unit_bind_eq_ok] at h
    obtain ⟨hcase, hrest⟩ := h
    obtain ⟨hnodup, hnew⟩ := ih hrest
    have hfresh : case.id ∉ before.map (·.id) := by
      rw [MemoryEvalCase.validate] at hcase
      simp only [unit_bind_eq_ok, ensure_eq_ok] at hcase
      simpa using hcase.2.1
    rw [List.map_cons, List.nodup_cons]
    refine ⟨⟨fun hagain ↦ ?_, hnodup⟩, fun other hother ↦ ?_⟩
    · obtain ⟨other, hother, hsame⟩ := List.mem_map.mp hagain
      apply hnew other hother
      rw [hsame, List.map_append]
      exact List.mem_append_right _ List.mem_cons_self
    · rcases List.mem_cons.mp hother with rfl | hother
      · exact hfresh
      · intro hbefore
        apply hnew other hother
        rw [List.map_append]
        exact List.mem_append_left _ hbefore

/-- Measured rows are accepted, in the order of the cases. -/
theorem measured_rows_accepted (hone : rounding.round 1 = .finite 1) (label : String)
    {cases : List MemoryEvalCase} {deliveries : List (CaseDelivery × MemoryRetention)}
    (hdelivers : List.Forall₂ (fun case delivery ↦ case.Delivers delivery.1) cases deliveries)
    (hlength : ∀ case ∈ cases, case.mustDeliver.length ≤ u64Max) {seen : List String}
    (hnodup : (cases.map (·.id)).Nodup) (hnew : ∀ case ∈ cases, case.id ∉ seen) :
    MemoryCompare.validateCases format label seen (cases.zip (List.zipWith
      (fun case delivery ↦ measureCase rounding case delivery.1 delivery.2) cases deliveries)) =
        .ok () := by
  induction hdelivers generalizing seen with
  | nil => rfl
  | @cons case delivery cases deliveries hcase hrest ih =>
    rw [List.map_cons, List.nodup_cons] at hnodup
    rw [List.zipWith_cons_cons, List.zip_cons_cons, MemoryCompare.validateCases]
    simp only [unit_bind_eq_ok, ensure_eq_ok]
    refine ⟨decide_eq_true (hnew case List.mem_cons_self), decide_eq_true rfl,
      hcase.validateCase hone (hlength case List.mem_cons_self) delivery.2, ?_⟩
    refine ih (fun other hother ↦ hlength other (List.mem_cons_of_mem _ hother)) hnodup.2 ?_
    intro other hother hseen
    rcases List.mem_cons.mp hseen with hsame | hseen
    · exact hnodup.1 (List.mem_map.mpr ⟨other, hother, hsame⟩)
    · exact hnew other (List.mem_cons_of_mem _ hother) hseen

/-- The totals of some rows are accepted with them. -/
theorem totalsFor_accepted (label : String) (cases : List (CaseReport rounding)) :
    MemoryCompare.validateTotals label (totalsFor cases) cases = .ok () := by
  have hnone : MemoryCompare.mismatchedTotals (totalsFor cases) cases = [] := by
    rw [MemoryCompare.mismatchedTotals, List.map_eq_nil_iff, List.filter_eq_nil_iff]
    intro entry hentry
    have hsame : entry.2.1 = entry.2.2 := by
      simp only [List.mem_cons, List.not_mem_nil, or_false] at hentry
      rcases hentry with rfl | rfl | rfl | rfl | rfl | rfl | rfl <;> rfl
    rw [hsame, withinTolerance_self]
    exact Bool.false_ne_true
  rw [MemoryCompare.validateTotals, hnone, ensure_eq_ok]
  rfl

/-- **A truthful report is accepted.**  On a fixture that validates, the report of measured cases
passes the validation of the comparison, on either side.  The float type has the number one, and
the length of a list is a machine word. -/
theorem measured_accepted (hone : rounding.round 1 = .finite 1)
    (hfixture : fixture.validate format = .ok ())
    (hlength : ∀ case ∈ fixture.cases, case.mustDeliver.length ≤ u64Max)
    {deliveries : List (CaseDelivery × MemoryRetention)}
    (hdelivers : List.Forall₂ (fun case delivery ↦ case.Delivers delivery.1) fixture.cases
      deliveries)
    (fixtureDigest : MemoryEvalFixture → String) (label : String) :
    MemoryCompare.validateReport format label fixture (fixtureDigest fixture)
      (reportFor fixtureDigest fixture (List.zipWith
        (fun case delivery ↦ measureCase rounding case delivery.1 delivery.2) fixture.cases
        deliveries)) = .ok () := by
  rw [MemoryEvalFixture.validate] at hfixture
  simp only [unit_bind_eq_ok, ensure_eq_ok] at hfixture
  obtain ⟨hversion, hsome, hcases⟩ := hfixture
  obtain ⟨hnodup, hnew⟩ := validateCases_eq_ok hcases
  have hrows : (List.zipWith (fun case delivery ↦ measureCase rounding case delivery.1 delivery.2)
      fixture.cases deliveries).length = fixture.cases.length := by
    rw [List.length_zipWith, hdelivers.length_eq, Nat.min_self]
  rw [MemoryCompare.validateReport]
  simp only [unit_bind_eq_ok, ensure_eq_ok]
  refine ⟨decide_eq_true rfl, decide_eq_true rfl, hversion, decide_eq_true hrows, ?_,
    decide_eq_true rfl, ?_, totalsFor_accepted label _⟩
  · rw [Bool.not_eq_true', List.isEmpty_eq_false_iff] at hsome ⊢
    intro hempty
    rw [reportFor] at hempty
    dsimp only at hempty
    rw [hempty] at hrows
    exact hsome (List.length_eq_zero_iff.mp hrows.symm)
  · exact measured_rows_accepted hone label hdelivers hlength hnodup
      fun case _ ↦ List.not_mem_nil

end Reports

/-- The result comes twice, and the attempt does not come. -/
def resultTwice : CaseDelivery where
  claims := [⟨"result", "won", "won"⟩, ⟨"result", "won", "won"⟩]
  refused := []
  causalEdges := []

theorem resultTwice_accepted :
    MemoryCompare.validateReport MemoryCompare.plainFormat "runtime" MemoryCompare.twoFacts
      "digest" (reportFor (fun _ ↦ "digest") MemoryCompare.twoFacts (List.zipWith
        (fun case delivery ↦ measureCase MemoryCompare.exactRounding case delivery.1 delivery.2)
        MemoryCompare.twoFacts.cases [(resultTwice, ⟨2, 0, 8, 8⟩)])) = .ok () := by
  refine measured_accepted rfl (by decide +kernel) (by decide) ?_ (fun _ ↦ "digest") "runtime"
  refine List.Forall₂.cons ⟨?_, List.nil_subset _, List.nodup_nil⟩ List.Forall₂.nil
  decide

end Aivtuber
