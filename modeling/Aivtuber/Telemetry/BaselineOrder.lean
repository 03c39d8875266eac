import Aivtuber.Telemetry.BaselinePooling

/-!
# The order of the artifacts

What `fromReports` returns depends on the order of the reports only through the shells of a run.
A full report and one shell collapse in either order; of two shells before their full report the
second is a duplicate or a conflict, and after it both collapse.
-/

open Aivtuber.Check Saturating

namespace Aivtuber.BaselinePooling

open OperationalSlo (ObjectiveKind IndicatorUnit BaselineEvidence catalog streamHourMs)

/-! ## What is pooled -/

section Pooled

variable {rows rows' : List Contribution} {points points' : List LatencyCalibration} {id : String}

theorem joinSorted_perm {values values' : List String} (h : values.Perm values') :
    joinSorted values = joinSorted values' := by
  rw [joinSorted, joinSorted, sortedSet, sortedSet, List.toFinset_eq_of_perm _ _ h]

namespace RatioPool

/-- The pool without the names of its runs. -/
def numbers (pool : RatioPool) : RatioPool := { pool with contributors := [] }

/-- The same pool, up to the order of its runs. -/
def Same (pool pool' : RatioPool) : Prop :=
  pool.numbers = pool'.numbers ∧ pool.contributors.Perm pool'.contributors

theorem foldl_add_contributors (rows : List Contribution) (pool : RatioPool) :
    (rows.foldl add pool).contributors = pool.contributors ++ rows.map (·.run) := by
  induction rows generalizing pool with
  | nil => exact (List.append_nil _).symm
  | cons row rows ih =>
    rw [List.foldl_cons, ih, List.map_cons, add, List.append_assoc]
    rfl

theorem foldl_add_numbers (rows : List Contribution) (pool : RatioPool) :
    (rows.foldl add pool).numbers = rows.foldl (fun pool row ↦ (pool.add row).numbers)
      pool.numbers := by
  induction rows generalizing pool with
  | nil => rfl
  | cons row rows ih =>
    rw [List.foldl_cons, ih, List.foldl_cons]
    rfl

theorem satAdd_comm_right (a b c : Nat) : satAdd (satAdd a b) c = satAdd (satAdd a c) b := by
  simp only [satAdd]
  omega

theorem add_numbers_comm (pool : RatioPool) (row row' : Contribution) :
    (((pool.add row).numbers.add row').numbers) = ((pool.add row').numbers.add row).numbers := by
  simp only [add, numbers]
  congr 1
  · exact satAdd_comm_right _ _ _
  · exact satAdd_comm_right _ _ _
  · cases row.streamDurationMs <;> cases row'.streamDurationMs <;>
      first | rfl | exact satAdd_comm_right _ _ _
  · cases row.streamDurationMs <;> cases row'.streamDurationMs <;> rfl

theorem foldl_add_same (h : rows.Perm rows') (pool : RatioPool) :
    Same (rows.foldl add pool) (rows'.foldl add pool) := by
  refine ⟨?_, ?_⟩
  · rw [foldl_add_numbers, foldl_add_numbers]
    exact h.foldl_eq' (fun row _ row' _ pool ↦ add_numbers_comm pool row row') _
  · rw [foldl_add_contributors, foldl_add_contributors]
    exact (h.map _).append_left _

end RatioPool

theorem ratioPool_same (h : rows.Perm rows') (id : String) :
    Option.Rel RatioPool.Same (ratioPool rows id) (ratioPool rows' id) := by
  have hmine : (rows.filter (·.id = id)).Perm (rows'.filter (·.id = id)) := h.filter _
  rw [ratioPool, ratioPool]
  rw [hmine.isEmpty_eq]
  split
  · exact .none
  · exact .some (RatioPool.foldl_add_same hmine _)

theorem latencyPool_perm (h : points.Perm points') (id field : String) :
    latencyPool points id field = latencyPool points' id field := by
  apply (h.filter _).foldl_eq'
  intro point _ point' _ pool
  simp only [LatencyPool.add]
  congr 1
  · omega
  · omega
  · omega
  · cases point.maxMs <;> cases point'.maxMs <;> cases pool.maxMs <;>
      simp [max_comm, max_left_comm]

theorem latencyFields_perm (h : points.Perm points') (id : String) :
    latencyFields points id = latencyFields points' id := by
  rw [latencyFields, latencyFields, sortedSet, sortedSet,
    List.toFinset_eq_of_perm _ _ ((h.filter _).map _)]

/-- A row has a boundary exactly when it is of a latency. -/
theorem contributions_boundary {report : SloReport} {row : Contribution}
    (h : row ∈ report.contributions) : row.thresholdMs.isSome = decide (row.id ∈ latencyIds) := by
  obtain ⟨result, -, hrow⟩ := List.mem_filterMap.mp h
  dsimp only at hrow
  split_ifs at hrow with hskip hlatency
  · obtain ⟨thresholdMs, -, rfl⟩ := Option.map_eq_some_iff.mp hrow
    exact (decide_eq_true hlatency).symm
  · cases hrow
    exact (decide_eq_false hlatency).symm

/-- Every row has a boundary exactly when it is of a latency. -/
def Graded (rows : List Contribution) : Prop :=
  ∀ row ∈ rows, row.thresholdMs.isSome = decide (row.id ∈ latencyIds)

/-- The rows of each indicator have one boundary. -/
def OneBoundary (rows : List Contribution) : Prop :=
  ∀ row ∈ rows, ∀ row' ∈ rows, row.id = row'.id → row.thresholdMs = row'.thresholdMs

theorem boundaryOf_of_mem (hone : OneBoundary rows) {row : Contribution} (hrow : row ∈ rows) :
    boundaryOf rows row.id = row.thresholdMs := by
  rw [boundaryOf]
  cases hfirst : rows.find? (·.id = row.id) with
  | none => exact absurd (decide_eq_true rfl) (List.find?_eq_none.mp hfirst row hrow)
  | some first =>
    have hid := List.find?_some hfirst
    exact hone first (List.mem_of_find?_eq_some hfirst) row hrow (of_decide_eq_true hid)

theorem boundaryOf_perm (hone : OneBoundary rows) (h : rows.Perm rows') (id : String) :
    boundaryOf rows id = boundaryOf rows' id := by
  have hone' : OneBoundary rows' := fun row hrow row' hrow' ↦
    hone row (h.mem_iff.mpr hrow) row' (h.mem_iff.mpr hrow')
  by_cases hid : ∃ row ∈ rows, row.id = id
  · obtain ⟨row, hrow, rfl⟩ := hid
    rw [boundaryOf_of_mem hone hrow, boundaryOf_of_mem hone' (h.mem_iff.mp hrow)]
  · have hnone : ∀ {rows : List Contribution}, (¬∃ row ∈ rows, row.id = id) →
        boundaryOf rows id = none := by
      intro rows hid
      rw [boundaryOf, List.find?_eq_none.mpr]
      · rfl
      · exact fun row hrow heq ↦ hid ⟨row, hrow, of_decide_eq_true heq⟩
    rw [hnone hid, hnone]
    rintro ⟨row, hrow, heq⟩
    exact hid ⟨row, h.mem_iff.mpr hrow, heq⟩

theorem checkBoundaries_eq_ok (hgraded : Graded rows) :
    checkBoundaries rows = .ok () ↔ OneBoundary rows := by
  rw [checkBoundaries, forM_eq_ok]
  constructor
  · intro hchecked
    have hfirst : ∀ row ∈ rows, boundaryOf rows row.id = row.thresholdMs := by
      intro row hrow
      have hrowChecked := hchecked row hrow
      obtain ⟨first, hfound⟩ : ∃ first, rows.find? (·.id = row.id) = some first := by
        cases hfound : rows.find? (·.id = row.id) with
        | none => exact absurd (decide_eq_true rfl) (List.find?_eq_none.mp hfound row hrow)
        | some first => exact ⟨first, rfl⟩
      have hid := List.find?_some hfound
      have hgrade := hgraded first (List.mem_of_find?_eq_some hfound)
      rw [of_decide_eq_true hid, ← hgraded row hrow] at hgrade
      have hboundary : boundaryOf rows row.id = first.thresholdMs := by
        rw [boundaryOf, hfound]
        rfl
      rw [hboundary] at hrowChecked ⊢
      cases hleft : first.thresholdMs with
      | none =>
        rw [hleft] at hgrade
        exact (Option.not_isSome_iff_eq_none.mp (by rw [← hgrade]; decide)).symm
      | some existing =>
        rw [hleft] at hgrade hrowChecked
        obtain ⟨thresholdMs, hright⟩ := Option.isSome_iff_exists.mp hgrade.symm
        rw [hright] at hrowChecked ⊢
        exact congrArg some (of_decide_eq_true (ensure_eq_ok.mp hrowChecked))
    intro row hrow row' hrow' hid
    rw [← hfirst row hrow, ← hfirst row' hrow', hid]
  · intro hone row hrow
    rw [boundaryOf_of_mem hone hrow]
    cases row.thresholdMs with
    | none => rfl
    | some thresholdMs => exact ensure_eq_ok.mpr (decide_eq_true rfl)

/-- The same evidence, up to the order of its runs. -/
def BaselineEvidence.Same (a b : BaselineEvidence Float64) : Prop :=
  a.runs.Perm b.runs ∧ b = { a with runs := b.runs }

/-- The same proposal, up to the order of the runs in its evidence. -/
def BaselineProposal.Same (a b : BaselineProposal) : Prop :=
  Option.Rel BaselineEvidence.Same a.baseline b.baseline ∧ b = { a with baseline := b.baseline }

theorem evidenceFor_same (arith : FloatArith) (provenance : Provenance) {pool pool' : RatioPool}
    (h : pool.Same pool') (boundary : Option Nat) :
    Option.Rel BaselineEvidence.Same (evidenceFor arith provenance pool boundary)
      (evidenceFor arith provenance pool' boundary) := by
  obtain ⟨hnumbers, hruns⟩ := h
  simp only [RatioPool.numbers, RatioPool.mk.injEq] at hnumbers
  obtain ⟨hcount, heligible, hconforming, -, hrepresented, -⟩ := hnumbers
  rw [evidenceFor, evidenceFor, hcount]
  split
  · exact .none
  · refine .some ⟨hruns, ?_⟩
    dsimp only
    rw [heligible, hconforming, hrepresented, joinSorted_perm (hruns.map _),
      joinSorted_perm (hruns.map (·.gitCommit))]

theorem ratioProposal_same (arith : FloatArith) (provenance : Provenance) (id : String)
    {pool pool' : Option RatioPool} (h : Option.Rel RatioPool.Same pool pool') :
    (ratioProposal arith provenance id pool).Same (ratioProposal arith provenance id pool') := by
  cases h with
  | none => exact ⟨.none, rfl⟩
  | @some pool pool' h =>
    have hnumbers := h.1
    simp only [RatioPool.numbers, RatioPool.mk.injEq] at hnumbers
    obtain ⟨hcount, heligible, hconforming, -⟩ := hnumbers
    refine ⟨evidenceFor_same arith provenance h none, ?_⟩
    simp only [ratioProposal, Option.elim_some, Option.map_some]
    rw [hcount, heligible, hconforming]

theorem addLatency_same (arith : FloatArith) (provenance : Provenance)
    {pool pool' : Option RatioPool} (hpool : Option.Rel RatioPool.Same pool pool')
    (boundary : Option Nat) (hpoints : points.Perm points') {proposal proposal' : BaselineProposal}
    (h : proposal.Same proposal') (field : String) :
    (addLatency arith provenance pool boundary points proposal field).Same
      (addLatency arith provenance pool' boundary points' proposal' field) := by
  obtain ⟨hbaseline, hrest⟩ := h
  rw [hrest]
  simp only [addLatency]
  rw [latencyPool_perm hpoints]
  cases boundary with
  | none => exact ⟨hbaseline, rfl⟩
  | some thresholdMs =>
    cases hpool with
    | none => exact ⟨hbaseline, rfl⟩
    | @some pool pool' hsame =>
      have hnumbers := hsame.1
      simp only [RatioPool.numbers, RatioPool.mk.injEq] at hnumbers
      obtain ⟨-, heligible, hconforming, -⟩ := hnumbers
      refine ⟨evidenceFor_same arith provenance hsame (some thresholdMs), ?_⟩
      dsimp only
      rw [heligible, hconforming]

theorem isNone_eq {α : Type} {r : α → α → Prop} {a b : Option α} (h : Option.Rel r a b) :
    a.isNone = b.isNone := by
  cases h <;> rfl

theorem proposalOf_same (arith : FloatArith) (provenance : Provenance) (hrows : rows.Perm rows')
    (hone : OneBoundary rows) (hpoints : points.Perm points') (id : String) :
    Option.Rel BaselineProposal.Same (proposalOf arith provenance rows points id)
      (proposalOf arith provenance rows' points' id) := by
  have hpool := ratioPool_same hrows id
  rw [proposalOf, proposalOf, latencyFields_perm hpoints, boundaryOf_perm hone hrows]
  rw [isNone_eq hpool]
  split
  · exact .none
  · refine .some ?_
    generalize latencyFields points' id = fields
    have hstart := ratioProposal_same arith provenance id hpool
    generalize ratioProposal arith provenance id (ratioPool rows id) = proposal at hstart
    generalize ratioProposal arith provenance id (ratioPool rows' id) = proposal' at hstart
    induction fields generalizing proposal proposal' with
    | nil => exact hstart
    | cons field fields ih =>
      exact ih _ _ (addLatency_same arith provenance hpool _ hpoints hstart field)

end Pooled

/-! ## The series -/

section Series

variable {l l' : List SloReport} {series : Option String} {key : String}

theorem active_cons (report : SloReport) (l : List SloReport) :
    active (report :: l) = if report.countsTowardActiveSlo then report :: active l else active l :=
  List.filter_cons

theorem extendSeries_eq_ok {first : String} {report : SloReport} :
    extendSeries (some first) report = .ok series ↔
      series = some first ∧ (report.countsTowardActiveSlo = true → report.seriesKey = first) := by
  rw [extendSeries]
  cases report.countsTowardActiveSlo with
  | false => simp [eq_comm]
  | true =>
    by_cases hkey : first = report.seriesKey
    · simp [hkey, eq_comm]
    · simp [hkey, Ne.symm hkey]

theorem foldlM_extendSeries_some : l.foldlM extendSeries (some key) = .ok series ↔
    series = some key ∧ ∀ report ∈ active l, report.seriesKey = key := by
  induction l with
  | nil => simp [active, pure, Except.pure, eq_comm]
  | cons report l ih =>
    rw [List.foldlM_cons, bind_eq_ok, active_cons]
    constructor
    · rintro ⟨next, hnext, hrest⟩
      obtain ⟨rfl, hkey⟩ := extendSeries_eq_ok.mp hnext
      obtain ⟨hseries, hall⟩ := ih.mp hrest
      refine ⟨hseries, ?_⟩
      split
      case isTrue hx => exact List.forall_mem_cons.mpr ⟨hkey hx, hall⟩
      case isFalse => exact hall
    · rintro ⟨hseries, hall⟩
      refine ⟨some key, extendSeries_eq_ok.mpr ⟨rfl, fun hx ↦ ?_⟩, ih.mpr ⟨hseries, ?_⟩⟩
      · rw [if_pos hx] at hall
        exact hall report List.mem_cons_self
      · intro other hother
        apply hall
        split
        case isTrue => exact List.mem_cons_of_mem _ hother
        case isFalse => exact hother

/-- The reports that count are of one series. -/
def OneSeries (reports : List SloReport) : Prop :=
  ∀ x ∈ active reports, ∀ y ∈ active reports, x.seriesKey = y.seriesKey

/-- The series of the first report that counts. -/
def seriesOf (reports : List SloReport) : Option String :=
  (active reports).head?.map SloReport.seriesKey

theorem foldlM_extendSeries : l.foldlM extendSeries none = .ok series ↔
    series = seriesOf l ∧ OneSeries l := by
  induction l with
  | nil => simp [active, seriesOf, OneSeries, pure, Except.pure, eq_comm]
  | cons report l ih =>
    rw [List.foldlM_cons, extendSeries, seriesOf, OneSeries, active_cons]
    cases report.countsTowardActiveSlo with
    | false => exact ih
    | true =>
      rw [Bool.not_true, if_neg Bool.false_ne_true, if_pos rfl]
      refine foldlM_extendSeries_some.trans (and_congr_right fun _ ↦ ?_)
      constructor
      · intro hall
        have hkeys : ∀ x ∈ report :: active l, x.seriesKey = report.seriesKey :=
          List.forall_mem_cons.mpr ⟨rfl, hall⟩
        exact fun x hx y hy ↦ (hkeys x hx).trans (hkeys y hy).symm
      · exact fun hone other hother ↦
          hone other (List.mem_cons_of_mem _ hother) report List.mem_cons_self

theorem OneSeries.perm (h : OneSeries l) (hperm : l.Perm l') : OneSeries l' := by
  have hactive : (active l).Perm (active l') := hperm.filter _
  exact fun x hx y hy ↦ h x (hactive.mem_iff.mpr hx) y (hactive.mem_iff.mpr hy)

theorem seriesOf_perm (h : OneSeries l) (hperm : l.Perm l') : seriesOf l = seriesOf l' := by
  have hactive : (active l).Perm (active l') := hperm.filter _
  rw [seriesOf, seriesOf]
  cases hl : active l with
  | nil =>
    rw [hl] at hactive
    rw [hactive.nil_eq]
  | cons x rest =>
    cases hl' : active l' with
    | nil =>
      rw [hl'] at hactive
      rw [hl] at hactive
      cases hactive.eq_nil
    | cons y rest' =>
      refine congrArg some (h x ?_ y (hactive.mem_iff.mpr ?_))
      · rw [hl]
        exact List.mem_cons_self
      · rw [hl']
        exact List.mem_cons_self

end Series

/-! ## The pool of the accepted artifacts -/

/-- The same proposal set, up to the order of the contributing runs. -/
structure BaselineProposalSet.Same (a b : BaselineProposalSet) : Prop where
  runs : a.contributingRuns.Perm b.contributingRuns
  proposals : ∀ id, Option.Rel BaselineProposal.Same (a.proposals id) (b.proposals id)
  rest : b = { a with contributingRuns := b.contributingRuns, proposals := b.proposals }

/-- Both fail, or both return the same proposal set. -/
inductive Alike : Except SloError BaselineProposalSet → Except SloError BaselineProposalSet → Prop
  | refused (e e' : SloError) : Alike (.error e) (.error e')
  | pooled {a b : BaselineProposalSet} (h : a.Same b) : Alike (.ok a) (.ok b)

section Pool

variable {history history' : History} {reports : Nat} {series : Option String}

theorem graded_contributions (distinct : List SloReport) :
    Graded (distinct.flatMap SloReport.contributions) := by
  intro row hrow
  obtain ⟨report, -, hmem⟩ := List.mem_flatMap.mp hrow
  exact contributions_boundary hmem

theorem OneBoundary.mono {rows rows' : List Contribution} (h : OneBoundary rows)
    (hsub : ∀ row ∈ rows', row ∈ rows) : OneBoundary rows' :=
  fun row hrow row' hrow' ↦ h row (hsub row hrow) row' (hsub row' hrow')

theorem provenance_perm {distinct distinct' : List SloReport} (h : distinct.Perm distinct')
    (series : String) : provenance series distinct = provenance series distinct' := by
  rw [provenance, provenance, joinSorted_perm (h.map _), joinSorted_perm (h.map _),
    joinSorted_perm (h.map _), joinSorted_perm (h.map _)]

theorem notMeasured_congr {proposals proposals' : String → Option BaselineProposal}
    (h : ∀ id, Option.Rel BaselineProposal.Same (proposals id) (proposals' id)) :
    notMeasured proposals = notMeasured proposals' := by
  rw [notMeasured, notMeasured]
  simp only [isNone_eq (h _)]

/-- A function of the numbers of the pools tells the same. -/
theorem tellPools_perm {α : Type} {rows rows' : List Contribution} (h : rows.Perm rows')
    (tell : String → RatioPool → Option α)
    (htell : ∀ id pool, tell id pool = tell id pool.numbers) :
    tellPools rows tell = tellPools rows' tell := by
  rw [tellPools, tellPools, sortedSet, sortedSet, List.toFinset_eq_of_perm _ _ (h.map _)]
  congr 1
  funext id
  have hbind : ∀ {pool pool' : Option RatioPool}, Option.Rel RatioPool.Same pool pool' →
      pool.bind (tell id) = pool'.bind (tell id) := by
    rintro _ _ (hsame | _)
    · rw [Option.bind_some, Option.bind_some, htell, hsame.1, ← htell]
    · rfl
  exact hbind (ratioPool_same h id)

theorem representedMs_perm {distinct distinct' : List SloReport} (h : distinct.Perm distinct') :
    representedMs distinct = representedMs distinct' := by
  apply h.foldl_eq'
  intro report _ report' _ ms
  cases report.source.streamDurationMs <;> cases report'.source.streamDurationMs <;>
    first | rfl | exact RatioPool.satAdd_comm_right _ _ _

theorem poolLimitations_perm (hdistinct : history.distinct.Perm history'.distinct)
    (hexcluded : history.excluded = history'.excluded) :
    poolLimitations history = poolLimitations history' := by
  have hrows := hdistinct.flatMap_right SloReport.contributions
  have hduration : withoutDuration history.distinct = withoutDuration history'.distinct :=
    hdistinct.countP_eq _
  simp only [poolLimitations]
  rw [hduration, hexcluded, representedMs_perm hdistinct,
    tellPools_perm hrows tellUnderSampled fun _ _ ↦ rfl,
    tellPools_perm hrows tellUnderFloor fun _ _ ↦ rfl,
    tellPools_perm hrows tellPartialDuration fun _ _ ↦ rfl]

theorem proposalSet_same (hdistinct : history.distinct.Perm history'.distinct)
    (hduplicates : history.duplicates = history'.duplicates)
    (hcollapsed : history.collapsed = history'.collapsed)
    (hexcluded : history.excluded = history'.excluded)
    {proposals proposals' : String → Option BaselineProposal}
    (hproposals : ∀ id, Option.Rel BaselineProposal.Same (proposals id) (proposals' id))
    {ids ids' : List String} (hids : ids = ids')
    {limitations limitations' : List BaselineLimitation} (hlimitations : limitations = limitations') :
    (proposalSet reports series history proposals ids limitations).Same
      (proposalSet reports series history' proposals' ids' limitations') := by
  refine ⟨?_, hproposals, ?_⟩
  · exact (List.mergeSort_perm _ _).trans
      ((hdistinct.map SloReport.contributor).trans (List.mergeSort_perm _ _).symm)
  · simp only [proposalSet, acceptLimitations, sortedSet]
    rw [hdistinct.length_eq, hduplicates, hcollapsed, hexcluded, hids, hlimitations,
      List.toFinset_eq_of_perm _ _ (hdistinct.map (·.source.gitCommit)),
      List.toFinset_eq_of_perm _ _ (hdistinct.map (·.source.datasetId))]

/-- Too few artifacts have no proposals. -/
theorem pool_few (arith : FloatArith) (h : history.distinct.length < minBaselineRuns) :
    pool arith reports series history =
      .ok (proposalSet reports series history (fun _ ↦ none) []
        [.fewRuns history.distinct.length]) := by
  unfold pool
  exact if_pos h

theorem pool_many (arith : FloatArith) (h : ¬history.distinct.length < minBaselineRuns) :
    pool arith reports series history = (do
      checkBoundaries (history.distinct.flatMap SloReport.contributions)
      let proposals := proposalOf arith (provenance (series.getD "") history.distinct)
        (history.distinct.flatMap SloReport.contributions)
        (history.distinct.flatMap SloReport.points)
      return proposalSet reports series history proposals (notMeasured proposals)
        (poolLimitations history)) := by
  unfold pool
  exact if_neg h

/-- The boundaries of many artifacts have to be one for each indicator. -/
theorem pool_isOk (arith : FloatArith) : (∃ set, pool arith reports series history = .ok set) ↔
    (2 ≤ history.distinct.length →
      OneBoundary (history.distinct.flatMap SloReport.contributions)) := by
  by_cases hfew : history.distinct.length < minBaselineRuns
  · refine iff_of_true ⟨_, pool_few arith hfew⟩ fun htwo ↦ ?_
    exact absurd hfew (Nat.not_lt_of_le htwo)
  · rw [pool_many arith hfew, ← checkBoundaries_eq_ok (graded_contributions _)]
    constructor
    · rintro ⟨set, hset⟩ -
      exact (unit_bind_eq_ok.mp hset).1
    · intro hcheck
      exact ⟨_, unit_bind_eq_ok.mpr ⟨hcheck (Nat.le_of_not_lt hfew), rfl⟩⟩

theorem pool_duplicates {arith : FloatArith} {set : BaselineProposalSet}
    (h : pool arith reports series history = .ok set) :
    set.duplicateReports = history.duplicates := by
  by_cases hfew : history.distinct.length < minBaselineRuns
  · rw [pool_few arith hfew] at h
    cases h
    rfl
  · rw [pool_many arith hfew] at h
    obtain ⟨-, hset⟩ := unit_bind_eq_ok.mp h
    cases hset
    rfl

/-- **The pool** depends on the accepted artifacts and what was not accepted, not on an order. -/
theorem pool_same (arith : FloatArith) (hdistinct : history.distinct.Perm history'.distinct)
    (hduplicates : history.duplicates = history'.duplicates)
    (hcollapsed : history.collapsed = history'.collapsed)
    (hexcluded : history.excluded = history'.excluded) {a b : BaselineProposalSet}
    (ha : pool arith reports series history = .ok a)
    (hb : pool arith reports series history' = .ok b) : a.Same b := by
  have hrows := hdistinct.flatMap_right SloReport.contributions
  have hpoints := hdistinct.flatMap_right SloReport.points
  by_cases hfew : history.distinct.length < minBaselineRuns
  · rw [pool_few arith hfew] at ha
    rw [pool_few arith (hdistinct.length_eq ▸ hfew)] at hb
    cases ha
    cases hb
    exact proposalSet_same hdistinct hduplicates hcollapsed hexcluded (fun _ ↦ .none) rfl
      (by rw [hdistinct.length_eq])
  · have hone := (pool_isOk arith).mp ⟨a, ha⟩ (Nat.le_of_not_lt hfew)
    rw [pool_many arith hfew] at ha
    rw [pool_many arith (hdistinct.length_eq ▸ hfew)] at hb
    obtain ⟨-, ha⟩ := unit_bind_eq_ok.mp ha
    obtain ⟨-, hb⟩ := unit_bind_eq_ok.mp hb
    cases ha
    cases hb
    rw [provenance_perm hdistinct]
    have hproposals := proposalOf_same arith (provenance (series.getD "") history'.distinct) hrows
      hone hpoints
    exact proposalSet_same hdistinct hduplicates hcollapsed hexcluded hproposals
      (notMeasured_congr hproposals) (poolLimitations_perm hdistinct hexcluded)

end Pool

/-! ## Histories that can be pooled -/

/-- The reports pass every check in some order. -/
structure Mergeable (reports : List SloReport) : Prop where
  checked : ∀ report ∈ reports, checkReport report = .ok ()
  series : OneSeries reports
  consistent : Consistent reports
  boundaries : (∃ x ∈ active reports, ∃ y ∈ active reports, x.runKey ≠ y.runKey) →
    OneBoundary ((richest reports).flatMap SloReport.contributions)

section Mergeable

variable {arith : FloatArith} {l l' : List SloReport} {history : History}
  {set : BaselineProposalSet}

theorem fromReports_eq_ok : fromReports arith l = .ok set ↔
    (∀ report ∈ l, checkReport report = .ok ()) ∧ OneSeries l ∧
      ∃ history, l.foldlM History.accept .new = .ok history ∧
        pool arith l.length (seriesOf l) history = .ok set := by
  rw [fromReports, unit_bind_eq_ok, forM_eq_ok, bind_eq_ok]
  refine and_congr_right fun _ ↦ ?_
  constructor
  · rintro ⟨series, hseries, hrest⟩
    obtain ⟨rfl, hone⟩ := foldlM_extendSeries.mp hseries
    exact ⟨hone, bind_eq_ok.mp hrest⟩
  · rintro ⟨hone, hrest⟩
    exact ⟨_, foldlM_extendSeries.mpr ⟨rfl, hone⟩, bind_eq_ok.mpr hrest⟩

theorem richest_perm (hperm : l.Perm l') : (richest l).Perm (richest l') := by
  have hactive : (active l).Perm (active l') := hperm.filter _
  have hbeside : ∀ report, besideFull (active l) report = besideFull (active l') report := by
    intro report
    rw [besideFull, besideFull, hactive.any_eq]
  rw [richest, richest]
  simp only [hbeside]
  exact hactive.filter _

theorem Mergeable.perm (h : Mergeable l) (hperm : l.Perm l') : Mergeable l' where
  checked report hreport := h.checked report (hperm.mem_iff.mpr hreport)
  series := h.series.perm hperm
  consistent := h.consistent.perm hperm
  boundaries := by
    have hactive : (active l).Perm (active l') := hperm.filter _
    rintro ⟨x, hx, y, hy, hne⟩
    refine (h.boundaries ⟨x, hactive.mem_iff.mpr hx, y, hactive.mem_iff.mpr hy, hne⟩).mono ?_
    exact fun row hrow ↦ ((richest_perm hperm).flatMap_right _).mem_iff.mpr hrow

theorem Settled.mem_contributions_iff (h : Settled l history) {row : Contribution} :
    row ∈ history.distinct.flatMap SloReport.contributions ↔
      row ∈ (richest l).flatMap SloReport.contributions := by
  rw [List.mem_flatMap, List.mem_flatMap]
  exact exists_congr fun r ↦ and_congr_left fun _ ↦ h.mem_distinct_iff

theorem mergeable_of_ok (h : fromReports arith l = .ok set) : Mergeable l := by
  obtain ⟨hchecked, hseries, history, hrun, hpool⟩ := fromReports_eq_ok.mp h
  have hsettled := settled_of_run hrun
  refine ⟨hchecked, hseries, hsettled.consistent, fun htwo ↦ ?_⟩
  refine ((pool_isOk arith).mp ⟨set, hpool⟩ (hsettled.two_le_iff.mpr htwo)).mono ?_
  exact fun row hrow ↦ hsettled.mem_contributions_iff.mpr hrow

theorem Mergeable.ok (h : Mergeable l) (arith : FloatArith)
    (hrun : l.foldlM History.accept .new = .ok history) :
    ∃ set, fromReports arith l = .ok set ∧
      pool arith l.length (seriesOf l) history = .ok set := by
  have hsettled := settled_of_run hrun
  obtain ⟨set, hset⟩ : ∃ set, pool arith l.length (seriesOf l) history = .ok set := by
    apply (pool_isOk arith).mpr
    intro htwo
    refine (h.boundaries (hsettled.two_le_iff.mp htwo)).mono ?_
    exact fun row hrow ↦ hsettled.mem_contributions_iff.mp hrow
  exact ⟨set, fromReports_eq_ok.mpr ⟨h.checked, h.series, history, hrun, hset⟩, hset⟩

/-- **With one shell a run, the order does not matter.** -/
theorem alike_of_oneShell (arith : FloatArith) (hone : Mergeable l → OneShell l)
    (hperm : l.Perm l') : Alike (fromReports arith l) (fromReports arith l') := by
  by_cases h : Mergeable l
  · have hshell := hone h
    obtain ⟨history, hrun⟩ := run_of_paired (h.consistent.paired hshell)
    obtain ⟨history', hrun'⟩ :=
      run_of_paired ((h.perm hperm).consistent.paired (hshell.perm hperm))
    obtain ⟨a, hok, ha⟩ := h.ok arith hrun
    obtain ⟨b, hok', hb⟩ := (h.perm hperm).ok arith hrun'
    have hsettled := settled_of_run hrun
    have hsettled' := settled_of_run hrun'
    obtain ⟨hduplicates, hcollapsed, hexcluded⟩ := hsettled.counts_eq hsettled' hshell hperm
    rw [← hperm.length_eq, ← seriesOf_perm h.series hperm] at hb
    rw [hok, hok']
    exact .pooled (pool_same arith (hsettled.distinct_perm hsettled' hperm) hduplicates hcollapsed
      hexcluded ha hb)
  · cases hok : fromReports arith l with
    | ok a => exact absurd (mergeable_of_ok hok) h
    | error e =>
      cases hok' : fromReports arith l' with
      | ok b => exact absurd ((mergeable_of_ok hok').perm hperm.symm) h
      | error e' => exact .refused e e'

end Mergeable

/-! ## Several shells -/

/-- More duplicates and collapsed shells. -/
def History.shift (history : History) (duplicates collapsed : Nat) : History :=
  { history with
    duplicates := history.duplicates + duplicates
    collapsed := history.collapsed + collapsed }

section Shells

variable {history : History} {duplicates collapsed : Nat} {l : List SloReport}
  {full first second : SloReport}

/-- What is accepted does not depend on the counts. -/
theorem accept_shift (report : SloReport) : (history.shift duplicates collapsed).accept report =
    (history.accept report).map (·.shift duplicates collapsed) := by
  have haccepted : ∀ runId, (history.shift duplicates collapsed).accepted runId =
      history.accepted runId := fun _ ↦ rfl
  rw [History.accept, History.accept, haccepted]
  cases report.countsTowardActiveSlo with
  | false => rfl
  | true =>
    cases history.accepted report.runKey with
    | none => rfl
    | some prior =>
      dsimp only
      split_ifs
      · rfl
      · exact congrArg Except.ok (by simp [History.shift, Nat.add_right_comm])
      · rfl
      · cases collapseIntoFull report prior with
        | error e => rfl
        | ok _ => exact congrArg Except.ok (by simp [History.shift, Nat.add_right_comm])
      · cases collapseIntoFull prior report with
        | error e => rfl
        | ok _ => exact congrArg Except.ok (by simp [History.shift, Nat.add_right_comm])

theorem run_shift : l.foldlM History.accept (history.shift duplicates collapsed) =
    (l.foldlM History.accept history).map (·.shift duplicates collapsed) := by
  induction l generalizing history with
  | nil => rfl
  | cons report l ih =>
    rw [List.foldlM_cons, List.foldlM_cons, accept_shift]
    cases history.accept report with
    | error e => rfl
    | ok next => exact ih

theorem accepted_singleton {report : SloReport} {runId : String} {excluded : Nat}
    (hkey : report.runKey = runId) :
    (History.mk [report] duplicates collapsed excluded).accepted runId = some report := by
  subst hkey
  simp [History.accepted]

/-- A full report and two shells of one run that agree with it. -/
structure Crowd (full first second : SloReport) : Prop where
  active : full.countsTowardActiveSlo = true
  activeFirst : first.countsTowardActiveSlo = true
  activeSecond : second.countsTowardActiveSlo = true
  keyFirst : full.runKey = first.runKey
  keySecond : full.runKey = second.runKey
  coversFirst : Covers full first
  coversSecond : Covers full second

/-- After the full report, both shells collapse. -/
theorem Crowd.run_full (h : Crowd full first second) (l : List SloReport) :
    (full :: first :: second :: l).foldlM History.accept .new =
      (l.foldlM History.accept ⟨[full], 0, 1, 0⟩).map (·.shift 0 1) := by
  rw [← run_shift, List.foldlM_cons, accept_first h.active rfl]
  change (first :: second :: l).foldlM History.accept ⟨[full], 0, 0, 0⟩ = _
  rw [List.foldlM_cons, accept_shell h.activeFirst (accepted_singleton h.keyFirst) h.coversFirst]
  change (second :: l).foldlM History.accept ⟨[full], 0, 1, 0⟩ = _
  rw [List.foldlM_cons, accept_shell h.activeSecond (accepted_singleton h.keySecond) h.coversSecond]
  rfl

/-- Before the full report, the second shell is a duplicate or a conflict. -/
theorem Crowd.run_shells (h : Crowd full first second) {l : List SloReport}
    (hrun : (first :: second :: full :: l).foldlM History.accept .new = .ok history) :
    (l.foldlM History.accept ⟨[full], 0, 1, 0⟩).map (·.shift 1 0) = .ok history := by
  rw [List.foldlM_cons, accept_first h.activeFirst rfl] at hrun
  change (second :: full :: l).foldlM History.accept ⟨[first], 0, 0, 0⟩ = _ at hrun
  have hkey : first.runKey = second.runKey := h.keyFirst.symm.trans h.keySecond
  by_cases hsame : first = second
  · subst hsame
    rw [List.foldlM_cons, accept_again h.activeFirst (accepted_singleton rfl)] at hrun
    change (full :: l).foldlM History.accept ⟨[first], 1, 0, 0⟩ = _ at hrun
    have hprior := @accepted_singleton 1 0 first _ 0 h.keyFirst.symm
    rw [List.foldlM_cons, accept_full h.active hprior h.coversFirst] at hrun
    rw [← run_shift, ← hrun]
    dsimp only
    rw [List.map_singleton, if_pos h.keyFirst.symm]
    rfl
  · have hkind := h.coversFirst.2.1.trans h.coversSecond.2.1.symm
    have hprior := @accepted_singleton 0 0 first _ 0 hkey
    rw [List.foldlM_cons, accept_conflict h.activeSecond hprior hsame hkind] at hrun
    cases hrun

theorem covers_of_consistent (hconsistent : Consistent l) (hfull : full ∈ active l)
    (hshell : first ∈ active l) (hkey : full.runKey = first.runKey)
    (hkind : full.isAggregateShell = false) (hkind' : first.isAggregateShell = true) :
    Covers full first := by
  rcases hconsistent full hfull first hshell hkey with rfl | hcover | hcover | ⟨_, -, -, hcover, -⟩
  · cases hkind.symm.trans hkind'
  · exact hcover
  · cases hkind.symm.trans hcover.2.1
  · cases hkind.symm.trans hcover.2.1

theorem exists_cons_cons {α : Type} {l : List α} (h : 1 < l.length) :
    ∃ a b rest, l = a :: b :: rest := by
  rcases l with _ | ⟨a, _ | ⟨b, rest⟩⟩
  · cases h
  · exact absurd h (lt_irrefl 1)
  · exact ⟨a, b, rest, rfl⟩

/-- Where a run comes as a full report with several shells, two of them can be put beside it. -/
theorem exists_crowd (hconsistent : Consistent l) (hmany : ¬OneShell l) :
    ∃ full first second rest, Crowd full first second ∧
      l.Perm (full :: first :: second :: rest) := by
  rw [OneShell] at hmany
  push Not at hmany
  obtain ⟨full, hfull, hkind, hcount⟩ := hmany
  rw [shellCount, List.countP_eq_length_filter, active, List.filter_filter] at hcount
  set shell : SloReport → Bool := fun other ↦
    other.isAggregateShell && decide (other.runKey = full.runKey) && other.countsTowardActiveSlo
    with hshell
  obtain ⟨hmem, hactive⟩ := List.mem_filter.mp hfull
  have hother : full ∈ l.filter fun report ↦ !shell report := by
    refine List.mem_filter.mpr ⟨hmem, ?_⟩
    rw [hshell]
    dsimp only
    rw [hkind]
    rfl
  have hshells : ∀ report ∈ l.filter shell, report ∈ active l ∧ report.isAggregateShell = true ∧
      full.runKey = report.runKey := by
    intro report hreport
    obtain ⟨hmem, hp⟩ := List.mem_filter.mp hreport
    rw [hshell, Bool.and_eq_true, Bool.and_eq_true, decide_eq_true_iff] at hp
    exact ⟨List.mem_filter.mpr ⟨hmem, hp.2⟩, hp.1.1, hp.1.2.symm⟩
  have hperm := (List.filter_append_perm shell l).symm
  obtain ⟨first, second, tail, hlist⟩ := exists_cons_cons hcount
  rw [hlist] at hperm hshells
  obtain ⟨hfirst, hkindFirst, hkeyFirst⟩ := hshells first List.mem_cons_self
  obtain ⟨hsecond, hkindSecond, hkeySecond⟩ :=
    hshells second (List.mem_cons_of_mem _ List.mem_cons_self)
  refine ⟨full, first, second, tail ++ (l.filter fun report ↦ !shell report).erase full, ?_, ?_⟩
  · exact
      { active := hactive
        activeFirst := (List.mem_filter.mp hfirst).2
        activeSecond := (List.mem_filter.mp hsecond).2
        keyFirst := hkeyFirst
        keySecond := hkeySecond
        coversFirst :=
          covers_of_consistent hconsistent hfull hfirst hkeyFirst hkind hkindFirst
        coversSecond :=
          covers_of_consistent hconsistent hfull hsecond hkeySecond hkind hkindSecond }
  · exact hperm.trans (((List.perm_cons_erase hother).append_left _).trans List.perm_middle)

end Shells

/-! ## The order -/

theorem Alike.duplicates {set : BaselineProposalSet} {result : Except SloError BaselineProposalSet}
    (h : Alike (.ok set) result) :
    ∃ other, result = .ok other ∧ other.duplicateReports = set.duplicateReports := by
  cases h with
  | pooled hsame => exact ⟨_, rfl, congrArg (·.duplicateReports) hsame.rest⟩

/-- A history that can be pooled is pooled in some order. -/
theorem Mergeable.exists_ok {l : List SloReport} (h : Mergeable l) (arith : FloatArith) :
    ∃ l' set, l.Perm l' ∧ fromReports arith l' = .ok set := by
  obtain ⟨l', hperm, hfirst⟩ := exists_fullsFirst l
  obtain ⟨history, hrun⟩ := run_of_fullsFirst hfirst (h.consistent.perm hperm)
  obtain ⟨set, hset, -⟩ := (h.perm hperm).ok arith hrun
  exact ⟨l', set, hperm, hset⟩

theorem duplicates_of_ok {arith : FloatArith} {l : List SloReport} {set : BaselineProposalSet}
    (h : fromReports arith l = .ok set) : ∃ history,
      l.foldlM History.accept .new = .ok history ∧ set.duplicateReports = history.duplicates := by
  obtain ⟨-, -, history, hrun, hpool⟩ := fromReports_eq_ok.mp h
  exact ⟨history, hrun, pool_duplicates hpool⟩

/-- The full report before its shells, and after them, make different counts of duplicates. -/
theorem Crowd.not_alike {full first second : SloReport} (h : Crowd full first second)
    {arith : FloatArith} {l : List SloReport} {a b : BaselineProposalSet}
    (ha : fromReports arith (full :: first :: second :: l) = .ok a)
    (hb : fromReports arith (first :: second :: full :: l) = .ok b) :
    b.duplicateReports ≠ a.duplicateReports := by
  obtain ⟨history, hrun, hduplicates⟩ := duplicates_of_ok ha
  obtain ⟨history', hrun', hduplicates'⟩ := duplicates_of_ok hb
  rw [h.run_full] at hrun
  have hshells := h.run_shells hrun'
  cases hbase : l.foldlM History.accept ⟨[full], 0, 1, 0⟩ with
  | error e =>
    rw [hbase] at hrun
    cases hrun
  | ok base =>
    rw [hbase] at hrun hshells
    cases hrun
    cases hshells
    rw [hduplicates, hduplicates']
    exact Nat.succ_ne_self base.duplicates

/-- **The order of the artifacts does not matter** exactly when no run of a history that can be
pooled comes as a full report with two or more shells. -/
theorem fromReports_order_iff (arith : FloatArith) (reports : List SloReport) :
    (∀ reports', reports.Perm reports' →
      Alike (fromReports arith reports) (fromReports arith reports')) ↔
    (Mergeable reports → OneShell reports) := by
  constructor
  · intro halike hmergeable
    by_contra hmany
    obtain ⟨full, first, second, rest, hcrowd, hperm⟩ :=
      exists_crowd hmergeable.consistent hmany
    have hperm' : (full :: first :: second :: rest).Perm (first :: second :: full :: rest) :=
      (@List.perm_middle _ full [first, second] rest).symm
    -- one order is pooled, and so is every other, with as many duplicates
    obtain ⟨l, set, hl, hset⟩ := hmergeable.exists_ok arith
    obtain ⟨original, horiginal⟩ : ∃ original, fromReports arith reports = .ok original := by
      have h := halike l hl
      rw [hset] at h
      cases hreports : fromReports arith reports with
      | ok original => exact ⟨original, rfl⟩
      | error e =>
        rw [hreports] at h
        cases h
    rw [horiginal] at halike
    obtain ⟨a, ha, hduplicates⟩ := (halike _ hperm).duplicates
    obtain ⟨b, hb, hduplicates'⟩ := (halike _ (hperm.trans hperm')).duplicates
    exact hcrowd.not_alike ha hb (hduplicates'.trans hduplicates.symm)
  · exact fun hone reports' hperm ↦ alike_of_oneShell arith hone hperm

/-! ## A shell that is passed twice -/

/-- An operation on finite floats, without rounding. -/
def onRationals (op : ℚ → ℚ → ℚ) : Float64 → Float64 → Float64
  | .finite left, .finite right => .finite (op left right)
  | _, _ => .nan

def rationalArith : FloatArith where
  add := onRationals (· + ·)
  sub := onRationals (· - ·)
  mul := onRationals (· * ·)
  div := onRationals (· / ·)
  ofNat n := .finite n
  single value := value

/-- A report of one run: the full one, or its shell, by the limitations. -/
def nightReport (limitations : List String) : SloReport where
  schemaVersion := "1"
  catalogVersion := "slo-catalog-v1"
  countsTowardActiveSlo := true
  source :=
    { datasetId := "night"
      gitCommit := "4f1c2aa"
      mode := .fullGenerative
      configVersion := "v1"
      seed := 7
      streamDurationMs := some 3600000
      runId := some "night-1" }
  indicators := []
  latencyCalibration := []
  limitations
  others := ""

def nightShell : SloReport := nightReport [aggregateShellLimitation]

/-- A shell that is passed twice counts a duplicate before the full report, and none after it. -/
theorem fromReports_order_shells :
    [nightReport [], nightShell, nightShell].Perm [nightShell, nightShell, nightReport []] ∧
    ¬Alike (fromReports rationalArith [nightReport [], nightShell, nightShell])
      (fromReports rationalArith [nightShell, nightShell, nightReport []]) := by
  refine ⟨(@List.perm_middle _ (nightReport []) [nightShell, nightShell] []).symm, ?_⟩
  have hfirst : (fromReports rationalArith [nightReport [], nightShell, nightShell]).map
      (·.duplicateReports) = .ok 0 := by decide +kernel
  have hlast : (fromReports rationalArith [nightShell, nightShell, nightReport []]).map
      (·.duplicateReports) = .ok 1 := by decide +kernel
  intro halike
  cases hset : fromReports rationalArith [nightReport [], nightShell, nightShell] with
  | error e =>
    rw [hset] at hfirst
    cases hfirst
  | ok set =>
    rw [hset] at halike hfirst
    obtain ⟨other, hother, hduplicates⟩ := halike.duplicates
    rw [hother] at hlast
    have hzero : set.duplicateReports = 0 := Except.ok.inj hfirst
    have hone : other.duplicateReports = 1 := Except.ok.inj hlast
    rw [hzero, hone] at hduplicates
    cases hduplicates

end Aivtuber.BaselinePooling
