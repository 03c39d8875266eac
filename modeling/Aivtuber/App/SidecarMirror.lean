import Aivtuber.Adaptation.Supersession
import Aivtuber.App.MemorySidecar
import Aivtuber.Base.LastWrite

/-!
# The mirror of the store

Both sides of the comparison keep a bounded queue of claims: the runner one in which a claim also
removes the claim that it supersedes (`Retention.Tracks.mirrorCase`), and the store one in which
that claim stays, and is linked (`Stored.writeCaseClaims`).  They show the same claims exactly
when no replaced claim took the room of another one, and when of a replaced claim that is still
stored a successor is live (`sameMemory_iff`).
-/

open Aivtuber.Check Saturating BoundedQueue

namespace Aivtuber

/-! ## Claims -/

/-- A claim lives for the lifetime of durable memories. -/
def unexpired (ttlMs nowMs : Nat) (claim : MemoryEvalClaim) : Bool :=
  nowMs < satAdd claim.recordedAtMs ttlMs

/-- A claim is told when an earlier one has expired. -/
def expires (ttlMs : Nat) (later earlier : MemoryEvalClaim) : Bool :=
  !unexpired ttlMs later.recordedAtMs earlier

def supersedes (later earlier : MemoryEvalClaim) : Bool := later.supersedes = some earlier.eventId

/-- A claim is told when an earlier one has expired, or supersedes it. -/
def replaces (ttlMs : Nat) (later earlier : MemoryEvalClaim) : Bool :=
  expires ttlMs later earlier || supersedes later earlier

/-! ## The runner -/

namespace Retention

/-- The books agree with the service, which holds a queue of the claims it was told. -/
structure Tracks (retention : Retention) (claims queue : List MemoryEvalClaim) : Prop where
  ids : (claims.map MemoryEvalClaim.eventId).Nodup
  order : retention.retentionOrder = claims.map MemoryEvalClaim.eventId
  admitted : retention.admitted.map (fun entry ↦ (entry.1, entry.2.recordedAtMs)) =
    claims.map fun claim ↦ (claim.eventId, claim.recordedAtMs)
  handles : retention.handles.map Prod.fst = queue.map MemoryEvalClaim.eventId
  held : retention.sidecar.held.map (fun held ↦ (held.2.claimId, held.1)) = retention.handles
  distinct : (retention.sidecar.held.map Prod.fst).Nodup
  fresh : ∀ held ∈ retention.sidecar.held, held.1 < retention.sidecar.nextHandle
  queue : queue.Sublist claims

section Tracks

variable {retention : Retention} {claims queue : List MemoryEvalClaim} {claim : MemoryEvalClaim}

theorem tracks_empty : empty.Tracks [] [] where
  ids := List.nodup_nil
  order := rfl
  admitted := rfl
  handles := rfl
  held := rfl
  distinct := List.nodup_nil
  fresh _ hheld := absurd hheld List.not_mem_nil
  queue := List.Sublist.refl _

theorem Tracks.nodup_handles (h : retention.Tracks claims queue) :
    (retention.handles.map Prod.fst).Nodup := by
  rw [h.handles]
  exact h.ids.sublist (h.queue.map _)

/-- A handle names one claim, and a claim has one handle. -/
theorem Tracks.handle_iff (h : retention.Tracks claims queue) {id : String} {handle : Nat}
    (hhandle : retention.handles.lookup id = some handle) {held : Nat × SidecarClaim}
    (hheld : held ∈ retention.sidecar.held) : held.1 = handle ↔ held.2.claimId = id := by
  have hmem := (List.mem_iff_lookup h.nodup_handles).mpr hhandle
  have hown : (held.2.claimId, held.1) ∈ retention.handles := by
    rw [← h.held]
    exact List.mem_map_of_mem hheld
  constructor
  · rintro rfl
    rw [← h.held] at hmem
    obtain ⟨other, hother, heq⟩ := List.mem_map.mp hmem
    obtain ⟨rfl, hsame⟩ := Prod.mk.inj heq
    rw [List.inj_on_of_nodup_map h.distinct hheld hother hsame.symm]
  · rintro rfl
    have hlookup := (List.mem_iff_lookup h.nodup_handles).mp hown
    rw [hlookup] at hhandle
    exact Option.some.inj hhandle

theorem Tracks.retire (h : retention.Tracks claims queue) (id : String) :
    (retention.retire id).Tracks claims (queue.filter fun claim ↦ claim.eventId ≠ id) := by
  have hqueue : (queue.filter fun claim ↦ claim.eventId ≠ id).map MemoryEvalClaim.eventId =
      (retention.handles.filter fun entry ↦ entry.1 ≠ id).map Prod.fst := by
    rw [← Function.comp_def (fun name ↦ decide (name ≠ id)) MemoryEvalClaim.eventId,
      ← List.filter_map, ← h.handles, List.filter_map]
    rfl
  rw [Retention.retire]
  split
  case h_1 handle hhandle =>
    refine { h with handles := hqueue.symm, held := ?_, distinct := ?_, fresh := ?_, queue := ?_ }
    · dsimp only
      rw [← h.held, List.filter_map]
      congr 1
      refine List.filter_congr fun held hheld ↦ ?_
      simpa using h.handle_iff hhandle hheld
    · exact h.distinct.sublist (List.filter_sublist.map _)
    · exact fun held hheld ↦ h.fresh held (List.mem_of_mem_filter hheld)
    · exact List.filter_sublist.trans h.queue
  case h_2 hnone =>
    have hsame : (retention.handles.filter fun entry ↦ entry.1 ≠ id) = retention.handles := by
      refine List.filter_eq_self.mpr fun entry hentry ↦ decide_eq_true fun heq ↦ ?_
      have hlookup := (List.mem_iff_lookup h.nodup_handles).mp hentry
      rw [heq, hnone] at hlookup
      cases hlookup
    refine { h with handles := ?_, queue := List.filter_sublist.trans h.queue }
    rw [hqueue, hsame]

/-- Retiring some of the claims, one by one. -/
theorem Tracks.foldl_retire {ι : Type*} {step : Retention → ι → Retention} {id : ι → String}
    {gone : ι → Bool} {l : List ι}
    (hstep : ∀ retention queue, retention.Tracks claims queue → ∀ i ∈ l,
      step retention i = if gone i then retention.retire (id i) else retention)
    (h : retention.Tracks claims queue) :
    (l.foldl step retention).Tracks claims
      (queue.filter fun claim ↦ !l.any fun i ↦ gone i && id i = claim.eventId) := by
  induction l generalizing retention queue with
  | nil =>
    have hall : (queue.filter fun _ ↦ true) = queue := List.filter_eq_self.mpr fun _ _ ↦ rfl
    rw [← hall] at h
    exact h
  | cons i l ih =>
    have hlater {retention : Retention} {queue : List MemoryEvalClaim}
        (htracks : retention.Tracks claims queue) := ih (fun retention queue htracks j hj ↦
      hstep retention queue htracks j (List.mem_cons_of_mem i hj)) htracks
    rw [List.foldl_cons, hstep retention queue h i List.mem_cons_self]
    cases hgone : gone i with
    | false =>
      have hall := hlater h
      simpa [hgone] using hall
    | true =>
      have hall := hlater (h.retire (id i))
      rw [List.filter_filter] at hall
      rw [if_pos rfl]
      convert hall using 1
      refine List.filter_congr fun claim _ ↦ ?_
      rw [List.any_cons, hgone, Bool.true_and, Bool.not_or, Bool.and_comm]
      congr 1
      simp [eq_comm]

theorem Tracks.lookup_admitted (h : retention.Tracks claims queue) (hclaim : claim ∈ claims) :
    ∃ admitted, retention.admitted.lookup claim.eventId = some admitted ∧
      admitted.recordedAtMs = claim.recordedAtMs := by
  have hids : retention.admitted.map Prod.fst = claims.map MemoryEvalClaim.eventId := by
    have hfst := congrArg (List.map Prod.fst) h.admitted
    rwa [List.map_map, List.map_map] at hfst
  have hmem : (claim.eventId, claim.recordedAtMs) ∈
      retention.admitted.map fun entry ↦ (entry.1, entry.2.recordedAtMs) := by
    rw [h.admitted]
    exact List.mem_map_of_mem hclaim
  obtain ⟨entry, hentry, heq⟩ := List.mem_map.mp hmem
  obtain ⟨hid, hrecorded⟩ := Prod.mk.inj heq
  refine ⟨entry.2, ?_, hrecorded⟩
  rw [← hid]
  exact (List.mem_iff_lookup (hids ▸ h.ids)).mp hentry

theorem Tracks.retireExpired (h : retention.Tracks claims queue) (nowMs ttlMs : Nat) :
    (retention.retireExpired nowMs ttlMs).Tracks claims (queue.filter (unexpired ttlMs nowMs)) := by
  have hfold : (retention.retireExpired nowMs ttlMs).Tracks claims (queue.filter fun claim ↦
      !claims.any fun other ↦ !unexpired ttlMs nowMs other && other.eventId = claim.eventId) := by
    rw [Retention.retireExpired, h.order, List.foldl_map]
    refine Tracks.foldl_retire (fun retention queue htracks claim hclaim ↦ ?_) h
    obtain ⟨admitted, hlookup, hrecorded⟩ := htracks.lookup_admitted hclaim
    rw [hlookup]
    by_cases hlive : nowMs < satAdd claim.recordedAtMs ttlMs <;>
      simp [unexpired, hrecorded, hlive]
  convert hfold using 1
  refine List.filter_congr fun claim hclaim ↦ ?_
  rw [Bool.eq_iff_iff, Bool.not_eq_true', List.any_eq_false]
  constructor
  · intro hlive other hother hgone
    rw [Bool.and_eq_true, decide_eq_true_eq] at hgone
    rw [List.inj_on_of_nodup_map h.ids hother (h.queue.subset hclaim) hgone.2, hlive] at hgone
    cases hgone.1
  · intro hall
    by_contra hdead
    exact hall claim (h.queue.subset hclaim) (by simp [hdead])

theorem Tracks.retireUnrecorded (h : retention.Tracks claims queue) (nowMs : Nat) :
    (retention.retireUnrecorded nowMs).Tracks claims
      (queue.filter fun claim ↦ claim.recordedAtMs ≤ nowMs) := by
  have hfold : (retention.retireUnrecorded nowMs).Tracks claims (queue.filter fun claim ↦
      !retention.admitted.any fun entry ↦
        decide (nowMs < entry.2.recordedAtMs) && entry.1 = claim.eventId) := by
    refine Tracks.foldl_retire (fun retention queue _ entry _ ↦ ?_) h
    by_cases hlater : nowMs < entry.2.recordedAtMs <;> simp [hlater]
  convert hfold using 1
  refine List.filter_congr fun claim hclaim ↦ ?_
  obtain ⟨admitted, hlookup, hrecorded⟩ := h.lookup_admitted (h.queue.subset hclaim)
  rw [Bool.eq_iff_iff, Bool.not_eq_true', List.any_eq_false, decide_eq_true_eq]
  constructor
  · intro hby entry hentry hgone
    have hpair : (entry.1, entry.2.recordedAtMs) ∈
        claims.map fun claim ↦ (claim.eventId, claim.recordedAtMs) := by
      rw [← h.admitted]
      exact List.mem_map_of_mem hentry
    obtain ⟨other, hother, heq⟩ := List.mem_map.mp hpair
    obtain ⟨hid, hat⟩ := Prod.mk.inj heq
    simp only [Bool.and_eq_true, decide_eq_true_eq] at hgone
    rw [List.inj_on_of_nodup_map h.ids hother (h.queue.subset hclaim) (hid.trans hgone.2)] at hat
    omega
  · intro hall
    obtain ⟨front, back, hentries, -⟩ := List.lookup_eq_some_iff.mp hlookup
    have hentry := hall (claim.eventId, admitted) (by
      rw [hentries]
      exact List.mem_append_right _ List.mem_cons_self)
    simp only [decide_true, Bool.and_true, decide_eq_true_eq] at hentry
    omega

theorem Tracks.retain (h : retention.Tracks claims queue) {sidecarClaim : SidecarClaim}
    (hid : sidecarClaim.claimId = claim.eventId)
    (hrecorded : sidecarClaim.recordedAtMs = claim.recordedAtMs)
    (hnew : claim.eventId ∉ claims.map MemoryEvalClaim.eventId) :
    (retention.retain sidecarClaim).Tracks (claims ++ [claim]) (queue ++ [claim]) := by
  have hhandles : (retention.handles.filter fun entry ↦ entry.1 ≠ claim.eventId) =
      retention.handles := by
    refine List.filter_eq_self.mpr fun entry hentry ↦ decide_eq_true fun heq ↦ hnew ?_
    rw [← heq]
    refine (h.queue.map _).subset ?_
    rw [← h.handles]
    exact List.mem_map_of_mem hentry
  have hadmitted : (retention.admitted.filter fun entry ↦ entry.1 ≠ claim.eventId) =
      retention.admitted := by
    refine List.filter_eq_self.mpr fun entry hentry ↦ decide_eq_true fun heq ↦ hnew ?_
    have hpair : (entry.1, entry.2.recordedAtMs) ∈
        claims.map fun claim ↦ (claim.eventId, claim.recordedAtMs) := by
      rw [← h.admitted]
      exact List.mem_map_of_mem hentry
    obtain ⟨other, hother, hsame⟩ := List.mem_map.mp hpair
    rw [← heq, ← (Prod.mk.inj hsame).1]
    exact List.mem_map_of_mem hother
  constructor
  case ids =>
    rw [List.map_append, List.nodup_append]
    refine ⟨h.ids, List.nodup_singleton _, fun id hmem other hother heq ↦ hnew ?_⟩
    rwa [← List.mem_singleton.mp hother, ← heq]
  case order =>
    rw [List.map_append, ← h.order, List.map_singleton, ← hid]
    rfl
  case admitted =>
    simp only [Retention.retain, hid, hadmitted, List.map_append, h.admitted, hrecorded,
      List.map_cons, List.map_nil]
  case handles =>
    simp only [Retention.retain, hid, hhandles, List.map_append, h.handles, List.map_cons,
      List.map_nil]
  case held =>
    simp only [Retention.retain, IdealSidecar.retain, hid, hhandles, List.map_append, h.held,
      List.map_cons, List.map_nil]
  case distinct =>
    simp only [Retention.retain, IdealSidecar.retain, List.map_append, List.map_cons, List.map_nil]
    rw [List.nodup_append]
    refine ⟨h.distinct, List.nodup_singleton _, fun handle hmem other hother heq ↦ ?_⟩
    obtain ⟨held, hheld, rfl⟩ := List.mem_map.mp hmem
    have hfresh := h.fresh held hheld
    rw [heq, List.mem_singleton.mp hother] at hfresh
    exact Nat.lt_irrefl _ hfresh
  case fresh =>
    intro held hheld
    rcases List.mem_append.mp hheld with hold | hlast
    · exact Nat.lt_succ_of_lt (h.fresh held hold)
    · rw [List.mem_singleton.mp hlast]
      exact Nat.lt_succ_self _
  case queue => exact h.queue.append (List.Sublist.refl _)

/-- The oldest of the claims that are held is the head of the queue. -/
theorem Tracks.find_oldest (h : retention.Tracks claims (claim :: queue)) :
    (retention.retentionOrder.find? fun id ↦ (retention.handles.lookup id).isSome) =
      some claim.eventId := by
  have hheld : ∀ id, (retention.handles.lookup id).isSome = true ↔
      id ∈ (claim :: queue).map MemoryEvalClaim.eventId := by
    intro id
    rw [← h.handles, List.lookup_isSome_iff]
    constructor
    · rintro ⟨entry, hentry, hsame⟩
      rw [eq_of_beq hsame]
      exact List.mem_map_of_mem hentry
    · intro hid
      obtain ⟨entry, hentry, rfl⟩ := List.mem_map.mp hid
      exact ⟨entry, hentry, BEq.rfl⟩
  have hqueue : ((claims.map MemoryEvalClaim.eventId).filter
      fun id ↦ (retention.handles.lookup id).isSome) =
        (claim :: queue).map MemoryEvalClaim.eventId := by
    have hsublist : ((claim :: queue).map MemoryEvalClaim.eventId).Sublist
        ((claims.map MemoryEvalClaim.eventId).filter
          fun id ↦ (retention.handles.lookup id).isSome) := by
      rw [← List.filter_eq_self.mpr fun id hid ↦ (hheld id).mpr hid]
      exact (h.queue.map _).filter _
    refine (hsublist.eq_of_length_le (List.Subperm.length_le ?_)).symm
    refine (h.ids.filter _).subperm fun id hid ↦ ?_
    exact (hheld id).mp (List.mem_filter.mp hid).2
  rw [h.order, ← List.head?_filter, hqueue]
  rfl

theorem Tracks.length_handles (h : retention.Tracks claims queue) :
    retention.handles.length = queue.length := by
  rw [← List.length_map, h.handles, List.length_map]

theorem Tracks.evict (h : retention.Tracks claims queue) {maxEntries fuel : Nat}
    (hfuel : queue.length ≤ fuel) :
    (retention.evict maxEntries fuel).Tracks claims (queue.rtake maxEntries) := by
  induction fuel generalizing retention queue with
  | zero =>
    rw [List.rtake_of_length_le (hfuel.trans (Nat.zero_le _))]
    exact h
  | succ fuel ih =>
    rw [Retention.evict]
    split
    case isFalse hfits =>
      rw [h.length_handles, Nat.not_lt] at hfits
      rw [List.rtake_of_length_le hfits]
      exact h
    case isTrue hfull =>
      rw [h.length_handles] at hfull
      cases queue with
      | nil => exact absurd hfull (Nat.not_lt_zero _)
      | cons oldest queue =>
        rw [h.find_oldest]
        have hids := h.ids.sublist (h.queue.map _)
        rw [List.map_cons, List.nodup_cons] at hids
        have hrest : ((oldest :: queue).filter fun claim ↦ claim.eventId ≠ oldest.eventId) =
            queue := by
          rw [List.filter_cons_of_neg (by simp), List.filter_eq_self]
          refine fun claim hclaim ↦ decide_eq_true fun heq ↦ hids.1 ?_
          rw [← heq]
          exact List.mem_map_of_mem hclaim
        have hnewest : (oldest :: queue).rtake maxEntries = queue.rtake maxEntries := by
          rw [List.rtake, List.rtake, List.length_cons,
            Nat.succ_sub (Nat.lt_succ_iff.mp hfull), List.drop_succ_cons]
        rw [hnewest]
        have hretired := h.retire oldest.eventId
        rw [hrest] at hretired
        exact ih hretired (Nat.succ_le_succ_iff.mp hfuel)

/-- What is told of one claim. -/
theorem Tracks.mirror (h : retention.Tracks claims queue) {config : WorkingMemoryConfig}
    {sidecarClaim : SidecarClaim} (hid : sidecarClaim.claimId = claim.eventId)
    (hrecorded : sidecarClaim.recordedAtMs = claim.recordedAtMs)
    (hnew : claim.eventId ∉ claims.map MemoryEvalClaim.eventId)
    (hother : claim.supersedes ≠ some claim.eventId) :
    ((retention.retireExpired claim.recordedAtMs config.durableTtlMs).mirror config
      claim.supersedes sidecarClaim).Tracks (claims ++ [claim])
        ((arrive (replaces config.durableTtlMs) queue claim).rtake config.maxEntries) := by
  have hretained :=
    (h.retireExpired claim.recordedAtMs config.durableTtlMs).retain hid hrecorded hnew
  obtain ⟨told, htold⟩ : ∃ told, told = (retention.retireExpired claim.recordedAtMs
    config.durableTtlMs).retain sidecarClaim := ⟨_, rfl⟩
  rw [← htold] at hretained
  have hsuperseded : (claim.supersedes.elim told told.retire).Tracks (claims ++ [claim])
      (arrive (replaces config.durableTtlMs) queue claim) := by
    cases htarget : claim.supersedes with
    | none =>
      have harrive : arrive (replaces config.durableTtlMs) queue claim =
          queue.filter (unexpired config.durableTtlMs claim.recordedAtMs) ++ [claim] := by
        rw [arrive]
        congr 1
        refine List.filter_congr fun earlier _ ↦ ?_
        simp [replaces, expires, supersedes, htarget]
      rw [harrive]
      exact hretained
    | some target =>
      have harrive : arrive (replaces config.durableTtlMs) queue claim =
          (queue.filter (unexpired config.durableTtlMs claim.recordedAtMs) ++ [claim]).filter
            fun claim ↦ claim.eventId ≠ target := by
        rw [htarget] at hother
        have hown : claim.eventId ≠ target := fun heq ↦ hother (congrArg some heq.symm)
        rw [arrive, List.filter_append, List.filter_filter,
          List.filter_cons_of_pos (by simpa using hown), List.filter_nil]
        congr 1
        refine List.filter_congr fun earlier _ ↦ ?_
        by_cases heq : earlier.eventId = target
        · simp [replaces, expires, supersedes, htarget, heq]
        · simp [replaces, expires, supersedes, htarget, heq, Ne.symm heq]
      rw [harrive]
      exact hretained.retire target
  have hevicted : (Retention.evict config.maxEntries _ _).Tracks _ _ :=
    hsuperseded.evict hsuperseded.length_handles.ge
  rw [Retention.mirror, ← htold]
  exact { hevicted with }

end Tracks

section Run

variable {format : Format} {primitives : MemoryPrimitives} {memoryAdmin : Bool}
  {case : MemoryEvalCase} {retention : Retention}

theorem tracks_mirrorClaims {claims : List MemoryEvalClaim}
    (hids : (claims.map MemoryEvalClaim.eventId).Nodup)
    (hothers : ∀ claim ∈ claims, claim.supersedes ≠ some claim.eventId)
    (h : claims.foldlM (mirrorClaim format primitives memoryAdmin case) empty = .ok retention) :
    retention.Tracks claims (retained (replaces case.config.apply.durableTtlMs)
      case.config.apply.maxEntries claims) := by
  refine foldlM_invariant (P := fun claims (retention : Retention) ↦ retention.Tracks claims
    (retained (replaces case.config.apply.durableTtlMs) case.config.apply.maxEntries claims))
    ?_ tracks_empty h
  rintro before claim after rfl earlier later htracks hclaim
  obtain ⟨text, -, hclaim⟩ := bind_eq_ok.mp hclaim
  obtain ⟨-, hclaim⟩ := unit_bind_eq_ok.mp hclaim
  obtain ⟨-, hclaim⟩ := unit_bind_eq_ok.mp hclaim
  cases hclaim
  rw [retained_concat]
  refine htracks.mirror rfl rfl (fun hold ↦ ?_)
    (hothers claim (List.mem_append_right _ List.mem_cons_self))
  rw [List.map_append, List.nodup_append] at hids
  exact hids.2.2 _ hold _ List.mem_cons_self rfl

/-- The service holds what its bounded queue has left, live at the read. -/
theorem tracks_mirrorCase (hids : (case.claims.map MemoryEvalClaim.eventId).Nodup)
    (hothers : ∀ claim ∈ case.claims, claim.supersedes ≠ some claim.eventId)
    (h : mirrorCase format primitives memoryAdmin case = .ok retention) :
    retention.Tracks case.claims (((retained (replaces case.config.apply.durableTtlMs)
      case.config.apply.maxEntries case.claims).filter
        (unexpired case.config.apply.durableTtlMs case.query.nowMs)).filter
          fun claim ↦ claim.recordedAtMs ≤ case.query.nowMs) := by
  obtain ⟨told, htold, h⟩ := bind_eq_ok.mp h
  cases h
  exact ((tracks_mirrorClaims hids hothers htold).retireExpired _ _).retireUnrecorded _

end Run

end Retention

/-! ## The store -/

namespace WorkingMemory

/-- What a claim and its entry have in common. -/
def key (entry : MemoryEntry) : String × Nat := (entry.source.eventId, entry.createdAtMs)

/-- The store holds a queue of the claims it was told, and the supersessions between them. -/
structure Stores (memory : WorkingMemory) (config : WorkingMemoryConfig)
    (claims : List MemoryEvalClaim) : Prop where
  sequenced : memory.Sequenced
  configured : memory.config = config
  ids : (claims.map MemoryEvalClaim.eventId).Nodup
  entries : memory.entries.map key =
    (retained (expires config.durableTtlMs) config.maxEntries claims).map
      fun claim ↦ (claim.eventId, claim.recordedAtMs)
  durable : ∀ entry ∈ memory.entries, entry.retention = .durable
  endpoints : ∀ link ∈ memory.links, memory.retains link.target = true
  supersedes : ∀ later ∈ memory.entries, ∀ earlier ∈ memory.entries,
    memory.Supersedes later earlier ↔ ∃ claim ∈ claims, claim.eventId = later.source.eventId ∧
      claim.supersedes = some earlier.source.eventId
  declared : ∀ before claim after, before ++ claim :: after = claims → ∀ target,
    claim.supersedes = some target → ∃ earlier ∈ before, earlier.eventId = target ∧
      earlier.recordedAtMs ≤ claim.recordedAtMs

section Stores

variable {memory memory' : WorkingMemory} {config : WorkingMemoryConfig}
  {primitives : MemoryPrimitives} {claims : List MemoryEvalClaim} {claim : MemoryEvalClaim}
  {entry : MemoryEntry}

theorem stores_new {pseudonymizer : ActorPseudonymizer}
    (h : new config pseudonymizer = .ok memory) : memory.Stores config [] := by
  have hsequenced := new_sequenced h
  obtain ⟨-, h⟩ := unit_bind_eq_ok.mp h
  cases h
  exact {
    sequenced := hsequenced
    configured := rfl
    ids := List.nodup_nil
    entries := rfl
    durable := fun _ hentry ↦ absurd hentry List.not_mem_nil
    endpoints := fun _ hlink ↦ absurd hlink List.not_mem_nil
    supersedes := fun _ hentry ↦ absurd hentry List.not_mem_nil
    declared := fun _ _ _ heq ↦ absurd heq (List.append_ne_nil_of_right_ne_nil _ (List.cons_ne_nil _ _)) }

/-- An entry stands for a claim. -/
theorem Stores.claim_of_mem (h : memory.Stores config claims) (hentry : entry ∈ memory.entries) :
    ∃ claim ∈ retained (expires config.durableTtlMs) config.maxEntries claims,
      claim.eventId = entry.source.eventId ∧ claim.recordedAtMs = entry.createdAtMs := by
  have hkey := List.mem_map_of_mem (f := key) hentry
  rw [h.entries] at hkey
  obtain ⟨claim, hclaim, heq⟩ := List.mem_map.mp hkey
  obtain ⟨hid, hcreated⟩ := Prod.mk.inj heq
  exact ⟨claim, hclaim, hid, hcreated⟩

theorem Stores.entry_of_mem (h : memory.Stores config claims)
    (hclaim : claim ∈ retained (expires config.durableTtlMs) config.maxEntries claims) :
    ∃ entry ∈ memory.entries, entry.source.eventId = claim.eventId ∧
      entry.createdAtMs = claim.recordedAtMs := by
  have hkey : (claim.eventId, claim.recordedAtMs) ∈ memory.entries.map key := by
    rw [h.entries]
    exact List.mem_map.mpr ⟨claim, hclaim, rfl⟩
  obtain ⟨entry, hentry, heq⟩ := List.mem_map.mp hkey
  obtain ⟨hid, hcreated⟩ := Prod.mk.inj heq
  exact ⟨entry, hentry, hid, hcreated⟩

theorem Stores.mem_ids (h : memory.Stores config claims) (hentry : entry ∈ memory.entries) :
    entry.source.eventId ∈ claims.map MemoryEvalClaim.eventId := by
  obtain ⟨claim, hclaim, hid, -⟩ := h.claim_of_mem hentry
  rw [← hid]
  exact List.mem_map_of_mem ((retained_sublist claims).subset hclaim)

/-- An event id names one entry. -/
theorem Stores.unique (h : memory.Stores config claims) {other : MemoryEntry}
    (hentry : entry ∈ memory.entries) (hother : other ∈ memory.entries)
    (hid : entry.source.eventId = other.source.eventId) : entry = other := by
  have hnodup : (memory.entries.map fun entry ↦ entry.source.eventId).Nodup := by
    have hfst := congrArg (List.map Prod.fst) h.entries
    rw [List.map_map, List.map_map] at hfst
    change (memory.entries.map (Prod.fst ∘ key)).Nodup
    rw [hfst]
    exact h.ids.sublist ((retained_sublist claims).map _)
  exact List.inj_on_of_nodup_map hnodup hentry hother hid

theorem Stores.expiry (h : memory.Stores config claims) (hentry : entry ∈ memory.entries) :
    entry.expiresAtMs = satAdd entry.createdAtMs config.durableTtlMs := by
  rw [h.sequenced.durable entry hentry (h.durable entry hentry), h.configured]

/-- The survivors of a write are what two cuts leave of the entries that are not expired. -/
theorem survivors_eq (hbound : 0 < memory.config.maxEntries) (nowMs : Nat) :
    memory.survivors nowMs = (memory.entries.filter (nowMs < ·.expiresAtMs)).drop
      ((memory.entries.filter (nowMs < ·.expiresAtMs)).length + 1 - memory.config.maxEntries) := by
  rw [survivors, kept, List.drop_drop, List.length_drop]
  congr 1
  omega

theorem rtake_concat {α : Type*} {bound : Nat} (hbound : 0 < bound) (l : List α) (a : α) :
    (l ++ [a]).rtake bound = l.drop (l.length + 1 - bound) ++ [a] := by
  rw [List.rtake, List.length_append, List.length_singleton, List.drop_append_of_le_length]
  omega

theorem Stores.survivors (h : memory.Stores config claims) (claim : MemoryEvalClaim) :
    (memory.survivors claim.recordedAtMs).map key ++ [(claim.eventId, claim.recordedAtMs)] =
      (retained (expires config.durableTtlMs) config.maxEntries (claims ++ [claim])).map
        fun claim ↦ (claim.eventId, claim.recordedAtMs) := by
  have hbound := h.sequenced.maxEntries
  have hfilter : (memory.entries.filter (claim.recordedAtMs < ·.expiresAtMs)).map key =
      ((retained (expires config.durableTtlMs) config.maxEntries claims).filter
        fun earlier ↦ !expires config.durableTtlMs claim earlier).map
          fun claim ↦ (claim.eventId, claim.recordedAtMs) := by
    have hlive : ∀ entry ∈ memory.entries, decide (claim.recordedAtMs < entry.expiresAtMs) =
        ((fun pair : String × Nat ↦
          decide (claim.recordedAtMs < satAdd pair.2 config.durableTtlMs)) ∘ key) entry := by
      intro entry hentry
      rw [h.expiry hentry]
      rfl
    have hclaims : (fun earlier ↦ !expires config.durableTtlMs claim earlier) =
        (fun pair : String × Nat ↦
          decide (claim.recordedAtMs < satAdd pair.2 config.durableTtlMs)) ∘
            fun claim : MemoryEvalClaim ↦ (claim.eventId, claim.recordedAtMs) := by
      funext earlier
      simp [expires, unexpired]
    rw [List.filter_congr hlive, ← List.filter_map, h.entries, hclaims, List.filter_map]
  rw [survivors_eq hbound, retained_concat, arrive, rtake_concat (h.configured ▸ hbound),
    List.map_append, List.map_drop, hfilter, List.map_drop, h.configured]
  congr 2
  have hlength := congrArg List.length hfilter
  rw [List.length_map, List.length_map] at hlength
  rw [hlength]

/-- What a claim declares to supersede is what its write links. -/
theorem Stores.target_iff (h : memory.Stores config claims) {targets causes : List Nat}
    (hevidence : memory.resolveEvidence claim.recordedAtMs
      ⟨claim.supersedes.toList, claim.causedBy.toList⟩ = .ok (targets, causes)) :
    entry ∈ memory.entries → (entry.memoryId ∈ targets ↔
      claim.supersedes = some entry.source.eventId) := by
  intro hentry
  obtain ⟨hdeclared, hresolved⟩ := resolveEvidence_supersedes hevidence
  constructor
  · intro htarget
    obtain ⟨id, hid, found, hfound, hsame⟩ := hresolved _ htarget
    obtain ⟨hmem, hdurable⟩ := List.mem_filter.mp hfound
    simp only [Bool.and_eq_true, decide_eq_true_eq] at hdurable
    rw [h.sequenced.unique hentry hmem hsame.symm, hdurable.1]
    exact Option.mem_toList.mp hid
  · intro hsupersedes
    obtain ⟨found, hfound, -, htarget⟩ := hdeclared _ (Option.mem_toList.mpr hsupersedes)
    obtain ⟨hmem, hdurable⟩ := List.mem_filter.mp hfound
    simp only [Bool.and_eq_true, decide_eq_true_eq] at hdurable
    rw [h.unique hentry hmem hdurable.1.symm]
    exact htarget

/-- A declaration names an earlier claim. -/
theorem Stores.exists_earlier (h : memory.Stores config claims) {targets causes : List Nat}
    (hevidence : memory.resolveEvidence claim.recordedAtMs
      ⟨claim.supersedes.toList, claim.causedBy.toList⟩ = .ok (targets, causes)) :
    ∀ target, claim.supersedes = some target → ∃ earlier ∈ claims,
      earlier.eventId = target ∧ earlier.recordedAtMs ≤ claim.recordedAtMs := by
  intro target htarget
  obtain ⟨found, hfound, hrecorded, -⟩ :=
    (resolveEvidence_supersedes hevidence).1 target (Option.mem_toList.mpr htarget)
  obtain ⟨hmem, hdurable⟩ := List.mem_filter.mp hfound
  simp only [Bool.and_eq_true, decide_eq_true_eq] at hdurable
  obtain ⟨earlier, hearlier, hsame, hcreated⟩ := h.claim_of_mem hmem
  exact ⟨earlier, (retained_sublist claims).subset hearlier, hsame.trans hdurable.1,
    hcreated.trans_le hrecorded⟩

/-- Of the entries that a write leaves, those are linked whose claims declare it. -/
theorem Stores.supersedes_write (h : memory.Stores config claims)
    (hnew : claim.eventId ∉ claims.map MemoryEvalClaim.eventId) {targets causes : List Nat}
    (hevidence : memory.resolveEvidence claim.recordedAtMs
      ⟨claim.supersedes.toList, claim.causedBy.toList⟩ = .ok (targets, causes))
    (hid : entry.source.eventId = claim.eventId)
    (haccepted : Accepted memory primitives claim.recordedAtMs memory' entry targets causes)
    {later earlier : MemoryEntry} (hlater : later ∈ memory'.entries)
    (hearlierMem : earlier ∈ memory'.entries) :
    memory'.Supersedes later earlier ↔ ∃ other ∈ claims ++ [claim],
      other.eventId = later.source.eventId ∧
        other.supersedes = some earlier.source.eventId := by
  have hs := h.sequenced
  rw [haccepted.supersedes_iff hs h.endpoints hlater hearlierMem]
  have hknown : ∀ other ∈ memory.survivors claim.recordedAtMs,
      other.memoryId ≠ memory.nextMemoryId ∧ other.source.eventId ≠ claim.eventId := by
    intro other hother
    refine ⟨Nat.ne_of_lt (hs.fresh other (mem_survivors hother)), fun heq ↦ hnew ?_⟩
    rw [← heq]
    exact h.mem_ids (mem_survivors hother)
  have hunlinked : ∀ older newer : MemoryEntry, memory.Supersedes newer older →
      newer.memoryId ≠ memory.nextMemoryId ∧ older.memoryId ≠ memory.nextMemoryId := by
    rintro older newer ⟨link, hlink, -, hsource, htarget⟩
    rw [← hsource, ← htarget]
    exact ⟨Nat.ne_of_lt (hs.links link hlink),
      Nat.ne_of_lt (retains_lt hs (h.endpoints link hlink))⟩
  rcases haccepted.mem_entries hs hlater with hold | rfl
  · obtain ⟨hlaterId, hlaterEvent⟩ := hknown later hold
    rcases haccepted.mem_entries hs hearlierMem with holdEarlier | rfl
    · rw [h.supersedes later (mem_survivors hold) earlier (mem_survivors holdEarlier)]
      constructor
      · rintro (⟨other, hother, hsame, htarget⟩ | ⟨hnewId, -⟩)
        · exact ⟨other, List.mem_append_left _ hother, hsame, htarget⟩
        · exact absurd hnewId hlaterId
      · rintro ⟨other, hother, hsame, htarget⟩
        rcases List.mem_append.mp hother with hother | hlast
        · exact Or.inl ⟨other, hother, hsame, htarget⟩
        · rw [List.mem_singleton.mp hlast] at hsame
          exact absurd hsame.symm hlaterEvent
    · constructor
      · rintro (hlinked | ⟨hnewId, -⟩)
        · exact absurd rfl (hunlinked _ later hlinked).2
        · exact absurd hnewId hlaterId
      · rintro ⟨other, hother, hsame, htarget⟩
        rcases List.mem_append.mp hother with hother | hlast
        · -- no earlier claim declares the new one
          obtain ⟨before, after, rfl⟩ := List.append_of_mem hother
          obtain ⟨named, hnamed, hid', -⟩ := h.declared before other after rfl _ htarget
          refine absurd ?_ hnew
          rw [← hid, ← hid', List.map_append]
          exact List.mem_append_left _ (List.mem_map_of_mem hnamed)
        · rw [List.mem_singleton.mp hlast] at hsame
          exact absurd hsame.symm hlaterEvent
  · have hdeclares : (∃ other ∈ claims ++ [claim], other.eventId = entry.source.eventId ∧
        other.supersedes = some earlier.source.eventId) ↔
          claim.supersedes = some earlier.source.eventId := by
      constructor
      · rintro ⟨other, hother, hsame, htarget⟩
        rcases List.mem_append.mp hother with hold | hlast
        · refine absurd ?_ hnew
          rw [← hid, ← hsame]
          exact List.mem_map_of_mem hold
        · rwa [← List.mem_singleton.mp hlast]
      · exact fun htarget ↦ ⟨claim, List.mem_append_right _ (List.mem_singleton_self _),
          hid.symm, htarget⟩
    rw [hdeclares]
    rcases haccepted.mem_entries hs hearlierMem with holdEarlier | rfl
    · rw [← h.target_iff hevidence (mem_survivors holdEarlier)]
      constructor
      · rintro (hlinked | ⟨-, htarget⟩)
        · exact absurd rfl (hunlinked _ _ hlinked).1
        · exact htarget
      · exact fun htarget ↦ Or.inr ⟨rfl, htarget⟩
    · constructor
      · rintro (hlinked | ⟨-, htarget⟩)
        · exact absurd rfl (hunlinked _ _ hlinked).1
        · have hretained := resolveEvidence_retains hevidence (Or.inl htarget)
          exact absurd (retains_lt hs hretained) (Nat.lt_irrefl _)
      · intro htarget
        obtain ⟨named, hnamed, hid', -⟩ := h.exists_earlier hevidence _ htarget
        refine absurd ?_ hnew
        rw [← hid, ← hid']
        exact List.mem_map_of_mem hnamed

theorem Stores.write (h : memory.Stores config claims)
    (hnew : claim.eventId ∉ claims.map MemoryEvalClaim.eventId) {targets causes : List Nat}
    (hevidence : memory.resolveEvidence claim.recordedAtMs
      ⟨claim.supersedes.toList, claim.causedBy.toList⟩ = .ok (targets, causes))
    (hid : entry.source.eventId = claim.eventId)
    (haccepted : Accepted memory primitives claim.recordedAtMs memory' entry targets causes)
    (hsequenced : memory'.Sequenced) (hconfig : memory'.config = memory.config) :
    memory'.Stores config (claims ++ [claim]) := by
  have hs := h.sequenced
  have hnodup : ((claims ++ [claim]).map MemoryEvalClaim.eventId).Nodup := by
    rw [List.map_append, List.nodup_append]
    refine ⟨h.ids, List.nodup_singleton _, fun id hmem other hother heq ↦ hnew ?_⟩
    rwa [← List.mem_singleton.mp hother, ← heq]
  have hdeclared : ∀ before other after, before ++ other :: after = claims ++ [claim] →
      ∀ target, other.supersedes = some target → ∃ earlier ∈ before,
        earlier.eventId = target ∧ earlier.recordedAtMs ≤ other.recordedAtMs := by
    intro before other after heq
    rcases List.eq_nil_or_concat after with rfl | ⟨after, last, rfl⟩
    · obtain ⟨rfl, hsame⟩ := List.append_inj' heq rfl
      obtain rfl : other = claim := List.singleton_inj.mp hsame
      exact h.exists_earlier hevidence
    · rw [List.concat_eq_append, ← List.cons_append, ← List.append_assoc] at heq
      exact h.declared before other after (List.append_inj' heq rfl).1
  constructor
  case sequenced => exact hsequenced
  case configured => exact hconfig.trans h.configured
  case ids => exact hnodup
  case entries =>
    rw [haccepted.entries hs, List.map_append, ← h.survivors claim]
    congr 1
    rw [List.map_singleton]
    congr 1
    exact Prod.ext hid haccepted.created
  case durable =>
    intro other hother
    rcases haccepted.mem_entries hs hother with hold | rfl
    · exact h.durable other (mem_survivors hold)
    · exact haccepted.retention
  case endpoints => exact haccepted.endpoints
  case declared => exact hdeclared
  case supersedes =>
    intro later hlater earlier hearlier
    exact h.supersedes_write hnew hevidence hid haccepted hlater hearlier

theorem eventId_of_authorizeMemoryWrite {event : EventEnvelope} {memoryAdmin : Bool}
    {permit : MemoryWritePermit} (h : (authorizeMemoryWrite event memoryAdmin).2 = some permit) :
    permit.eventId = event.eventId := by
  have hpermit := (Option.ite_none_right_eq_some.mp h).2
  rw [← Option.some.inj hpermit]

theorem Stores.writeClaim {format : Format} {memoryAdmin : Bool} {case : MemoryEvalCase}
    (h : memory.Stores config claims) (hnew : claim.eventId ∉ claims.map MemoryEvalClaim.eventId)
    (hwritten : writeClaim format primitives memoryAdmin case memory claim = .ok memory') :
    memory'.Stores config (claims ++ [claim]) := by
  obtain ⟨text, -, hwritten⟩ := bind_eq_ok.mp hwritten
  obtain ⟨-, hwritten⟩ := unit_bind_eq_ok.mp hwritten
  obtain ⟨permit, hpermit, hwritten⟩ := expect_bind_eq_ok.mp hwritten
  obtain ⟨stored, hanswer, hwritten⟩ := bind_eq_ok.mp hwritten
  rw [mapError_eq_ok] at hanswer
  cases hwritten
  obtain ⟨entry, targets, causes, hevidence, hid, haccepted⟩ := h.sequenced.accepted hanswer
  refine h.write hnew hevidence (hid.trans (eventId_of_authorizeMemoryWrite hpermit)) haccepted
    (h.sequenced.rememberDurableWithEvidence _ _ _ _ _) haccepted.config

theorem stores_writeCaseClaims {format : Format} {memoryAdmin : Bool} {case : MemoryEvalCase}
    (hids : (case.claims.map MemoryEvalClaim.eventId).Nodup)
    (h : writeCaseClaims format primitives memoryAdmin case = .ok memory) :
    memory.Stores case.config.apply case.claims := by
  obtain ⟨fresh, hfresh, h⟩ := bind_eq_ok.mp h
  rw [mapError_eq_ok] at hfresh
  refine foldlM_invariant (P := fun claims (memory : WorkingMemory) ↦
    memory.Stores case.config.apply claims) ?_ (stores_new hfresh) h
  intro before claim after heq earlier later hstores hclaim
  refine hstores.writeClaim (fun hold ↦ ?_) hclaim
  rw [← heq, List.map_append, List.nodup_append] at hids
  exact hids.2.2 _ hold _ List.mem_cons_self rfl

/-- What a claim is superseded by was told later. -/
theorem Stores.mem_after (h : memory.Stores config claims) {before after : List MemoryEvalClaim}
    (hsplit : before ++ claim :: after = claims) {later : MemoryEvalClaim} (hlater : later ∈ claims)
    (hsupersedes : later.supersedes = some claim.eventId) : later ∈ after := by
  obtain ⟨front, back, hfront⟩ := List.append_of_mem hlater
  obtain ⟨named, hnamed, hid, -⟩ := h.declared front later back hfront.symm _ hsupersedes
  have hclaim : claim ∈ claims := hsplit ▸ List.mem_append_right _ List.mem_cons_self
  have hnamedMem : named ∈ claims := hfront ▸ List.mem_append_left _ hnamed
  rw [List.inj_on_of_nodup_map h.ids hnamedMem hclaim hid] at hnamed
  obtain ⟨first, middle, rfl⟩ := List.append_of_mem hnamed
  rw [List.append_assoc, List.cons_append] at hfront
  have hback := after_unique h.ids.of_map hfront.symm hsplit
  rw [← hback]
  exact List.mem_append_right _ List.mem_cons_self

end Stores

end WorkingMemory

/-! ## The comparison -/

/-- The claims that the service holds. -/
def Retention.heldClaims (retention : Retention) : List String :=
  retention.sidecar.held.map fun held ↦ held.2.claimId

namespace WorkingMemory

instance (memory : WorkingMemory) (later earlier : MemoryEntry) :
    Decidable (memory.Supersedes later earlier) :=
  inferInstanceAs (Decidable (∃ link ∈ memory.links, _))

/-- The claims that are retained, shown, and not superseded by another one that is shown. -/
def currentClaims (memory : WorkingMemory) (nowMs : Nat) : List String :=
  let shown := memory.entries.filter (·.live nowMs)
  (shown.filter fun entry ↦
    !shown.any fun other ↦ other ≠ entry && memory.Supersedes other entry).map (·.source.eventId)

end WorkingMemory

/-- Both sides of the comparison are measured over the same memory. -/
def SameMemory (retention : Retention) (memory : WorkingMemory) (nowMs : Nat) : Prop :=
  ∀ id, id ∈ retention.heldClaims ↔ id ∈ memory.currentClaims nowMs

namespace MemoryEvalCase

variable (case : MemoryEvalCase)

/-- A claim of a case that is shown at the read, as far as it is not removed, and the claims
behind it. -/
structure ShownBefore (claim : MemoryEvalClaim) (after : List MemoryEvalClaim) : Prop where
  claims : ∃ before, before ++ claim :: after = case.claims
  recorded : claim.recordedAtMs ≤ case.query.nowMs
  live : unexpired case.config.apply.durableTtlMs case.query.nowMs claim = true
  unexpired : Unremoved (expires case.config.apply.durableTtlMs) after claim

/-- A case in which the runner mirrors the store.  Superseded claims take no room from a claim
that is not superseded itself, and if a claim that still has its place is superseded, then also by
a claim that was recorded by the time of the read. -/
structure Mirrored : Prop where
  room : ∀ claim after, case.ShownBefore claim after → Unremoved supersedes after claim →
    HasRoom (replaces case.config.apply.durableTtlMs) case.config.apply.maxEntries after →
      HasRoom (expires case.config.apply.durableTtlMs) case.config.apply.maxEntries after
  recorded : ∀ claim after, case.ShownBefore claim after →
    HasRoom (expires case.config.apply.durableTtlMs) case.config.apply.maxEntries after →
      (∃ later ∈ after, supersedes later claim = true) →
        ∃ later ∈ after, supersedes later claim = true ∧ later.recordedAtMs ≤ case.query.nowMs

end MemoryEvalCase

section Compare

variable {case : MemoryEvalCase} {claim : MemoryEvalClaim} {after : List MemoryEvalClaim}
  {retention : Retention} {memory : WorkingMemory} {format : Format}
  {primitives : MemoryPrimitives} {memoryAdmin : Bool}

theorem unremoved_replaces {ttlMs : Nat} : Unremoved (replaces ttlMs) after claim ↔
    Unremoved (expires ttlMs) after claim ∧ Unremoved supersedes after claim := by
  simp only [Unremoved, replaces, Bool.or_eq_false_iff]
  exact ⟨fun h ↦ ⟨fun later hlater ↦ (h later hlater).1, fun later hlater ↦ (h later hlater).2⟩,
    fun h later hlater ↦ ⟨h.1 later hlater, h.2 later hlater⟩⟩

theorem hasRoom_replaces {ttlMs bound : Nat} (h : HasRoom (expires ttlMs) bound after) :
    HasRoom (replaces ttlMs) bound after :=
  h.mono fun later earlier hexpires ↦ by rw [replaces, hexpires, Bool.true_or]

/-- The claims of a case that passes its checks have distinct ids. -/
theorem nodup_of_validateAll {fail : String → String} {claims before rest : List MemoryEvalClaim}
    (h : MemoryEvalClaim.validateAll format fail claims before rest = .ok ())
    (hbefore : (before.map MemoryEvalClaim.eventId).Nodup) :
    ((before ++ rest).map MemoryEvalClaim.eventId).Nodup := by
  induction rest generalizing before with
  | nil => rwa [List.append_nil]
  | cons claim rest ih =>
    obtain ⟨hclaim, h⟩ := unit_bind_eq_ok.mp h
    obtain ⟨hid, -⟩ := unit_bind_eq_ok.mp hclaim
    rw [ensure_eq_ok, Bool.not_eq_true', Bool.or_eq_false_iff] at hid
    rw [List.append_cons]
    apply ih h
    rw [List.map_append, List.nodup_append]
    refine ⟨hbefore, List.nodup_singleton _, fun id hold other hother heq ↦ ?_⟩
    obtain ⟨earlier, hearlier, rfl⟩ := List.mem_map.mp hold
    rw [List.map_singleton, List.mem_singleton] at hother
    have hdeclared := List.any_eq_false.mp hid.2 earlier hearlier
    rw [decide_eq_true_eq] at hdeclared
    exact hdeclared (heq.trans hother)

theorem nodup_of_validate {fixture : MemoryEvalFixture} (h : fixture.validate format = .ok ())
    (hcase : case ∈ fixture.cases) : (case.claims.map MemoryEvalClaim.eventId).Nodup := by
  have hcases : ∀ before rest, MemoryEvalFixture.validateCases format before rest = .ok () →
      ∀ case ∈ rest, ∃ before, case.validate format before = .ok () := by
    intro before rest
    induction rest generalizing before with
    | nil => exact fun _ case hcase ↦ absurd hcase List.not_mem_nil
    | cons first rest ih =>
      intro h case hcase
      obtain ⟨hfirst, h⟩ := unit_bind_eq_ok.mp h
      rcases List.mem_cons.mp hcase with rfl | hlater
      · exact ⟨before, hfirst⟩
      · exact ih _ h case hlater
  obtain ⟨-, h⟩ := unit_bind_eq_ok.mp h
  obtain ⟨-, h⟩ := unit_bind_eq_ok.mp h
  obtain ⟨before, h⟩ := hcases _ _ h case hcase
  obtain ⟨-, h⟩ := unit_bind_eq_ok.mp h
  obtain ⟨-, h⟩ := unit_bind_eq_ok.mp h
  obtain ⟨-, h⟩ := unit_bind_eq_ok.mp h
  obtain ⟨hclaims, -⟩ := unit_bind_eq_ok.mp h
  exact nodup_of_validateAll hclaims List.nodup_nil

/-- What the service holds, in terms of the claims. -/
theorem mem_heldClaims (hids : (case.claims.map MemoryEvalClaim.eventId).Nodup)
    (hothers : ∀ claim ∈ case.claims, claim.supersedes ≠ some claim.eventId)
    (h : mirrorCase format primitives memoryAdmin case = .ok retention) (id : String) :
    id ∈ retention.heldClaims ↔ ∃ claim after, claim.eventId = id ∧ case.ShownBefore claim after ∧
      Unremoved supersedes after claim ∧
        HasRoom (replaces case.config.apply.durableTtlMs) case.config.apply.maxEntries after := by
  have htracks := Retention.tracks_mirrorCase hids hothers h
  have hheld : retention.heldClaims = retention.handles.map Prod.fst := by
    rw [← htracks.held, List.map_map]
    rfl
  rw [hheld, htracks.handles, List.mem_map]
  constructor
  · rintro ⟨claim, hclaim, rfl⟩
    obtain ⟨hclaim, hrecorded⟩ := List.mem_filter.mp hclaim
    obtain ⟨hclaim, hlive⟩ := List.mem_filter.mp hclaim
    obtain ⟨before, after, hsplit⟩ := List.append_of_mem ((retained_sublist _).subset hclaim)
    have hnodup : (before ++ claim :: after).Nodup := hsplit ▸ hids.of_map
    rw [hsplit, mem_retained hnodup, unremoved_replaces] at hclaim
    exact ⟨claim, after, rfl, ⟨⟨before, hsplit.symm⟩, of_decide_eq_true hrecorded, hlive,
      hclaim.1.1⟩, hclaim.1.2, hclaim.2⟩
  · rintro ⟨claim, after, rfl, ⟨⟨before, hsplit⟩, hrecorded, hlive, hunexpired⟩, hunsuperseded, hroom⟩
    have hnodup : (before ++ claim :: after).Nodup := hsplit ▸ hids.of_map
    refine ⟨claim, List.mem_filter.mpr ⟨List.mem_filter.mpr ⟨?_, hlive⟩,
      decide_eq_true hrecorded⟩, rfl⟩
    rw [← hsplit, mem_retained hnodup, unremoved_replaces]
    exact ⟨⟨hunexpired, hunsuperseded⟩, hroom⟩

/-- A successor that was recorded no earlier keeps its place as long as what it supersedes. -/
theorem mem_retained_of_later (hstores : memory.Stores case.config.apply case.claims)
    (hshown : case.ShownBefore claim after)
    (hroom : HasRoom (expires case.config.apply.durableTtlMs) case.config.apply.maxEntries after)
    {later : MemoryEvalClaim} (hlater : later ∈ after)
    (hsupersedes : supersedes later claim = true) :
    later ∈ retained (expires case.config.apply.durableTtlMs) case.config.apply.maxEntries
        case.claims ∧
      unexpired case.config.apply.durableTtlMs case.query.nowMs later = true := by
  obtain ⟨⟨before, hsplit⟩, -, hlive, hunexpired⟩ := hshown
  obtain ⟨middle, back, rfl⟩ := List.append_of_mem hlater
  have hassoc : (before ++ claim :: middle) ++ later :: back = case.claims := by
    rw [← hsplit, List.append_assoc, List.cons_append]
  have hclaim : claim ∈ case.claims := hsplit ▸ List.mem_append_right _ List.mem_cons_self
  have hrecorded : claim.recordedAtMs ≤ later.recordedAtMs := by
    obtain ⟨named, hnamed, hid, hle⟩ :=
      hstores.declared _ later back hassoc _ (of_decide_eq_true hsupersedes)
    have hmem : named ∈ case.claims := hassoc ▸ List.mem_append_left _ hnamed
    rwa [← List.inj_on_of_nodup_map hstores.ids hmem hclaim hid]
  have hlonger (nowMs : Nat) (h : unexpired case.config.apply.durableTtlMs nowMs claim = true) :
      unexpired case.config.apply.durableTtlMs nowMs later = true :=
    decide_eq_true ((of_decide_eq_true h).trans_le (satAdd_mono hrecorded le_rfl))
  have hnodup : ((before ++ claim :: middle) ++ later :: back).Nodup :=
    hassoc ▸ hstores.ids.of_map
  refine ⟨?_, hlonger _ hlive⟩
  rw [← hassoc, mem_retained hnodup]
  constructor
  · intro last hlast
    have hstays := hunexpired last (List.mem_append_right _ (List.mem_cons_of_mem _ hlast))
    rw [expires, Bool.not_eq_false'] at hstays ⊢
    exact hlonger _ hstays
  · rw [List.append_cons] at hroom
    exact hroom.of_append

/-- What the store shows as current, in terms of the claims. -/
theorem mem_currentClaims (hstores : memory.Stores case.config.apply case.claims) (id : String) :
    id ∈ memory.currentClaims case.query.nowMs ↔ ∃ claim after, claim.eventId = id ∧
      case.ShownBefore claim after ∧
        HasRoom (expires case.config.apply.durableTtlMs) case.config.apply.maxEntries after ∧
          ∀ later ∈ after, supersedes later claim = true → case.query.nowMs < later.recordedAtMs := by
  have hlive {entry : MemoryEntry} (hentry : entry ∈ memory.entries) :
      entry ∈ memory.entries.filter (·.live case.query.nowMs) ↔
        case.query.nowMs < satAdd entry.createdAtMs case.config.apply.durableTtlMs ∧
          entry.createdAtMs ≤ case.query.nowMs := by
    rw [List.mem_filter, ← hstores.expiry hentry, MemoryEntry.live, Bool.and_eq_true,
      decide_eq_true_eq, decide_eq_true_eq, and_iff_right hentry]
  have hshown {entry : MemoryEntry} (hentry : entry ∈ memory.entries) {claim : MemoryEvalClaim}
      (hcreated : entry.createdAtMs = claim.recordedAtMs) :
      entry ∈ memory.entries.filter (·.live case.query.nowMs) ↔
        unexpired case.config.apply.durableTtlMs case.query.nowMs claim = true ∧
          claim.recordedAtMs ≤ case.query.nowMs := by
    rw [hlive hentry, hcreated, unexpired, decide_eq_true_eq]
  rw [WorkingMemory.currentClaims, List.mem_map]
  constructor
  · rintro ⟨entry, hentry, rfl⟩
    obtain ⟨hentry, hcurrent⟩ := List.mem_filter.mp hentry
    have hmem := List.mem_of_mem_filter hentry
    rw [Bool.not_eq_true', List.any_eq_false] at hcurrent
    obtain ⟨claim, hclaim, hid, hcreated⟩ := hstores.claim_of_mem hmem
    obtain ⟨hunexpired, hrecorded⟩ := (hshown hmem hcreated.symm).mp hentry
    obtain ⟨before, after, hsplit⟩ := List.append_of_mem ((retained_sublist _).subset hclaim)
    have hnodup : (before ++ claim :: after).Nodup := hsplit ▸ hstores.ids.of_map
    have hplace := hclaim
    rw [hsplit, mem_retained hnodup] at hplace
    have hbefore : case.ShownBefore claim after :=
      ⟨⟨before, hsplit.symm⟩, hrecorded, hunexpired, hplace.1⟩
    refine ⟨claim, after, hid, hbefore, hplace.2, fun later hlater hsupersedes ↦ ?_⟩
    by_contra hby
    obtain ⟨hretained, hlaterLive⟩ :=
      mem_retained_of_later hstores hbefore hplace.2 hlater hsupersedes
    obtain ⟨other, hother, hotherId, hotherCreated⟩ := hstores.entry_of_mem hretained
    have hotherShown := (hshown hother hotherCreated).mpr ⟨hlaterLive, Nat.le_of_not_lt hby⟩
    have hlaterMem : later ∈ case.claims :=
      hsplit ▸ List.mem_append_right _ (List.mem_cons_of_mem _ hlater)
    have hlinked : memory.Supersedes other entry := by
      rw [hstores.supersedes other hother entry hmem, ← hid]
      exact ⟨later, hlaterMem, hotherId.symm, of_decide_eq_true hsupersedes⟩
    have hne : other ≠ entry := by
      rintro rfl
      have hsame := List.inj_on_of_nodup_map hstores.ids hlaterMem
        ((retained_sublist _).subset hclaim) (hotherId.symm.trans hid.symm)
      rw [hsame] at hlater
      exact (List.nodup_cons.mp (List.nodup_append.mp hnodup).2.1).1 hlater
    exact hcurrent other hotherShown (by simp [hne, hlinked])
  · rintro ⟨claim, after, rfl, hbefore, hroom, hnone⟩
    obtain ⟨⟨before, hsplit⟩, hrecorded, hunexpired, hunremoved⟩ := hbefore
    have hnodup : (before ++ claim :: after).Nodup := hsplit ▸ hstores.ids.of_map
    have hretained : claim ∈ retained (expires case.config.apply.durableTtlMs)
        case.config.apply.maxEntries case.claims := by
      rw [← hsplit, mem_retained hnodup]
      exact ⟨hunremoved, hroom⟩
    obtain ⟨entry, hentry, hid, hcreated⟩ := hstores.entry_of_mem hretained
    refine ⟨entry, List.mem_filter.mpr ⟨(hshown hentry hcreated).mpr ⟨hunexpired, hrecorded⟩, ?_⟩,
      hid⟩
    rw [Bool.not_eq_true', List.any_eq_false]
    intro other hother hsuperseding
    rw [Bool.and_eq_true, decide_eq_true_eq, decide_eq_true_eq] at hsuperseding
    have hotherMem := List.mem_of_mem_filter hother
    obtain ⟨later, hlater, hlaterId, hdeclares⟩ :=
      (hstores.supersedes other hotherMem entry hentry).mp hsuperseding.2
    rw [hid] at hdeclares
    obtain ⟨stored, hstored, hstoredId, hstoredCreated⟩ := hstores.claim_of_mem hotherMem
    have hsame := List.inj_on_of_nodup_map hstores.ids ((retained_sublist _).subset hstored) hlater
      (hstoredId.trans hlaterId.symm)
    rw [hsame] at hstoredCreated
    have hby := ((hshown hotherMem hstoredCreated.symm).mp hother).2
    have hafter := hstores.mem_after hsplit hlater hdeclares
    exact absurd (hnone later hafter (decide_eq_true hdeclares)) (Nat.not_lt_of_le hby)

/-- **The mirror of the store.**  Of a case that passes the checks of its fixture, and whose
claims both sides take, the service holds what the store shows as current, exactly when
superseded claims take no room from others, and when a claim that is superseded has a successor
that was recorded by the time of the read. -/
theorem sameMemory_iff {fixture : MemoryEvalFixture} (hfixture : fixture.validate format = .ok ())
    (hcase : case ∈ fixture.cases)
    (hstore : writeCaseClaims format primitives memoryAdmin case = .ok memory)
    (hsidecar : mirrorCase format primitives memoryAdmin case = .ok retention) :
    SameMemory retention memory case.query.nowMs ↔ case.Mirrored := by
  have hids := nodup_of_validate hfixture hcase
  have hstores := WorkingMemory.stores_writeCaseClaims hids hstore
  have hothers : ∀ claim ∈ case.claims, claim.supersedes ≠ some claim.eventId := by
    intro claim hclaim hself
    obtain ⟨before, after, hsplit⟩ := List.append_of_mem hclaim
    have hafter := hstores.mem_after hsplit.symm hclaim hself
    have hnodup : (before ++ claim :: after).Nodup := hsplit ▸ hids.of_map
    exact (List.nodup_cons.mp (List.nodup_append.mp hnodup).2.1).1 hafter
  have hheld := mem_heldClaims hids hothers hsidecar
  have hcurrent := mem_currentClaims hstores
  constructor
  · intro hsame
    -- a claim stands for itself on both sides
    have hagree {claim : MemoryEvalClaim} {after : List MemoryEvalClaim}
        (hshown : case.ShownBefore claim after) :
        Unremoved supersedes after claim ∧ HasRoom (replaces case.config.apply.durableTtlMs)
            case.config.apply.maxEntries after ↔
          HasRoom (expires case.config.apply.durableTtlMs) case.config.apply.maxEntries after ∧
            ∀ later ∈ after, supersedes later claim = true →
              case.query.nowMs < later.recordedAtMs := by
      have hunique {other : MemoryEvalClaim} {behind : List MemoryEvalClaim}
          (hother : case.ShownBefore other behind) (hid : other.eventId = claim.eventId) :
          other = claim ∧ behind = after := by
        obtain ⟨before, hsplit⟩ := hshown.claims
        obtain ⟨front, hfront⟩ := hother.claims
        have hmem : claim ∈ case.claims := hsplit ▸ List.mem_append_right _ List.mem_cons_self
        have hotherMem : other ∈ case.claims :=
          hfront ▸ List.mem_append_right _ List.mem_cons_self
        obtain rfl := List.inj_on_of_nodup_map hids hotherMem hmem hid
        exact ⟨rfl, after_unique hids.of_map hfront hsplit⟩
      have hiff := hsame claim.eventId
      rw [hheld, hcurrent] at hiff
      constructor
      · rintro ⟨hunsuperseded, hroom⟩
        obtain ⟨other, behind, hid, hother, hplace, hnone⟩ :=
          hiff.mp ⟨claim, after, rfl, hshown, hunsuperseded, hroom⟩
        obtain ⟨rfl, rfl⟩ := hunique hother hid
        exact ⟨hplace, hnone⟩
      · rintro ⟨hroom, hnone⟩
        obtain ⟨other, behind, hid, hother, hunsuperseded, hplace⟩ :=
          hiff.mpr ⟨claim, after, rfl, hshown, hroom, hnone⟩
        obtain ⟨rfl, rfl⟩ := hunique hother hid
        exact ⟨hunsuperseded, hplace⟩
    constructor
    · exact fun claim after hshown hunsuperseded hroom ↦
        ((hagree hshown).mp ⟨hunsuperseded, hroom⟩).1
    · rintro claim after hshown hroom ⟨later, hlater, hsupersedes⟩
      by_contra hnone
      have hunsuperseded := ((hagree hshown).mpr ⟨hroom, fun other hother hdeclares ↦
        Nat.lt_of_not_le fun hby ↦ hnone ⟨other, hother, hdeclares, hby⟩⟩).1 later hlater
      rw [hsupersedes] at hunsuperseded
      cases hunsuperseded
  · intro hmirrored id
    rw [hheld, hcurrent]
    constructor
    · rintro ⟨claim, after, hid, hshown, hunsuperseded, hroom⟩
      refine ⟨claim, after, hid, hshown, hmirrored.room claim after hshown hunsuperseded hroom,
        fun later hlater hsupersedes ↦ ?_⟩
      rw [hunsuperseded later hlater] at hsupersedes
      cases hsupersedes
    · rintro ⟨claim, after, hid, hshown, hroom, hnone⟩
      refine ⟨claim, after, hid, hshown, fun later hlater ↦ ?_, hasRoom_replaces hroom⟩
      by_contra hsupersedes
      rw [Bool.not_eq_false] at hsupersedes
      obtain ⟨other, hother, hdeclares, hby⟩ :=
        hmirrored.recorded claim after hshown hroom ⟨later, hlater, hsupersedes⟩
      exact Nat.not_lt_of_le hby (hnone other hother hdeclares)

end Compare

/-- Four claims for a store of three, of which the third supersedes the second. -/
def crowdedCase : MemoryEvalCase :=
  let claim (eventId : String) (recordedAtMs : Nat) (supersedes : Option String) :
      MemoryEvalClaim :=
    { eventId, actor := none, text := eventId, textBytes := none, topic := none, recordedAtMs,
      eventAtMs := none, supersedes, causedBy := none }
  { id := "crowded"
    config := ⟨some 3, none, none, none, none⟩
    claims := [claim "a" 1 none, claim "b" 2 none, claim "c" 3 (some "b"), claim "d" 4 none]
    query := ⟨none, none, 10, 0⟩
    mustDeliver := []
    mustNotDeliver := []
    stale := []
    expectedTemporalErrors := 0
    expectedDeliveryOrder := []
    expectedRetainedCausalSpans := none }

def plainFormat : Format := ⟨id, fun _ ↦ "", fun _ ↦ ""⟩

theorem exists_eq_ok {ε α β : Type} {result : Except ε α} {f : α → β} {b : β}
    (h : result.toOption.map f = some b) : ∃ a, result = .ok a ∧ f a = b := by
  cases result with
  | error error => cases h
  | ok a => exact ⟨a, rfl, Option.some.inj h⟩

theorem sameMemory_iff_crowdedCase : ∃ memory retention,
    writeCaseClaims plainFormat .ascii true crowdedCase = .ok memory ∧
      mirrorCase plainFormat .ascii true crowdedCase = .ok retention ∧
        (SameMemory retention memory 10 ↔ crowdedCase.Mirrored) := by
  have hwritten : (writeCaseClaims plainFormat .ascii true crowdedCase).toOption.map
      (fun memory ↦ memory.entries.length) = some 3 := by decide +kernel
  have hmirrored : (mirrorCase plainFormat .ascii true crowdedCase).toOption.map
      (fun retention ↦ retention.handles.length) = some 3 := by decide +kernel
  obtain ⟨memory, hmemory, -⟩ := exists_eq_ok hwritten
  obtain ⟨retention, hretention, -⟩ := exists_eq_ok hmirrored
  have hfixture : MemoryEvalFixture.validate plainFormat
      ⟨memoryEvalFixtureSchemaVersion, [crowdedCase]⟩ = .ok () := by decide +kernel
  exact ⟨memory, retention, hmemory, hretention,
    sameMemory_iff hfixture (List.mem_singleton_self _) hmemory hretention⟩

/-- The superseded claim takes the room of the first one in the store, and none in the service. -/
theorem crowdedCase_not_sameMemory : ∃ fixture case memory retention,
    MemoryEvalFixture.validate plainFormat fixture = .ok () ∧ case ∈ fixture.cases ∧
      writeCaseClaims plainFormat .ascii true case = .ok memory ∧
        mirrorCase plainFormat .ascii true case = .ok retention ∧
          ¬ SameMemory retention memory case.query.nowMs := by
  have hwritten : (writeCaseClaims plainFormat .ascii true crowdedCase).toOption.map
      (fun memory ↦ memory.currentClaims 10) = some ["c", "d"] := by decide +kernel
  have hmirrored : (mirrorCase plainFormat .ascii true crowdedCase).toOption.map
      Retention.heldClaims = some ["a", "c", "d"] := by decide +kernel
  obtain ⟨memory, hmemory, hcurrent⟩ := exists_eq_ok hwritten
  obtain ⟨retention, hretention, hheld⟩ := exists_eq_ok hmirrored
  refine ⟨⟨memoryEvalFixtureSchemaVersion, [crowdedCase]⟩, crowdedCase, memory, retention,
    by decide +kernel, List.mem_singleton_self _, hmemory, hretention, fun hsame ↦ ?_⟩
  have hfirst := (hsame "a").mp (by
    rw [hheld]
    exact List.mem_cons_self)
  change "a" ∈ memory.currentClaims 10 at hfirst
  rw [hcurrent] at hfirst
  exact absurd hfirst (by decide)

end Aivtuber
