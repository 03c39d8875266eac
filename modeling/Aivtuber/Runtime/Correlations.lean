import Aivtuber.Base.LastWrite
import Aivtuber.Base.Newest
import Aivtuber.Runtime.ContentRate

/-!
# Recent correlations

The registry of correlations in `crates/runtime/src/lib.rs` keeps the distinct correlations that
were admitted last, each with the last event that was admitted for it.  The list that keeps their
order and the map that keeps the events agree on what is remembered (`Registers`).
-/

open Std (ExtTreeMap)

namespace Aivtuber

/-- A correlation of the registry, as the support bundle shows it. -/
structure CorrelationEntry where
  correlationId : String
  eventId : String
  sequence : Nat
deriving DecidableEq, Repr

def CorrelationRef.entry (ref : CorrelationRef) (correlationId : String) : CorrelationEntry where
  correlationId := correlationId
  eventId := ref.eventId
  sequence := ref.sequence

/-- What the registry keeps of an event. -/
def EventEnvelope.correlationRef (event : EventEnvelope) : CorrelationRef where
  eventId := event.eventId
  sequence := event.sequence

/-- The last of the events for a correlation. -/
def lastCorrelation (events : List EventEnvelope) (correlationId : String) :
    Option CorrelationRef :=
  (events.lastWith (·.correlationId) correlationId).map (·.correlationRef)

section Drop

variable {correlations : ExtTreeMap String CorrelationRef} {order : List String}

theorem size_eq_length (hnodup : order.Nodup) (hkeys : ∀ id, id ∈ correlations ↔ id ∈ order) :
    correlations.size = order.length := by
  have hperm : correlations.keys.Perm order :=
    (List.perm_ext_iff_of_nodup ExtTreeMap.nodup_keys hnodup).mpr fun id ↦
      ExtTreeMap.mem_keys.trans (hkeys id)
  rw [← ExtTreeMap.length_keys, hperm.length_eq]

/-- The correlations that stay are the newest ones, and nothing about them changes. -/
theorem dropCorrelations_eq (hnodup : order.Nodup)
    (hkeys : ∀ id, id ∈ correlations ↔ id ∈ order) :
    (dropCorrelations correlations order).2 = order.rtake maxCorrelationRefs ∧
      ∀ id, (dropCorrelations correlations order).1[id]? =
        if id ∈ order.rtake maxCorrelationRefs then correlations[id]? else none := by
  have hsize := size_eq_length hnodup hkeys
  induction order generalizing correlations with
  | nil =>
    refine ⟨rfl, fun id ↦ ?_⟩
    rw [List.rtake_nil, if_neg List.not_mem_nil]
    exact ExtTreeMap.getElem?_eq_none fun hid ↦ List.not_mem_nil ((hkeys id).mp hid)
  | cons oldest order ih =>
    obtain ⟨hnew, hnodup⟩ := List.nodup_cons.mp hnodup
    rw [dropCorrelations, hsize]
    split
    case isTrue hover =>
      have hkeys' : ∀ id, id ∈ correlations.erase oldest ↔ id ∈ order := by
        intro id
        rw [ExtTreeMap.mem_erase, hkeys, List.mem_cons, Ne, Std.LawfulEqCmp.compare_eq_iff_eq]
        constructor
        · rintro ⟨hne, rfl | hid⟩
          · exact absurd rfl hne
          · exact hid
        · rintro hid
          exact ⟨fun heq ↦ hnew (heq ▸ hid), .inr hid⟩
      have hrest : ([oldest] ++ order).rtake maxCorrelationRefs =
          order.rtake maxCorrelationRefs := List.rtake_append_of_le (Nat.le_of_lt_succ hover)
      rw [List.singleton_append] at hrest
      obtain ⟨horder, hlookup⟩ := ih hnodup hkeys' (size_eq_length hnodup hkeys')
      rw [hrest]
      refine ⟨horder, fun id ↦ ?_⟩
      rw [hlookup]
      split
      case isTrue hid =>
        rw [ExtTreeMap.getElem?_erase, if_neg]
        rw [Std.LawfulEqCmp.compare_eq_iff_eq]
        rintro rfl
        exact hnew ((List.rtake_sublist _ _).subset hid)
      case isFalse hid => rfl
    case isFalse hfits =>
      rw [List.rtake_of_length_le (Nat.le_of_not_lt hfits)]
      refine ⟨rfl, fun id ↦ ?_⟩
      split
      case isTrue hid => rfl
      case isFalse hid => exact ExtTreeMap.getElem?_eq_none (mt (hkeys id).mp hid)

end Drop

namespace SecurityBoundary

/-- The recent correlations, the newest first. -/
def recentCorrelations (boundary : SecurityBoundary) (limit : Nat) : List CorrelationEntry :=
  (boundary.correlationOrder.reverse.take limit).filterMap fun id ↦
    boundary.correlations[id]?.map fun ref ↦ ref.entry id

variable {boundary : SecurityBoundary} {events : List EventEnvelope}

/-- The registry after some events: the newest of their distinct correlations, each with the last
event for it. -/
structure Registers (boundary : SecurityBoundary) (events : List EventEnvelope) : Prop where
  order : boundary.correlationOrder = (events.map (·.correlationId)).dedup.rtake maxCorrelationRefs
  lookup : ∀ id, boundary.correlations[id]? =
    if id ∈ boundary.correlationOrder then lastCorrelation events id else none

theorem Registers.nodup (h : boundary.Registers events) : boundary.correlationOrder.Nodup := by
  rw [h.order]
  exact (List.nodup_dedup _).sublist (List.rtake_sublist _ _)

theorem Registers.lastCorrelation_isSome (h : boundary.Registers events) {id : String}
    (hid : id ∈ boundary.correlationOrder) : (lastCorrelation events id).isSome := by
  rw [h.order] at hid
  obtain ⟨event, hevent, rfl⟩ :=
    List.mem_map.mp (List.mem_dedup.mp ((List.rtake_sublist _ _).subset hid))
  rw [lastCorrelation, Option.isSome_map, Option.isSome_iff_ne_none, Ne, List.lastWith_eq_none]
  exact fun hnone ↦ hnone event hevent rfl

theorem Registers.mem_iff (h : boundary.Registers events) (id : String) :
    id ∈ boundary.correlations ↔ id ∈ boundary.correlationOrder := by
  rw [← ExtTreeMap.isSome_getElem?_iff_mem, h.lookup]
  split
  case isTrue hid => exact iff_of_true (h.lastCorrelation_isSome hid) hid
  case isFalse hid => exact iff_of_false (by simp) hid

/-- The order before a correlation is put at its end, whether or not it was known. -/
theorem Registers.order_without (h : boundary.Registers events) (id : String) :
    (if id ∈ boundary.correlations then boundary.correlationOrder.filter (· ≠ id)
      else boundary.correlationOrder) = boundary.correlationOrder.filter (· ≠ id) := by
  split
  case isTrue => rfl
  case isFalse hnew =>
    rw [h.mem_iff] at hnew
    refine (List.filter_eq_self.mpr fun other hother ↦ ?_).symm
    exact decide_eq_true fun heq ↦ hnew (heq ▸ hother)

theorem Registers.nodup_moved (h : boundary.Registers events) (id : String) :
    (boundary.correlationOrder.filter (· ≠ id) ++ [id]).Nodup := by
  refine List.nodup_append.mpr ⟨h.nodup.filter _, List.nodup_singleton _, ?_⟩
  rintro other hother _ hid rfl
  rw [List.mem_singleton.mp hid] at hother
  simp at hother

theorem Registers.mem_insert_iff (h : boundary.Registers events) (id other : String)
    (ref : CorrelationRef) : other ∈ boundary.correlations.insert id ref ↔
      other ∈ boundary.correlationOrder.filter (· ≠ id) ++ [id] := by
  rw [ExtTreeMap.mem_insert, h.mem_iff, Std.LawfulEqCmp.compare_eq_iff_eq, List.mem_append,
    List.mem_filter, List.mem_singleton, decide_eq_true_eq]
  constructor
  · rintro (rfl | hother)
    · exact .inr rfl
    · by_cases heq : other = id
      · exact .inr heq
      · exact .inl ⟨hother, heq⟩
  · rintro (⟨hother, -⟩ | rfl)
    · exact .inr hother
    · exact .inl rfl

/-- One more event keeps the registry. -/
theorem Registers.recordCorrelation (h : boundary.Registers events) (event : EventEnvelope) :
    (boundary.recordCorrelation event).Registers (events ++ [event]) := by
  have horder := h.order_without event.correlationId
  have hkeys := fun id ↦ h.mem_insert_iff event.correlationId id event.correlationRef
  obtain ⟨hdropped, hlookup⟩ := dropCorrelations_eq (h.nodup_moved event.correlationId) hkeys
  have hnewest : ((boundary.correlationOrder.filter (· ≠ event.correlationId) ++
      [event.correlationId]).rtake maxCorrelationRefs) =
        ((events ++ [event]).map (·.correlationId)).dedup.rtake maxCorrelationRefs := by
    rw [h.order, List.rtake_filter_concat (List.nodup_dedup _), ← List.dedup_concat,
      List.map_append]
    rfl
  have hpost : (boundary.recordCorrelation event).correlationOrder =
      ((events ++ [event]).map (·.correlationId)).dedup.rtake maxCorrelationRefs := by
    rw [SecurityBoundary.recordCorrelation]
    dsimp only
    rw [horder]
    exact hdropped.trans hnewest
  refine ⟨hpost, fun id ↦ ?_⟩
  rw [hpost, ← hnewest, SecurityBoundary.recordCorrelation]
  dsimp only
  rw [horder]
  refine (hlookup id).trans ?_
  split
  case isFalse => rfl
  case isTrue hid =>
    have hmem := (hkeys id).mpr ((List.rtake_sublist _ _).subset hid)
    rw [ExtTreeMap.getElem?_insert, lastCorrelation, List.lastWith_concat]
    by_cases heq : event.correlationId = id
    · rw [if_pos heq, if_pos (Std.LawfulEqCmp.compare_eq_iff_eq.mpr heq)]
      rfl
    · rw [if_neg heq, if_neg (mt Std.LawfulEqCmp.compare_eq_iff_eq.mp heq), h.lookup, if_pos]
      · rfl
      · rw [ExtTreeMap.mem_insert, Std.LawfulEqCmp.compare_eq_iff_eq, h.mem_iff] at hmem
        exact hmem.resolve_left heq

/-- **The registry of a run** holds the newest distinct correlations. -/
theorem registers_run (hnew : boundary.correlations = ∅ ∧ boundary.correlationOrder = [])
    (events : List EventEnvelope) :
    (events.foldl SecurityBoundary.recordCorrelation boundary).Registers events := by
  induction events using List.reverseRecOn with
  | nil =>
    refine ⟨hnew.2, fun id ↦ ?_⟩
    rw [List.foldl_nil, hnew.1, hnew.2, if_neg List.not_mem_nil]
    exact ExtTreeMap.getElem?_empty
  | append_singleton events event ih =>
    rw [List.foldl_append]
    exact ih.recordCorrelation event

/-! ## What the registry shows -/

/-- What the registry remembers of some events. -/
structure RemembersNewest (boundary : SecurityBoundary) (events : List EventEnvelope) : Prop where
  nodup : boundary.correlationOrder.Nodup
  keys : ∀ id, id ∈ boundary.correlationOrder ↔ id ∈ boundary.correlations
  bound : boundary.correlationOrder.length ≤ maxCorrelationRefs
  /-- The distinct correlations from the newest on, each with the last event for it. -/
  recent : ∀ limit, boundary.recentCorrelations limit =
    ((events.map (·.correlationId)).dedup.reverse.take (min limit maxCorrelationRefs)).filterMap
      fun id ↦ (lastCorrelation events id).map fun ref ↦ ref.entry id
  /-- What is forgotten has enough other correlations after it. -/
  forgotten : ∀ before event after, events = before ++ event :: after →
    event.correlationId ∉ boundary.correlations →
      maxCorrelationRefs ≤
        ((after.map (·.correlationId)).toFinset.erase event.correlationId).card

theorem Registers.recent (h : boundary.Registers events) (limit : Nat) :
    boundary.recentCorrelations limit =
      ((events.map (·.correlationId)).dedup.reverse.take (min limit maxCorrelationRefs)).filterMap
        fun id ↦ (lastCorrelation events id).map fun ref ↦ ref.entry id := by
  have hnewest : boundary.correlationOrder.reverse.take limit =
      (events.map (·.correlationId)).dedup.reverse.take (min limit maxCorrelationRefs) := by
    rw [h.order, List.rtake_eq_reverse_take_reverse, List.reverse_reverse, List.take_take]
  rw [recentCorrelations, ← hnewest]
  apply List.filterMap_congr
  intro id hid
  rw [h.lookup, if_pos (List.mem_reverse.mp (List.mem_of_mem_take hid))]

theorem Registers.forgotten (h : boundary.Registers events) {before after : List EventEnvelope}
    {event : EventEnvelope} (hsplit : events = before ++ event :: after)
    (hgone : event.correlationId ∉ boundary.correlations) :
    maxCorrelationRefs ≤
      ((after.map (·.correlationId)).toFinset.erase event.correlationId).card := by
  rw [h.mem_iff, h.order, hsplit, List.map_append, List.map_cons] at hgone
  exact List.le_card_of_notMem_rtake hgone

theorem new_registry {config : SecurityRuntimeConfig} {schedulerConfig : SchedulerConfig}
    {redactor : SecretRedactor} (hnew : new config schedulerConfig redactor = .ok boundary) :
    boundary.correlations = ∅ ∧ boundary.correlationOrder = [] := by
  rw [new] at hnew
  split at hnew
  case h_1 => cases hnew
  case h_2 hvalid =>
    cases hnew
    exact ⟨rfl, rfl⟩

/-- **Recent correlations.**  After every sequence of admitted events, the order and the map of the
registry agree, they keep the newest distinct correlations, and only a correlation with enough
others after it is forgotten. -/
theorem remembersNewest {config : SecurityRuntimeConfig} {schedulerConfig : SchedulerConfig}
    {redactor : SecretRedactor} (hnew : new config schedulerConfig redactor = .ok boundary)
    (events : List EventEnvelope) :
    (events.foldl SecurityBoundary.recordCorrelation boundary).RemembersNewest events := by
  have hregisters := registers_run (new_registry hnew) events
  constructor
  case nodup => exact hregisters.nodup
  case keys => exact fun id ↦ (hregisters.mem_iff id).symm
  case bound =>
    rw [hregisters.order]
    exact List.length_rtake_le _ _
  case recent => exact hregisters.recent
  case forgotten => exact fun before event after ↦ hregisters.forgotten

/-- A viewer writes twice. -/
theorem viewer_remembersNewest :
    ([chatMessage "viewer", chatMessage "viewer"].foldl SecurityBoundary.recordCorrelation
      slowBoundary).RemembersNewest [chatMessage "viewer", chatMessage "viewer"] :=
  remembersNewest (new_eq slowConfig_valid) _

end SecurityBoundary

end Aivtuber
