import Aivtuber.Adaptation.Promotion
import Aivtuber.AssetStore.Eviction

/-!
# Books of the adaptation engine

The feedback on assets and the recent groups each have a map of touches beside them, on one clock.
Every operation keeps the four maps together (`Booked`), so that no lookup finds an entry missing.
What an operation forgets makes room at a bound and was touched longest ago, or is a group that the
loss of an asset left empty (`Departures`).
-/

open Saturating
open Std (ExtTreeMap)
open Recency Touches

namespace Aivtuber

/-! ## The least touch -/

theorem isLeast_of_leastTouched {touches : ExtTreeMap String Nat} {victim : String}
    (h : leastTouched touches = some victim) : IsLeast touches victim := by
  rw [leastTouched, List.head?_eq_some_iff] at h
  obtain ⟨rest, hsorted⟩ := h
  exact AssetStore.isLeast_of_sortByRank hsorted

theorem exists_leastTouched {touches : ExtTreeMap String Nat} (h : touches.size ≠ 0) :
    ∃ victim, leastTouched touches = some victim := by
  have hlength := (AssetStore.perm_sortByRank (fun id ↦ (touches[id]?).getD 0)
    touches.keys).length_eq
  rw [ExtTreeMap.length_keys] at hlength
  rw [leastTouched]
  cases hsorted : AssetStore.sortByRank (fun id ↦ (touches[id]?).getD 0) touches.keys with
  | nil =>
    rw [hsorted] at hlength
    exact absurd hlength.symm h
  | cons victim rest => exact ⟨victim, rfl⟩

/-- What is touched on the clock of the engine. -/
inductive Touch where
  | asset (id : String)
  | group (name : String)
deriving DecidableEq

theorem Touch.asset_injective : Touch.asset.Injective := fun _ _ h ↦ Touch.asset.inj h
theorem Touch.group_injective : Touch.group.Injective := fun _ _ h ↦ Touch.group.inj h

namespace AdaptationEngine

variable {engine next : AdaptationEngine} {uses : List Touch} {id group : String}
  {recent : List String}

/-- The maps of the engine after some touches, the last one first. -/
structure Booked (engine : AdaptationEngine) (uses : List Touch) : Prop where
  feedbackKeys : ∀ id, id ∈ engine.feedback ↔ id ∈ engine.feedbackTouch
  groupKeys : ∀ group, group ∈ engine.recentByGroup ↔ group ∈ engine.recentGroupTouch
  known : ∀ (group : String) (recent : List String), engine.recentByGroup[group]? = some recent →
    ∀ id ∈ recent, id ∈ engine.feedback
  maxFeedback : engine.feedback.size ≤ engine.retention.maxFeedbackAssets
  maxGroups : engine.recentByGroup.size ≤ engine.retention.maxRecentGroups
  maxRecent : ∀ (group : String) (recent : List String),
    engine.recentByGroup[group]? = some recent →
      recent.length ≤ engine.policy.recentVariantWindow
  maxDecisions : engine.decisions.length ≤ engine.retention.maxDecisions
  assetTimes : Timed Touch.asset engine.feedbackTouch uses
  groupTimes : Timed Touch.group engine.recentGroupTouch uses

/-! ## Forgetting an asset -/

theorem getElem?_dropRecent :
    (engine.dropRecent id).recentByGroup[group]? = some recent ↔
      ∃ whole, engine.recentByGroup[group]? = some whole ∧
        recent = whole.filter (· ≠ id) ∧ recent ≠ [] := by
  rw [dropRecent, recentWithout]
  dsimp only
  rw [ExtTreeMap.getElem?_filter', ExtTreeMap.getElem?_map]
  cases engine.recentByGroup[group]? with
  | none => simp
  | some whole =>
    simp only [Option.map_some, Option.filter_eq_some_iff, Option.some_inj, exists_eq_left']
    constructor
    · rintro ⟨rfl, hne⟩
      exact ⟨rfl, by simpa using hne⟩
    · rintro ⟨rfl, hne⟩
      exact ⟨rfl, by simpa using hne⟩

theorem mem_emptyGroups :
    group ∈ engine.emptyGroups id ↔
      ∃ whole, engine.recentByGroup[group]? = some whole ∧ whole.filter (· ≠ id) = [] := by
  rw [← ExtTreeMap.isSome_getElem?_iff_mem, emptyGroups, recentWithout,
    ExtTreeMap.getElem?_filter', ExtTreeMap.getElem?_map]
  cases engine.recentByGroup[group]? with
  | none => simp
  | some whole => simp [Option.filter]

theorem mem_dropRecent :
    group ∈ (engine.dropRecent id).recentByGroup ↔
      group ∈ engine.recentByGroup ∧ group ∉ engine.emptyGroups id := by
  rw [mem_emptyGroups, ← ExtTreeMap.isSome_getElem?_iff_mem, ← ExtTreeMap.isSome_getElem?_iff_mem,
    Option.isSome_iff_exists, Option.isSome_iff_exists]
  constructor
  · rintro ⟨recent, hrecent⟩
    obtain ⟨whole, hwhole, rfl, hne⟩ := getElem?_dropRecent.mp hrecent
    refine ⟨⟨whole, hwhole⟩, ?_⟩
    rintro ⟨other, hother, hempty⟩
    cases hwhole.symm.trans hother
    exact hne hempty
  · rintro ⟨⟨whole, hwhole⟩, hfull⟩
    exact ⟨_, getElem?_dropRecent.mpr ⟨whole, hwhole, rfl, fun hempty ↦
      hfull ⟨whole, hwhole, hempty⟩⟩⟩

theorem mem_dropRecent_touch :
    group ∈ (engine.dropRecent id).recentGroupTouch ↔
      group ∈ engine.recentGroupTouch ∧ group ∉ engine.emptyGroups id := by
  rw [dropRecent]
  dsimp only
  rw [ExtTreeMap.mem_filter]
  simp [← Bool.not_eq_true, ExtTreeMap.contains_iff_mem]

/-- An entry that is erased is gone, and the others stay. -/
theorem mem_erase_iff {β : Type} {m : ExtTreeMap String β} {other : String} :
    other ∈ m.erase id ↔ other ≠ id ∧ other ∈ m := by
  rw [ExtTreeMap.mem_erase, Ne, Std.LawfulEqCmp.compare_eq_iff_eq, Ne, eq_comm (a := other)]

/-- Forgetting an asset keeps the books. -/
theorem Booked.forgetAsset (h : engine.Booked uses) (id : String) :
    (engine.forgetAsset id).Booked uses := by
  have hgroups : (engine.forgetAsset id).recentByGroup = (engine.dropRecent id).recentByGroup := rfl
  constructor
  case feedbackKeys =>
    intro other
    show other ∈ engine.feedback.erase id ↔ other ∈ engine.feedbackTouch.erase id
    rw [mem_erase_iff, mem_erase_iff, h.feedbackKeys]
  case groupKeys =>
    intro group
    rw [hgroups, mem_dropRecent, h.groupKeys]
    exact mem_dropRecent_touch.symm
  case known =>
    intro group recent hrecent other hother
    obtain ⟨whole, hwhole, rfl, -⟩ := getElem?_dropRecent.mp hrecent
    obtain ⟨hmem, hne⟩ := List.mem_filter.mp hother
    exact mem_erase_iff.mpr ⟨of_decide_eq_true hne, h.known group whole hwhole other hmem⟩
  case maxFeedback => exact (ExtTreeMap.size_erase_le).trans h.maxFeedback
  case maxGroups =>
    refine le_trans ?_ h.maxGroups
    refine (ExtTreeMap.size_filter_le_size).trans (le_of_eq ?_)
    rw [recentWithout]
    exact ExtTreeMap.size_map
  case maxRecent =>
    intro group recent hrecent
    obtain ⟨whole, hwhole, rfl, -⟩ := getElem?_dropRecent.mp hrecent
    exact (List.length_filter_le _ _).trans (h.maxRecent group whole hwhole)
  case maxDecisions => exact h.maxDecisions
  case assetTimes => exact h.assetTimes.erase id
  case groupTimes =>
    refine h.groupTimes.of_le fun group touch htouch ↦ ?_
    rw [AdaptationEngine.forgetAsset, dropRecent] at htouch
    dsimp only at htouch
    rw [ExtTreeMap.getElem?_filter', Option.filter_eq_some_iff] at htouch
    exact htouch.1

/-- A group that an asset leaves empty held nothing else. -/
theorem eq_of_emptied (hgroup : group ∈ engine.recentByGroup)
    (hgone : group ∉ (engine.forgetAsset id).recentByGroup)
    (hrecent : engine.recentByGroup[group]? = some recent) : ∀ member ∈ recent, member = id := by
  have hempty : group ∈ engine.emptyGroups id := by
    by_contra hfull
    exact hgone (mem_dropRecent.mpr ⟨hgroup, hfull⟩)
  obtain ⟨whole, hwhole, hfilter⟩ := mem_emptyGroups.mp hempty
  cases hrecent.symm.trans hwhole
  intro member hmember
  by_contra hne
  have hmem : member ∈ recent.filter (· ≠ id) :=
    List.mem_filter.mpr ⟨hmember, decide_eq_true hne⟩
  rw [hfilter] at hmem
  exact List.not_mem_nil hmem

theorem mem_of_mem_forgetAsset (h : group ∈ (engine.forgetAsset id).recentByGroup) :
    group ∈ engine.recentByGroup := (mem_dropRecent.mp h).1

/-! ## Room for an asset -/

/-- Another asset comes, and there is no room for it. -/
def feedbackFull (engine : AdaptationEngine) (id : String) : Bool :=
  !engine.feedback.contains id && engine.retention.maxFeedbackAssets ≤ engine.feedback.size

/-- The engine with an asset touched. -/
def touchAsset (engine room : AdaptationEngine) (id : String) : AdaptationEngine :=
  let feedback := room.feedback.insertIfNew id .default
  { room with
    feedback
    feedbackTouch := room.feedbackTouch.insert id engine.nextTouch
    feedbackHighWater := max room.feedbackHighWater feedback.size }

/-- The engine without a victim, which was evicted. -/
def withoutAsset (engine : AdaptationEngine) (victim : String) : AdaptationEngine :=
  { engine.nextTouchTick.1.forgetAsset victim with
    feedbackEvicted := satAdd engine.feedbackEvicted 1
    recentGroupsEvicted :=
      satAdd engine.recentGroupsEvicted (engine.emptyGroups victim).size }

theorem retention_ne_zero (engine : AdaptationEngine) :
    engine.retention.maxFeedbackAssets ≠ 0 ∧ engine.retention.maxRecentGroups ≠ 0 := by
  have hpositive := engine.retention_positive
  rw [AdaptationRetentionConfig.isPositive, Bool.not_eq_true', Bool.or_eq_false_iff,
    Bool.or_eq_false_iff, decide_eq_false_iff_not, decide_eq_false_iff_not] at hpositive
  exact hpositive.1

/-- **An asset is touched**: at the bound the asset with the least touch goes for it. -/
theorem Booked.ensureFeedbackAsset_cases (h : engine.Booked uses) (id : String) :
    engine.feedbackFull id = false ∧
        engine.ensureFeedbackAsset id = some (engine.touchAsset engine.nextTouchTick.1 id) ∨
      engine.feedbackFull id = true ∧ ∃ victim, IsLeast engine.feedbackTouch victim ∧
        engine.ensureFeedbackAsset id =
          some (engine.touchAsset (engine.withoutAsset victim) id) := by
  cases hfull : engine.feedbackFull id with
  | false =>
    refine .inl ⟨rfl, ?_⟩
    have hkept : ¬ ((!engine.nextTouchTick.1.feedback.contains id &&
        decide (engine.nextTouchTick.1.retention.maxFeedbackAssets ≤
          engine.nextTouchTick.1.feedback.size)) = true) := by
      rw [Bool.not_eq_true]
      exact hfull
    rw [ensureFeedbackAsset]
    dsimp only
    rw [if_neg hkept]
    rfl
  | true =>
    have hsize : engine.feedbackTouch.size ≠ 0 := by
      rw [← size_eq_of_mem_iff h.feedbackKeys]
      intro hzero
      rw [feedbackFull, hzero, Bool.and_eq_true, decide_eq_true_eq, Nat.le_zero] at hfull
      exact engine.retention_ne_zero.1 hfull.2
    obtain ⟨victim, hvictim⟩ := exists_leastTouched hsize
    refine .inr ⟨rfl, victim, isLeast_of_leastTouched hvictim, ?_⟩
    have hevicted : engine.nextTouchTick.1.evictFeedback = some (engine.withoutAsset victim) := by
      rw [evictFeedback, show leastTouched engine.nextTouchTick.1.feedbackTouch = _ from hvictim]
      rfl
    have hgone : (!engine.nextTouchTick.1.feedback.contains id &&
        decide (engine.nextTouchTick.1.retention.maxFeedbackAssets ≤
          engine.nextTouchTick.1.feedback.size)) = true := hfull
    rw [ensureFeedbackAsset]
    dsimp only
    rw [if_pos hgone, hevicted]
    rfl

theorem mem_insertIfNew_iff {β : Type} {m : ExtTreeMap String β} {value : β} {other : String} :
    other ∈ m.insertIfNew id value ↔ other = id ∨ other ∈ m := by
  rw [ExtTreeMap.mem_insertIfNew, Std.LawfulEqCmp.compare_eq_iff_eq, eq_comm]

theorem mem_insert_iff {β : Type} {m : ExtTreeMap String β} {value : β} {other : String} :
    other ∈ m.insert id value ↔ other = id ∨ other ∈ m := by
  rw [ExtTreeMap.mem_insert, Std.LawfulEqCmp.compare_eq_iff_eq, eq_comm]

theorem size_insertIfNew_le {β : Type} {m : ExtTreeMap String β} {value : β} {n : Nat}
    (hsize : m.size ≤ n) (hfree : id ∈ m ∨ m.size < n) : (m.insertIfNew id value).size ≤ n := by
  rw [ExtTreeMap.size_insertIfNew]
  split
  case isTrue => exact hsize
  case isFalse hnew => exact hfree.resolve_left hnew

theorem size_erase_lt {β : Type} {m : ExtTreeMap String β} {n : Nat} (hid : id ∈ m)
    (hsize : m.size ≤ n) (hn : n ≠ 0) : (m.erase id).size < n := by
  rw [ExtTreeMap.size_erase, if_pos (ExtTreeMap.contains_iff_mem.mpr hid)]
  omega

/-- Touching an asset for which there is room. -/
theorem Booked.touchAsset {room : AdaptationEngine} (h : room.Booked uses)
    (hclock : engine.nextTouch = min uses.length u64Max)
    (hfree : id ∈ room.feedback ∨ room.feedback.size < room.retention.maxFeedbackAssets) :
    (engine.touchAsset room id).Booked (.asset id :: uses) where
  feedbackKeys other := by
    show other ∈ room.feedback.insertIfNew id _ ↔ other ∈ room.feedbackTouch.insert id _
    rw [mem_insertIfNew_iff, mem_insert_iff, h.feedbackKeys]
  groupKeys := h.groupKeys
  known group recent hrecent other hother :=
    mem_insertIfNew_iff.mpr (.inr (h.known group recent hrecent other hother))
  maxFeedback := size_insertIfNew_le h.maxFeedback hfree
  maxGroups := h.maxGroups
  maxRecent := h.maxRecent
  maxDecisions := h.maxDecisions
  assetTimes := by
    show Timed Touch.asset (room.feedbackTouch.insert id engine.nextTouch) _
    rw [hclock]
    exact h.assetTimes.insert Touch.asset_injective id
  groupTimes := h.groupTimes.cons_of_ne fun group _ hsame ↦ Touch.noConfusion hsame

theorem Booked.tick (h : engine.Booked uses) : engine.nextTouchTick.1.Booked uses :=
  ⟨h.feedbackKeys, h.groupKeys, h.known, h.maxFeedback, h.maxGroups, h.maxRecent, h.maxDecisions,
    h.assetTimes, h.groupTimes⟩

theorem Booked.withoutAsset (h : engine.Booked uses) (victim : String) :
    (engine.withoutAsset victim).Booked uses :=
  have hforgotten := h.tick.forgetAsset victim
  ⟨hforgotten.feedbackKeys, hforgotten.groupKeys, hforgotten.known, hforgotten.maxFeedback,
    hforgotten.maxGroups, hforgotten.maxRecent, hforgotten.maxDecisions, hforgotten.assetTimes,
    hforgotten.groupTimes⟩

/-- What a touch of an asset forgets: at the bound the asset with the least touch, and the groups
that it leaves empty. -/
structure AssetDepartures (engine next : AdaptationEngine) : Prop where
  assets : ∀ id ∈ engine.feedback, id ∉ next.feedback →
    engine.feedback.size = engine.retention.maxFeedbackAssets ∧ IsLeast engine.feedbackTouch id
  groups : ∀ group ∈ engine.recentByGroup, group ∉ next.recentByGroup →
    ∃ id ∈ engine.feedback, id ∉ next.feedback ∧
      ∀ recent, engine.recentByGroup[group]? = some recent → ∀ member ∈ recent, member = id
  left : ∀ group ∈ next.recentByGroup, group ∈ engine.recentByGroup

/-- **An asset is touched**, and nothing that the code expects is missing. -/
theorem Booked.ensureFeedbackAsset (h : engine.Booked uses)
    (hclock : engine.nextTouch = min uses.length u64Max) (id : String) :
    ∃ next, engine.ensureFeedbackAsset id = some next ∧ next.Booked (.asset id :: uses) ∧
      id ∈ next.feedback ∧ next.nextTouch = satAdd engine.nextTouch 1 ∧
      next.retention = engine.retention ∧ AssetDepartures engine next := by
  obtain ⟨hfull, hnext⟩ | ⟨hfull, victim, hleast, hnext⟩ := h.ensureFeedbackAsset_cases id
  · refine ⟨_, hnext, h.tick.touchAsset hclock ?_, mem_insertIfNew_iff.mpr (.inl rfl), rfl, rfl, ?_⟩
    · rw [feedbackFull, Bool.and_eq_false_iff, Bool.not_eq_false', decide_eq_false_iff_not] at hfull
      exact hfull.imp ExtTreeMap.contains_iff_mem.mp Nat.lt_of_not_le
    · exact ⟨fun other hother hgone ↦ absurd (mem_insertIfNew_iff.mpr (.inr hother)) hgone,
        fun group hgroup hgone ↦ absurd hgroup hgone, fun group hgroup ↦ hgroup⟩
  · rw [feedbackFull, Bool.and_eq_true, Bool.not_eq_true', decide_eq_true_eq] at hfull
    have hvictim := (h.feedbackKeys victim).mpr hleast.mem
    have hnew : id ∉ engine.feedback := by
      rw [← ExtTreeMap.contains_iff_mem, hfull.1]
      exact Bool.false_ne_true
    have hmem : ∀ other, other ∈ (engine.touchAsset (engine.withoutAsset victim) id).feedback ↔
        other = id ∨ other ≠ victim ∧ other ∈ engine.feedback := by
      intro other
      exact mem_insertIfNew_iff.trans (or_congr_right mem_erase_iff)
    have hgone : victim ∉ (engine.touchAsset (engine.withoutAsset victim) id).feedback := by
      rw [hmem]
      rintro (rfl | ⟨hne, -⟩)
      · exact hnew hvictim
      · exact hne rfl
    refine ⟨_, hnext, (h.withoutAsset victim).touchAsset hclock (.inr ?_), (hmem id).mpr (.inl rfl),
      rfl, rfl, ?_⟩
    · exact size_erase_lt hvictim h.maxFeedback engine.retention_ne_zero.1
    · constructor
      case assets =>
        intro other hother hout
        obtain rfl : other = victim := by
          by_contra hne
          exact hout ((hmem other).mpr (.inr ⟨hne, hother⟩))
        exact ⟨Nat.le_antisymm h.maxFeedback hfull.2, hleast⟩
      case groups =>
        intro group hgroup hout
        exact ⟨victim, hvictim, hgone, fun recent ↦ eq_of_emptied hgroup hout⟩
      case left => exact fun group hgroup ↦ @mem_of_mem_forgetAsset engine _ _ hgroup

/-! ## Room for a group -/

/-- Another group comes, and there is no room for it. -/
def groupsFull (engine : AdaptationEngine) (group : String) : Bool :=
  !engine.recentByGroup.contains group &&
    engine.retention.maxRecentGroups ≤ engine.recentByGroup.size

/-- The engine with a group touched. -/
def touchGroup (engine room : AdaptationEngine) (group : String) : AdaptationEngine :=
  let recentByGroup := room.recentByGroup.insertIfNew group []
  { room with
    recentByGroup
    recentGroupTouch := room.recentGroupTouch.insert group engine.nextTouch
    recentGroupsHighWater := max room.recentGroupsHighWater recentByGroup.size }

/-- The engine without a victim, which was evicted. -/
def withoutGroup (engine : AdaptationEngine) (victim : String) : AdaptationEngine :=
  { engine.nextTouchTick.1 with
    recentByGroup := engine.recentByGroup.erase victim
    recentGroupTouch := engine.recentGroupTouch.erase victim
    recentGroupsEvicted := satAdd engine.recentGroupsEvicted 1 }

/-- **A group is touched**: at the bound the group with the least touch goes for it. -/
theorem Booked.ensureRecentGroup_cases (h : engine.Booked uses) (group : String) :
    engine.groupsFull group = false ∧
        engine.ensureRecentGroup group = some (engine.touchGroup engine.nextTouchTick.1 group) ∨
      engine.groupsFull group = true ∧ ∃ victim, IsLeast engine.recentGroupTouch victim ∧
        engine.ensureRecentGroup group =
          some (engine.touchGroup (engine.withoutGroup victim) group) := by
  cases hfull : engine.groupsFull group with
  | false =>
    refine .inl ⟨rfl, ?_⟩
    have hkept : ¬ ((!engine.nextTouchTick.1.recentByGroup.contains group &&
        decide (engine.nextTouchTick.1.retention.maxRecentGroups ≤
          engine.nextTouchTick.1.recentByGroup.size)) = true) := by
      rw [Bool.not_eq_true]
      exact hfull
    rw [ensureRecentGroup]
    dsimp only
    rw [if_neg hkept]
    rfl
  | true =>
    have hsize : engine.recentGroupTouch.size ≠ 0 := by
      rw [← size_eq_of_mem_iff h.groupKeys]
      intro hzero
      rw [groupsFull, hzero, Bool.and_eq_true, decide_eq_true_eq, Nat.le_zero] at hfull
      exact engine.retention_ne_zero.2 hfull.2
    obtain ⟨victim, hvictim⟩ := exists_leastTouched hsize
    refine .inr ⟨rfl, victim, isLeast_of_leastTouched hvictim, ?_⟩
    have hevicted :
        engine.nextTouchTick.1.evictRecentGroup = some (engine.withoutGroup victim) := by
      rw [evictRecentGroup,
        show leastTouched engine.nextTouchTick.1.recentGroupTouch = _ from hvictim]
      rfl
    have hgone : (!engine.nextTouchTick.1.recentByGroup.contains group &&
        decide (engine.nextTouchTick.1.retention.maxRecentGroups ≤
          engine.nextTouchTick.1.recentByGroup.size)) = true := hfull
    rw [ensureRecentGroup]
    dsimp only
    rw [if_pos hgone, hevicted]
    rfl

/-- Touching a group for which there is room. -/
theorem Booked.touchGroup {room : AdaptationEngine} (h : room.Booked uses)
    (hclock : engine.nextTouch = min uses.length u64Max)
    (hfree : group ∈ room.recentByGroup ∨
      room.recentByGroup.size < room.retention.maxRecentGroups) :
    (engine.touchGroup room group).Booked (.group group :: uses) := by
  have hlookup : ∀ (other : String) (recent : List String),
      (room.recentByGroup.insertIfNew group [])[other]? = some recent →
        recent = [] ∨ room.recentByGroup[other]? = some recent := by
    intro other recent hrecent
    rw [ExtTreeMap.getElem?_insertIfNew] at hrecent
    split at hrecent
    case isTrue => exact .inl (Option.some_inj.mp hrecent).symm
    case isFalse => exact .inr hrecent
  constructor
  case feedbackKeys => exact h.feedbackKeys
  case groupKeys =>
    intro other
    show other ∈ room.recentByGroup.insertIfNew group _ ↔
      other ∈ room.recentGroupTouch.insert group _
    rw [mem_insertIfNew_iff, mem_insert_iff, h.groupKeys]
  case known =>
    intro other recent hrecent id hid
    rcases hlookup other recent hrecent with rfl | hrecent
    · exact absurd hid List.not_mem_nil
    · exact h.known other recent hrecent id hid
  case maxFeedback => exact h.maxFeedback
  case maxGroups => exact size_insertIfNew_le h.maxGroups hfree
  case maxRecent =>
    intro other recent hrecent
    rcases hlookup other recent hrecent with rfl | hrecent
    · exact Nat.zero_le _
    · exact h.maxRecent other recent hrecent
  case maxDecisions => exact h.maxDecisions
  case assetTimes => exact h.assetTimes.cons_of_ne fun id _ hsame ↦ Touch.noConfusion hsame
  case groupTimes =>
    show Timed Touch.group (room.recentGroupTouch.insert group engine.nextTouch) _
    rw [hclock]
    exact h.groupTimes.insert Touch.group_injective group

theorem Booked.withoutGroup (h : engine.Booked uses) (victim : String) :
    (engine.withoutGroup victim).Booked uses := by
  have hlookup : ∀ (other : String) (recent : List String),
      (engine.recentByGroup.erase victim)[other]? = some recent →
        engine.recentByGroup[other]? = some recent := by
    intro other recent hrecent
    rw [ExtTreeMap.getElem?_erase] at hrecent
    split at hrecent
    case isTrue => cases hrecent
    case isFalse => exact hrecent
  constructor
  case feedbackKeys => exact h.feedbackKeys
  case groupKeys =>
    intro other
    show other ∈ engine.recentByGroup.erase victim ↔ other ∈ engine.recentGroupTouch.erase victim
    rw [mem_erase_iff, mem_erase_iff, h.groupKeys]
  case known => exact fun other recent hrecent ↦ h.known other recent (hlookup other recent hrecent)
  case maxFeedback => exact h.maxFeedback
  case maxGroups => exact ExtTreeMap.size_erase_le.trans h.maxGroups
  case maxRecent =>
    exact fun other recent hrecent ↦ h.maxRecent other recent (hlookup other recent hrecent)
  case maxDecisions => exact h.maxDecisions
  case assetTimes => exact h.assetTimes
  case groupTimes => exact h.groupTimes.erase victim

/-- What a touch of a group forgets: at the bound the group with the least touch. -/
structure GroupDepartures (engine next : AdaptationEngine) : Prop where
  assets : next.feedback = engine.feedback
  groups : ∀ group ∈ engine.recentByGroup, group ∉ next.recentByGroup →
    engine.recentByGroup.size = engine.retention.maxRecentGroups ∧
      IsLeast engine.recentGroupTouch group

/-- **A group is touched**, and nothing that the code expects is missing. -/
theorem Booked.ensureRecentGroup (h : engine.Booked uses)
    (hclock : engine.nextTouch = min uses.length u64Max) (group : String) :
    ∃ next, engine.ensureRecentGroup group = some next ∧ next.Booked (.group group :: uses) ∧
      group ∈ next.recentByGroup ∧ next.nextTouch = satAdd engine.nextTouch 1 ∧
      next.retention = engine.retention ∧ GroupDepartures engine next := by
  obtain ⟨hfull, hnext⟩ | ⟨hfull, victim, hleast, hnext⟩ := h.ensureRecentGroup_cases group
  · refine ⟨_, hnext, h.tick.touchGroup hclock ?_, mem_insertIfNew_iff.mpr (.inl rfl), rfl, rfl,
      rfl, fun other hother hgone ↦ absurd (mem_insertIfNew_iff.mpr (.inr hother)) hgone⟩
    rw [groupsFull, Bool.and_eq_false_iff, Bool.not_eq_false', decide_eq_false_iff_not] at hfull
    exact hfull.imp ExtTreeMap.contains_iff_mem.mp Nat.lt_of_not_le
  · rw [groupsFull, Bool.and_eq_true, Bool.not_eq_true', decide_eq_true_eq] at hfull
    have hvictim := (h.groupKeys victim).mpr hleast.mem
    refine ⟨_, hnext, (h.withoutGroup victim).touchGroup hclock (.inr ?_),
      mem_insertIfNew_iff.mpr (.inl rfl), rfl, rfl, rfl, fun other hother hout ↦ ?_⟩
    · exact size_erase_lt hvictim h.maxGroups engine.retention_ne_zero.2
    · obtain rfl : other = victim := by
        by_contra hne
        exact hout (mem_insertIfNew_iff.mpr (.inr (mem_erase_iff.mpr ⟨hne, hother⟩)))
      exact ⟨Nat.le_antisymm h.maxGroups hfull.2, hleast⟩

/-! ## Operations -/

/-- A call on the engine.  The store and the disk of an `apply` are arbitrary. -/
inductive Call where
  | recordUse (asset : PerformanceAsset)
  | recordQuality (assetId : String) (positive : Bool)
  | evaluate (asset : PerformanceAsset)
  | apply (store : AssetStore) (disk : Disk) (assetId : String)

variable (rounding : Rounding)

/-- The engine after a call, unless an entry was missing that the code expects. -/
def perform (engine : AdaptationEngine) : Call → Option AdaptationEngine
  | .recordUse asset => engine.recordUse asset
  | .recordQuality assetId positive => engine.recordQuality assetId positive
  | .evaluate asset => some (engine.evaluate rounding asset).1
  | .apply store disk assetId => some (engine.apply rounding store disk assetId).1

/-- What a call touches, the last one first. -/
def Call.touches : Call → List Touch
  | .recordUse asset => [.group asset.recentGroup, .asset asset.id]
  | .recordQuality assetId _ => [.asset assetId]
  | .evaluate _ | .apply _ _ _ => []

/-- The call invalidates the asset. -/
def Call.Invalidates (engine : AdaptationEngine) : Call → String → Prop
  | .apply store disk assetId, id =>
    assetId = id ∧ (engine.apply rounding store disk assetId).2.2 = .ok .invalidated
  | _, _ => False

/-- The books, and the clock after some touches. -/
structure Ticking (engine : AdaptationEngine) (uses : List Touch) : Prop
    extends engine.Booked uses where
  clock : engine.nextTouch = min uses.length u64Max

/-- What a call forgets.  An asset goes that was invalidated, or at the bound the one with the
oldest touch; a group goes that held nothing but an asset that went, or at the bound the one with
the oldest touch. -/
structure Departures (engine next : AdaptationEngine) (uses : List Touch) (call : Call) : Prop where
  assets : ∀ id ∈ engine.feedback, id ∉ next.feedback →
    call.Invalidates rounding engine id ∨
      engine.feedback.size = engine.retention.maxFeedbackAssets ∧
        ∀ other ∈ engine.feedback, other ≠ id → Precedes uses (.asset id) (.asset other)
  groups : ∀ group ∈ engine.recentByGroup, group ∉ next.recentByGroup →
    (∃ id ∉ next.feedback, (id ∈ engine.feedback ∨ call.Invalidates rounding engine id) ∧
      ∀ recent, engine.recentByGroup[group]? = some recent → ∀ member ∈ recent, member = id) ∨
    engine.recentByGroup.size = engine.retention.maxRecentGroups ∧
      ∀ other ∈ engine.recentByGroup, other ≠ group → Precedes uses (.group group) (.group other)

/-- Overwriting the feedback on an asset. -/
theorem Booked.overwrite (h : engine.Booked uses) (hid : id ∈ engine.feedback)
    (feedback : AssetFeedback) :
    { engine with feedback := engine.feedback.insert id feedback }.Booked uses := by
  have hmem : ∀ other, other ∈ engine.feedback.insert id feedback ↔ other ∈ engine.feedback := by
    intro other
    rw [mem_insert_iff]
    constructor
    · rintro (rfl | hother)
      · exact hid
      · exact hother
    · exact .inr
  have hsize : (engine.feedback.insert id feedback).size = engine.feedback.size :=
    size_eq_of_mem_iff hmem
  exact ⟨fun other ↦ (hmem other).trans (h.feedbackKeys other), h.groupKeys,
    fun group recent hrecent other hother ↦
      (hmem other).mpr (h.known group recent hrecent other hother),
    hsize.trans_le h.maxFeedback, h.maxGroups, h.maxRecent, h.maxDecisions, h.assetTimes,
    h.groupTimes⟩

/-- Remembering a use of an asset in a group. -/
theorem Booked.pushRecent (h : engine.Booked uses) (hid : id ∈ engine.feedback)
    (hrecent : engine.recentByGroup[group]? = some recent) :
    { engine with
      recentByGroup := engine.recentByGroup.insert group ((recent ++ [id]).drop
        ((recent ++ [id]).length - engine.policy.recentVariantWindow)) }.Booked uses := by
  have hmem : ∀ value other, other ∈ engine.recentByGroup.insert group value ↔
      other ∈ engine.recentByGroup := by
    intro value other
    rw [mem_insert_iff]
    constructor
    · rintro (rfl | hother)
      · exact mem_of_getElem? hrecent
      · exact hother
    · exact .inr
  have hlookup : ∀ (other : String) (held : List String) (value : List String),
      (engine.recentByGroup.insert group value)[other]? = some held →
        held = value ∨ engine.recentByGroup[other]? = some held := by
    intro other held value hheld
    rw [ExtTreeMap.getElem?_insert] at hheld
    split at hheld
    case isTrue => exact .inl (Option.some_inj.mp hheld).symm
    case isFalse => exact .inr hheld
  constructor
  case feedbackKeys => exact h.feedbackKeys
  case groupKeys => exact fun other ↦ (hmem _ other).trans (h.groupKeys other)
  case known =>
    intro other held hheld member hmember
    rcases hlookup other held _ hheld with rfl | hheld
    · rcases List.mem_append.mp (List.mem_of_mem_drop hmember) with hold | hnew
      · exact h.known group recent hrecent member hold
      · rw [List.mem_singleton.mp hnew]
        exact hid
    · exact h.known other held hheld member hmember
  case maxFeedback => exact h.maxFeedback
  case maxGroups => exact (size_eq_of_mem_iff (hmem _)).trans_le h.maxGroups
  case maxRecent =>
    intro other held hheld
    rcases hlookup other held _ hheld with rfl | hheld
    · rw [List.length_drop]
      exact Nat.sub_le_iff_le_add.mpr (by dsimp only; omega)
    · exact h.maxRecent other held hheld
  case maxDecisions => exact h.maxDecisions
  case assetTimes => exact h.assetTimes
  case groupTimes => exact h.groupTimes

theorem Precedes.of_cons {use a b : Touch} (h : Precedes (use :: uses) a b) (ha : use ≠ a)
    (hb : use ≠ b) : Precedes uses a b := by
  obtain ⟨m, n, hm, hn, hless⟩ := h
  rw [lastUse_cons_of_ne ha] at hm
  rw [lastUse_cons_of_ne hb] at hn
  exact ⟨m, n, hm, hn, hless⟩

/-- The asset that goes at the bound was touched longest ago. -/
theorem Booked.oldestAsset (h : engine.Booked uses) (hclock : uses.length < 2 ^ 64)
    (hleast : IsLeast engine.feedbackTouch id) :
    ∀ other ∈ engine.feedback, other ≠ id → Precedes uses (.asset id) (.asset other) :=
  fun other hother hne ↦ h.assetTimes.precedes Touch.asset_injective
    (Nat.le_of_lt hclock) hleast ((h.feedbackKeys other).mp hother) hne

theorem Booked.oldestGroup (h : engine.Booked uses) (hclock : uses.length ≤ 2 ^ 64)
    (hleast : IsLeast engine.recentGroupTouch group) :
    ∀ other ∈ engine.recentByGroup, other ≠ group →
      Precedes uses (.group group) (.group other) :=
  fun other hother hne ↦ h.groupTimes.precedes Touch.group_injective hclock hleast
    ((h.groupKeys other).mp hother) hne

/-- A quality label. -/
theorem Ticking.recordQuality (h : engine.Ticking uses) (assetId : String) (positive : Bool) :
    ∃ next, engine.recordQuality assetId positive = some next ∧
      next.Ticking (.asset assetId :: uses) ∧
      (uses.length < 2 ^ 64 → Departures rounding engine next uses (.recordQuality assetId positive)) := by
  obtain ⟨mid, hmid, hbooked, hin, htick, -, hgone⟩ :=
    h.toBooked.ensureFeedbackAsset h.clock assetId
  obtain ⟨feedback, hfeedback⟩ := exists_getElem? hin
  refine ⟨_, ?_, ⟨hbooked.overwrite hin (feedback.labelled positive), ?_⟩, fun hless ↦ ⟨?_, ?_⟩⟩
  · rw [AdaptationEngine.recordQuality, hmid]
    show (do let feedback ← mid.feedback[assetId]?; _) = _
    rw [hfeedback]
    rfl
  · show mid.nextTouch = _
    rw [htick, h.clock, satAdd_min]
    rfl
  · intro id hid hout
    have hout : id ∉ mid.feedback := fun hkept ↦ hout (mem_insert_iff.mpr (.inr hkept))
    obtain ⟨hfull, hleast⟩ := hgone.assets id hid hout
    exact .inr ⟨hfull, h.oldestAsset hless hleast⟩
  · intro group hgroup hout
    obtain ⟨id, hid, hlost, heach⟩ := hgone.groups group hgroup hout
    refine .inl ⟨id, fun hkept ↦ hlost ?_, .inl hid, heach⟩
    rcases mem_insert_iff.mp hkept with rfl | hkept
    · exact hin
    · exact hkept

/-- A use. -/
theorem Ticking.recordUse (h : engine.Ticking uses) (asset : PerformanceAsset) :
    ∃ next, engine.recordUse asset = some next ∧
      next.Ticking (.group asset.recentGroup :: .asset asset.id :: uses) ∧
      (uses.length < 2 ^ 64 → Departures rounding engine next uses (.recordUse asset)) := by
  obtain ⟨first, hfirst, hbooked, hin, htick, hretention, hgone⟩ :=
    h.toBooked.ensureFeedbackAsset h.clock asset.id
  obtain ⟨feedback, hfeedback⟩ := exists_getElem? hin
  have hcounted := hbooked.overwrite hin { feedback with uses := satAdd feedback.uses 1 }
  have hclock : first.nextTouch = min (Touch.asset asset.id :: uses).length u64Max := by
    rw [htick, h.clock, satAdd_min]
    rfl
  obtain ⟨mid, hmid, hgrouped, hgroup, htick', -, hgone'⟩ :=
    hcounted.ensureRecentGroup hclock asset.recentGroup
  obtain ⟨recent, hrecent⟩ := exists_getElem? hgroup
  have hknown : ∀ id, id ∈ mid.feedback ↔ id ∈ first.feedback := by
    intro id
    rw [hgone'.assets, mem_insert_iff]
    constructor
    · rintro (rfl | hid)
      · exact hin
      · exact hid
    · exact .inr
  refine ⟨_, ?_, ⟨hgrouped.pushRecent ((hknown _).mpr hin) hrecent, ?_⟩, fun hless ↦ ⟨?_, ?_⟩⟩
  · rw [AdaptationEngine.recordUse, hfirst]
    show (do let feedback ← first.feedback[asset.id]?; _) = _
    rw [hfeedback]
    show (do let engine ← AdaptationEngine.ensureRecentGroup _ asset.recentGroup; _) = _
    rw [hmid]
    show (do let recent ← mid.recentByGroup[asset.recentGroup]?; _) = _
    rw [hrecent]
    rfl
  · show mid.nextTouch = _
    rw [htick']
    show satAdd first.nextTouch 1 = _
    rw [hclock, satAdd_min]
    rfl
  · intro id hid hout
    have hout : id ∉ first.feedback := fun hkept ↦ hout ((hknown id).mpr hkept)
    obtain ⟨hfull, hleast⟩ := hgone.assets id hid hout
    exact .inr ⟨hfull, h.oldestAsset hless hleast⟩
  · intro group hgroup hout
    have hout : group ∉ mid.recentByGroup := fun hkept ↦ hout (mem_insert_iff.mpr (.inr hkept))
    by_cases hleft : group ∈ first.recentByGroup
    · -- The group makes room for another one, so no group went before it.
      obtain ⟨hfull, hleast⟩ := hgone'.groups group hleft hout
      have hsame : ∀ other, other ∈ engine.recentByGroup ↔ other ∈ first.recentByGroup := by
        refine mem_iff_of_size_le hgone.left ?_
        rw [show first.recentByGroup.size = first.retention.maxRecentGroups from hfull, hretention]
        exact h.maxGroups
      refine .inr ⟨?_, fun other hother hne ↦ ?_⟩
      · rw [size_eq_of_mem_iff hsame, ← hretention]
        exact hfull
      · have hoverlong : (Touch.asset asset.id :: uses).length ≤ 2 ^ 64 := hless
        exact Precedes.of_cons
          (hcounted.oldestGroup hoverlong hleast other ((hsame other).mp hother) hne)
          (fun hsame ↦ Touch.noConfusion hsame) fun hsame ↦ Touch.noConfusion hsame
    · obtain ⟨id, hid, hlost, heach⟩ := hgone.groups group hgroup hleft
      exact .inl ⟨id, mt (hknown id).mp hlost, .inl hid, heach⟩

/-- An evaluation. -/
theorem Booked.evaluate (h : engine.Booked uses) (asset : PerformanceAsset) :
    (engine.evaluate rounding asset).1.Booked uses ∧
      (engine.evaluate rounding asset).1.nextTouch = engine.nextTouch ∧
      (engine.evaluate rounding asset).1.feedback = engine.feedback ∧
      (engine.evaluate rounding asset).1.recentByGroup = engine.recentByGroup := by
  rw [AdaptationEngine.evaluate]
  split
  case h_1 => exact ⟨h, rfl, rfl, rfl⟩
  case h_2 =>
    dsimp only
    refine ⟨⟨h.feedbackKeys, h.groupKeys, h.known, h.maxFeedback, h.maxGroups, h.maxRecent, ?_,
      h.assetTimes, h.groupTimes⟩, rfl, rfl, rfl⟩
    dsimp only
    rw [List.length_drop]
    omega

/-- The engine that is evaluated in an `apply`, and what goes when it invalidates the asset. -/
theorem Booked.apply (h : engine.Booked uses) (store : AssetStore) (disk : Disk)
    (assetId : String) :
    (engine.apply rounding store disk assetId).1.Booked uses ∧
      (engine.apply rounding store disk assetId).1.nextTouch = engine.nextTouch ∧
      Departures rounding engine (engine.apply rounding store disk assetId).1 uses
        (.apply store disk assetId) := by
  have hstays : ∀ kept : AdaptationEngine, kept.feedback = engine.feedback →
      kept.recentByGroup = engine.recentByGroup →
        Departures rounding engine kept uses (.apply store disk assetId) := by
    intro kept hfeedback hrecent
    refine ⟨fun id hid hout ↦ absurd hid (hfeedback ▸ hout),
      fun group hgroup hout ↦ absurd hgroup (hrecent ▸ hout)⟩
  obtain ⟨result, hresult⟩ : ∃ result, engine.apply rounding store disk assetId = result :=
    ⟨_, rfl⟩
  have hcases := hresult
  rw [hresult]
  rw [AdaptationEngine.apply] at hcases
  split at hcases
  case h_1 =>
    subst hcases
    exact ⟨h, rfl, hstays engine rfl rfl⟩
  case h_2 asset hfound =>
    obtain ⟨hbooked, hclock, hfeedback, hrecent⟩ := h.evaluate rounding asset
    split at hcases
    case h_1 evaluated error hevaluated =>
      subst hcases
      rw [hevaluated] at hbooked hclock hfeedback hrecent
      exact ⟨hbooked, hclock, hstays _ hfeedback hrecent⟩
    case h_2 evaluated record hevaluated =>
      rw [hevaluated] at hbooked hclock hfeedback hrecent
      dsimp only at hbooked hclock hfeedback hrecent
      split at hcases
      case h_1 =>
        subst hcases
        exact ⟨hbooked, hclock, hstays _ hfeedback hrecent⟩
      case h_2 =>
        subst hcases
        exact ⟨hbooked, hclock, hstays _ hfeedback hrecent⟩
      case h_3 =>
        split at hcases
        case h_1 =>
          subst hcases
          exact ⟨hbooked, hclock, hstays _ hfeedback hrecent⟩
        case h_2 =>
          subst hcases
          have hinvalidated : (engine.apply rounding store disk assetId).2.2 = .ok .invalidated := by
            rw [hresult]
          refine ⟨hbooked.forgetAsset assetId, hclock, fun id hid hout ↦ .inl ⟨?_, hinvalidated⟩,
            fun group hgroup hout ↦
              .inl ⟨assetId, ?_, .inr ⟨rfl, hinvalidated⟩, fun recent hheld ↦ ?_⟩⟩
          · by_contra hne
            refine hout (mem_erase_iff.mpr ⟨Ne.symm hne, ?_⟩)
            rwa [hfeedback]
          · exact fun hkept ↦ (mem_erase_iff.mp hkept).1 rfl
          · refine @eq_of_emptied evaluated _ _ _ (hrecent ▸ hgroup) hout ?_
            rw [hrecent]
            exact hheld

/-- **A call** finds every entry that it expects, and keeps the books. -/
theorem Ticking.perform (h : engine.Ticking uses) (call : Call) :
    ∃ next, engine.perform rounding call = some next ∧ next.Ticking (call.touches ++ uses) ∧
      (uses.length < 2 ^ 64 → Departures rounding engine next uses call) := by
  cases call with
  | recordUse asset => exact h.recordUse rounding asset
  | recordQuality assetId positive => exact h.recordQuality rounding assetId positive
  | evaluate asset =>
    obtain ⟨hbooked, hclock, hfeedback, hrecent⟩ := h.toBooked.evaluate rounding asset
    refine ⟨_, rfl, ⟨hbooked, hclock.trans h.clock⟩, fun _ ↦ ⟨?_, ?_⟩⟩
    · exact fun id hid hout ↦ absurd hid (hfeedback ▸ hout)
    · exact fun group hgroup hout ↦ absurd hgroup (hrecent ▸ hout)
  | apply store disk assetId =>
    obtain ⟨hbooked, hclock, hgone⟩ := h.toBooked.apply rounding store disk assetId
    exact ⟨_, rfl, ⟨hbooked, hclock.trans h.clock⟩, fun _ ↦ hgone⟩

/-! ## Runs -/

/-- The engine after some calls, unless an entry was missing. -/
def run (engine : AdaptationEngine) (calls : List Call) : Option AdaptationEngine :=
  calls.foldlM (perform rounding) engine

/-- What some calls touched, the last one first. -/
def touched (calls : List Call) : List Touch := calls.reverse.flatMap Call.touches

theorem touched_concat (calls : List Call) (call : Call) :
    touched (calls ++ [call]) = call.touches ++ touched calls := by
  rw [touched, List.reverse_append]
  rfl

theorem run_concat (engine : AdaptationEngine) (calls : List Call) (call : Call) :
    engine.run rounding (calls ++ [call]) =
      (engine.run rounding calls).bind fun next ↦ next.perform rounding call := by
  rw [run, List.foldlM_append]
  refine congrArg (Option.bind (calls.foldlM (perform rounding) engine)) (funext fun next ↦ ?_)
  simp

theorem opened_ticking {policy : PromotionPolicy} {policyVersion : String} {seed : Nat}
    {retention : AdaptationRetentionConfig}
    (h : withRetention policy policyVersion seed retention = .ok engine) : engine.Ticking [] := by
  rw [withRetention, Check.bind_eq_ok] at h
  obtain ⟨policy, -, h⟩ := h
  rw [Check.unit_bind_eq_ok] at h
  obtain ⟨-, h⟩ := h
  split at h
  case isFalse => cases h
  case isTrue hpositive =>
    cases h
    have hnothing : ∀ {β : Type} (id : String), id ∉ (∅ : ExtTreeMap String β) :=
      fun _ ↦ ExtTreeMap.not_mem_empty
    exact ⟨⟨fun id ↦ iff_of_false (hnothing id) (hnothing id),
      fun group ↦ iff_of_false (hnothing group) (hnothing group),
      fun group recent hrecent ↦ absurd (mem_of_getElem? hrecent) (hnothing group),
      Nat.zero_le _, Nat.zero_le _,
      fun group recent hrecent ↦ absurd (mem_of_getElem? hrecent) (hnothing group),
      Nat.zero_le _, timed_empty _ _, timed_empty _ _⟩, rfl⟩

theorem Ticking.run (h : engine.Ticking []) (calls : List Call) :
    ∃ final, engine.run rounding calls = some final ∧ final.Ticking (touched calls) := by
  induction calls using List.reverseRecOn with
  | nil => exact ⟨engine, rfl, h⟩
  | append_singleton calls call ih =>
    obtain ⟨middle, hmiddle, hticking⟩ := ih
    obtain ⟨final, hfinal, hticking, -⟩ := hticking.perform rounding call
    refine ⟨final, ?_, touched_concat calls call ▸ hticking⟩
    rw [run_concat, hmiddle]
    exact hfinal

/-- **The books of the engine.**  After every sequence of calls the maps agree and the bounds hold,
no entry was missing, and none is in the next call, which forgets what was touched longest ago, or
what the loss of an asset left empty. -/
theorem booked_run {policy : PromotionPolicy} {policyVersion : String} {seed : Nat}
    {retention : AdaptationRetentionConfig}
    (hengine : withRetention policy policyVersion seed retention = .ok engine)
    (calls : List Call) :
    ∃ final, engine.run rounding calls = some final ∧ final.Booked (touched calls) ∧
      ∀ call, ∃ next, final.perform rounding call = some next ∧
        ((touched calls).length < 2 ^ 64 → Departures rounding final next (touched calls) call) := by
  obtain ⟨final, hfinal, hticking⟩ := (opened_ticking hengine).run rounding calls
  refine ⟨final, hfinal, hticking.toBooked, fun call ↦ ?_⟩
  obtain ⟨next, hnext, -, hgone⟩ := hticking.perform rounding call
  exact ⟨next, hnext, hgone⟩

/-- Two assets and two groups at most, of which the last two variants are remembered. -/
def smallRetention : AdaptationRetentionConfig := ⟨2, 2, 1⟩

def lenientPolicy : PromotionPolicy := ⟨1, 1, .finite 0, 1, 2⟩

def crowded : AdaptationEngine := opened lenientPolicy "promotion-v1" 42 smallRetention rfl

def variantOf (id group : String) : PerformanceAsset where
  schemaVersion := performanceAssetSchemaVersion
  id := id
  intent := "laugh"
  assetClass := .filler
  variantGroup := some group
  speech := none
  expression := none
  gesture := none
  gaze := none
  timeline := []
  interruptPointsMs := []
  variation := none
  compatibility := ⟨"1", none, none, none, none⟩
  semanticEmbedding := none
  provenance := none

/-- Two uses, and a label for the asset that was used first. -/
def crowdedCalls : List Call :=
  [.recordUse (variantOf "first" "older"), .recordUse (variantOf "second" "newer"),
    .recordQuality "first" true]

theorem withRetention_crowded :
    withRetention lenientPolicy "promotion-v1" 42 smallRetention = .ok crowded := by
  rw [withRetention, Check.bind_eq_ok]
  refine ⟨lenientPolicy, by decide +kernel, ?_⟩
  rw [Check.unit_bind_eq_ok]
  exact ⟨by decide +kernel, rfl⟩

theorem booked_run_crowded :
    ∃ final, crowded.run .exact crowdedCalls = some final ∧ final.Booked (touched crowdedCalls) ∧
      ∀ call, ∃ next, final.perform .exact call = some next ∧
        ((touched crowdedCalls).length < 2 ^ 64 →
          Departures .exact final next (touched crowdedCalls) call) :=
  booked_run .exact withRetention_crowded crowdedCalls

/-- **An emptied group.**  A third asset takes the place of the second one, and the group that is
left empty is evicted, though the other group was touched before it. -/
theorem newer_group_emptied :
    withRetention lenientPolicy "promotion-v1" 42 smallRetention = .ok crowded ∧
      ((crowded.run .exact crowdedCalls).map fun engine ↦
        (engine.recentByGroup.keys, engine.recentGroupsEvicted)) = some (["newer", "older"], 0) ∧
      ((crowded.run .exact (crowdedCalls ++ [.recordQuality "third" true])).map fun engine ↦
        (engine.recentByGroup.keys, engine.recentGroupsEvicted)) = some (["older"], 1) ∧
      Precedes (touched crowdedCalls) (.group "older") (.group "newer") := by
  refine ⟨withRetention_crowded, by decide +kernel, by decide +kernel, 1, 3, ?_, ?_, ?_⟩
  all_goals decide +kernel

end AdaptationEngine

end Aivtuber
