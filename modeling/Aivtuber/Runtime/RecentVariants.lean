import Aivtuber.AssetStore.Eviction
import Aivtuber.Runtime.CachedPlayback

/-!
# Recent variants

`record_recent` of `crates/runtime/src/cached_playback.rs` keeps the last variants of the groups
that were touched last.  The variants and the touches have the same groups (`Recalls`), and the
group that makes room for another one has the least touch (`Recalls.evicts`), which is the
oldest one until the clock has run out.
-/

open Saturating
open Std (ExtTreeMap)
open Recency Touches

namespace Aivtuber

namespace CachedPerformer

variable {performer : CachedPerformer} {uses : List String} {group assetId victim : String}

/-- What the performer recalls after touches of some groups, the last one first. -/
structure Recalls (performer : CachedPerformer) (uses : List String) : Prop where
  keys : ∀ group, group ∈ performer.recentByGroup ↔ group ∈ performer.recentGroupTouch
  groups : performer.recentByGroup.size ≤ performer.config.maxRecentVariantGroups
  variants : ∀ (group : String) (recent : List String),
    performer.recentByGroup[group]? = some recent →
      recent.length ≤ performer.config.recentVariantWindow
  clock : performer.nextRecentGroupTouch = min uses.length u64Max
  timed : Timed id performer.recentGroupTouch uses

/-- The performer keeps recent variants at all. -/
def recallsAny (config : CachedPlaybackConfig) : Bool :=
  !(config.recentVariantWindow = 0 || config.maxRecentVariantGroups = 0)

/-- Another group comes, and there is no room for it. -/
def atBound (performer : CachedPerformer) (group : String) : Bool :=
  !performer.recentByGroup.contains group &&
    performer.config.maxRecentVariantGroups ≤ performer.recentByGroup.size

/-- The performer with room for a group, and the clock moved on. -/
def madeRoom (performer : CachedPerformer) (group : String) : CachedPerformer :=
  let performer :=
    { performer with nextRecentGroupTouch := satAdd performer.nextRecentGroupTouch 1 }
  if performer.atBound group then performer.evictRecentGroup else performer

theorem recordRecent_of_not_recallsAny (h : recallsAny performer.config = false)
    (group assetId : String) : performer.recordRecent group assetId = performer := by
  rw [recordRecent, if_pos]
  rwa [recallsAny, Bool.not_eq_false'] at h

theorem recordRecent_eq (h : recallsAny performer.config = true) (group assetId : String) :
    performer.recordRecent group assetId =
      let room := performer.madeRoom group
      let recent := (room.recentByGroup[group]?).getD [] ++ [assetId]
      let recentByGroup := room.recentByGroup.insert group
        (recent.drop (recent.length - room.config.recentVariantWindow))
      { room with
        recentByGroup
        recentGroupTouch := room.recentGroupTouch.insert group performer.nextRecentGroupTouch
        recentGroupsHighWater := max room.recentGroupsHighWater recentByGroup.size } := by
  rw [recordRecent, if_neg]
  · rfl
  · rw [recallsAny, Bool.not_eq_true'] at h
    rw [h]
    exact Bool.false_ne_true

/-- The group that goes is the one with the least touch. -/
theorem evictRecentGroup_eq (h : performer.recentGroupTouch.size ≠ 0) :
    ∃ victim, IsLeast performer.recentGroupTouch victim ∧
      performer.evictRecentGroup = { performer with
        recentByGroup := performer.recentByGroup.erase victim
        recentGroupTouch := performer.recentGroupTouch.erase victim
        recentGroupsEvicted := satAdd performer.recentGroupsEvicted 1 } := by
  cases hsorted : AssetStore.sortByRank (fun id ↦ (performer.recentGroupTouch[id]?).getD 0)
      performer.recentGroupTouch.keys with
  | nil =>
    have hlength := (AssetStore.perm_sortByRank
      (fun id ↦ (performer.recentGroupTouch[id]?).getD 0)
      performer.recentGroupTouch.keys).length_eq
    rw [hsorted, ExtTreeMap.length_keys] at hlength
    exact absurd hlength.symm h
  | cons victim rest =>
    refine ⟨victim, AssetStore.isLeast_of_sortByRank hsorted, ?_⟩
    rw [evictRecentGroup, hsorted]

/-- Room is made by an eviction at the bound only. -/
theorem Recalls.madeRoom_cases (h : performer.Recalls uses)
    (hany : recallsAny performer.config = true) (group : String) :
    performer.atBound group = false ∧
        performer.madeRoom group = { performer with
          nextRecentGroupTouch := satAdd performer.nextRecentGroupTouch 1 } ∨
      performer.atBound group = true ∧ ∃ victim, IsLeast performer.recentGroupTouch victim ∧
        performer.madeRoom group = { performer with
          nextRecentGroupTouch := satAdd performer.nextRecentGroupTouch 1
          recentByGroup := performer.recentByGroup.erase victim
          recentGroupTouch := performer.recentGroupTouch.erase victim
          recentGroupsEvicted := satAdd performer.recentGroupsEvicted 1 } := by
  cases hbound : performer.atBound group with
  | false => exact .inl ⟨rfl, by rw [madeRoom, if_neg (Bool.not_eq_true _ ▸ hbound)]⟩
  | true =>
    have hsize : performer.recentGroupTouch.size ≠ 0 := by
      rw [← size_eq_of_mem_iff h.keys]
      intro hzero
      rw [atBound, hzero, Bool.and_eq_true, decide_eq_true_eq, Nat.le_zero] at hbound
      simp [recallsAny, hbound.2] at hany
    obtain ⟨victim, hleast, hevicted⟩ := @evictRecentGroup_eq { performer with
      nextRecentGroupTouch := satAdd performer.nextRecentGroupTouch 1 } hsize
    refine .inr ⟨rfl, victim, hleast, ?_⟩
    rw [madeRoom, ← hevicted]
    exact if_pos hbound

/-- With room for a group, what is recalled is recalled, and the group fits. -/
theorem Recalls.madeRoom (h : performer.Recalls uses) (hany : recallsAny performer.config = true)
    (group : String) :
    (performer.madeRoom group).config = performer.config ∧
      (∀ other, other ∈ (performer.madeRoom group).recentByGroup ↔
        other ∈ (performer.madeRoom group).recentGroupTouch) ∧
      ((performer.madeRoom group).recentByGroup.insert group []).size ≤
        performer.config.maxRecentVariantGroups ∧
      (∀ (other : String) (recent : List String),
        (performer.madeRoom group).recentByGroup[other]? = some recent →
          recent.length ≤ performer.config.recentVariantWindow) ∧
      (performer.madeRoom group).nextRecentGroupTouch =
        satAdd performer.nextRecentGroupTouch 1 ∧
      Timed id (performer.madeRoom group).recentGroupTouch uses := by
  obtain ⟨hbound, hroom⟩ | ⟨hbound, victim, hleast, hroom⟩ := h.madeRoom_cases hany group
  · rw [hroom]
    refine ⟨rfl, h.keys, ?_, h.variants, rfl, h.timed⟩
    dsimp only
    rw [ExtTreeMap.size_insert]
    split
    case isTrue => exact h.groups
    case isFalse hnew =>
      rw [atBound, Bool.and_eq_false_iff, Bool.not_eq_false', decide_eq_false_iff_not] at hbound
      exact Nat.lt_of_not_le (hbound.resolve_left hnew)
  · rw [hroom]
    refine ⟨rfl, fun other ↦ ?_, ?_, ?_, rfl, h.timed.erase victim⟩
    · dsimp only
      rw [ExtTreeMap.mem_erase, ExtTreeMap.mem_erase, h.keys]
    · dsimp only
      have hvictim := (h.keys victim).mpr hleast.mem
      have hpos : performer.recentByGroup.size ≠ 0 := by
        intro hzero
        rw [ExtTreeMap.eq_empty_iff_size_eq_zero.mpr hzero] at hvictim
        exact ExtTreeMap.not_mem_empty hvictim
      have hgroups := h.groups
      rw [ExtTreeMap.size_insert, ExtTreeMap.size_erase,
        if_pos (ExtTreeMap.contains_iff_mem.mpr hvictim)]
      split <;> omega
    · intro other recent hrecent
      dsimp only at hrecent
      rw [ExtTreeMap.getElem?_erase] at hrecent
      split at hrecent
      case isTrue => cases hrecent
      case isFalse => exact h.variants other recent hrecent

/-- A touch of a group keeps what is recalled. -/
theorem Recalls.recordRecent (h : performer.Recalls uses)
    (hany : recallsAny performer.config = true) (group assetId : String) :
    (performer.recordRecent group assetId).Recalls (group :: uses) := by
  obtain ⟨hconfig, hkeys, hgroups, hvariants, hclock, htimed⟩ := h.madeRoom hany group
  rw [recordRecent_eq hany]
  constructor
  case keys =>
    intro other
    rw [ExtTreeMap.mem_insert, ExtTreeMap.mem_insert, hkeys]
  case groups =>
    rw [ExtTreeMap.size_insert] at hgroups ⊢
    dsimp only
    rw [hconfig]
    exact hgroups
  case variants =>
    intro other recent hrecent
    dsimp only at hrecent ⊢
    rw [hconfig]
    rw [ExtTreeMap.getElem?_insert] at hrecent
    split at hrecent
    case isTrue =>
      cases hrecent
      rw [hconfig, List.length_drop]
      omega
    case isFalse => exact hvariants other recent hrecent
  case clock =>
    dsimp only
    rw [hclock, h.clock, satAdd_min]
    rfl
  case timed =>
    dsimp only
    rw [h.clock]
    exact htimed.insert Function.injective_id group

/-- A group that goes makes room for another one, and has the least touch. -/
theorem Recalls.evicts (h : performer.Recalls uses) (hany : recallsAny performer.config = true)
    (hvictim : victim ∈ performer.recentByGroup)
    (hgone : victim ∉ (performer.recordRecent group assetId).recentByGroup) :
    performer.atBound group = true ∧ IsLeast performer.recentGroupTouch victim := by
  rw [recordRecent_eq hany] at hgone
  dsimp only at hgone
  rw [ExtTreeMap.mem_insert, not_or] at hgone
  obtain ⟨hbound, hroom⟩ | ⟨hbound, least, hleast, hroom⟩ := h.madeRoom_cases hany group
  · rw [hroom] at hgone
    exact absurd hvictim hgone.2
  · rw [hroom, ExtTreeMap.mem_erase] at hgone
    have hsame : compare least victim = .eq := by
      by_contra hne
      exact hgone.2 ⟨hne, hvictim⟩
    exact ⟨hbound, Std.LawfulEqCmp.eq_of_compare hsame ▸ hleast⟩

/-! ## Runs -/

/-- The performer after some variants of groups were recorded. -/
def recordAll (performer : CachedPerformer) (calls : List (String × String)) : CachedPerformer :=
  calls.foldl (fun performer call ↦ performer.recordRecent call.1 call.2) performer

/-- The groups of the calls, the last one first. -/
def touched (calls : List (String × String)) : List String := (calls.map Prod.fst).reverse

theorem recordAll_append (performer : CachedPerformer) (calls calls' : List (String × String)) :
    performer.recordAll (calls ++ calls') = (performer.recordAll calls).recordAll calls' :=
  List.foldl_append

theorem recordAll_concat (performer : CachedPerformer) (calls : List (String × String))
    (call : String × String) : performer.recordAll (calls ++ [call]) =
      (performer.recordAll calls).recordRecent call.1 call.2 :=
  recordAll_append performer calls [call]

theorem touched_concat (calls : List (String × String)) (call : String × String) :
    touched (calls ++ [call]) = call.1 :: touched calls := by
  rw [touched, List.map_append, List.reverse_append]
  rfl

variable {assets : AssetStore} {scheduler : Scheduler} {config : CachedPlaybackConfig}
  {calls : List (String × String)}

theorem new_recalls (assets : AssetStore) (scheduler : Scheduler) (config : CachedPlaybackConfig) :
    (new assets scheduler config).Recalls [] where
  keys group := iff_of_false ExtTreeMap.not_mem_empty ExtTreeMap.not_mem_empty
  groups := Nat.zero_le _
  variants group recent hrecent := by
    rw [new, ExtTreeMap.getElem?_empty] at hrecent
    cases hrecent
  clock := rfl
  timed := timed_empty _ _

theorem recordRecent_config (performer : CachedPerformer) (group assetId : String) :
    (performer.recordRecent group assetId).config = performer.config := by
  rw [recordRecent]
  split
  case isTrue => rfl
  case isFalse =>
    dsimp only
    split
    · rw [evictRecentGroup]
      split <;> rfl
    · rfl

theorem recordAll_config (performer : CachedPerformer) (calls : List (String × String)) :
    (performer.recordAll calls).config = performer.config := by
  induction calls using List.reverseRecOn with
  | nil => rfl
  | append_singleton calls call ih => rw [recordAll_concat, recordRecent_config, ih]

/-- Every run recalls the groups that it touched. -/
theorem recordAll_recalls (hany : recallsAny config = true) (calls : List (String × String)) :
    ((new assets scheduler config).recordAll calls).Recalls (touched calls) := by
  induction calls using List.reverseRecOn with
  | nil => exact new_recalls assets scheduler config
  | append_singleton calls call ih =>
    rw [recordAll_concat, touched_concat]
    refine ih.recordRecent ?_ call.1 call.2
    rwa [recordAll_config]

theorem recordAll_of_not_recallsAny (hany : recallsAny config = false)
    (calls : List (String × String)) :
    (new assets scheduler config).recordAll calls = new assets scheduler config := by
  induction calls using List.reverseRecOn with
  | nil => rfl
  | append_singleton calls call ih =>
    rw [recordAll_concat, ih]
    exact recordRecent_of_not_recallsAny hany call.1 call.2

/-- The groups of the two maps are the same, and both bounds hold. -/
structure Bounded (performer : CachedPerformer) : Prop where
  keys : ∀ group, group ∈ performer.recentByGroup ↔ group ∈ performer.recentGroupTouch
  groups : performer.recentByGroup.size ≤ performer.config.maxRecentVariantGroups
  variants : ∀ (group : String) (recent : List String),
    performer.recentByGroup[group]? = some recent →
      recent.length ≤ performer.config.recentVariantWindow

/-- After some calls, another one takes a group away. -/
def Evicts (performer : CachedPerformer) (group assetId victim : String) : Prop :=
  victim ∈ performer.recentByGroup ∧
    victim ∉ (performer.recordRecent group assetId).recentByGroup

/-- The group that goes makes room at the bound.  All others were touched after it, on a clock of
64 bits on which the lesser of two groups that were touched at the same time goes first. -/
structure LeastTouched (performer : CachedPerformer) (uses : List String)
    (group victim : String) : Prop where
  new : group ∉ performer.recentByGroup
  full : performer.recentByGroup.size = performer.config.maxRecentVariantGroups
  least : ∀ other ∈ performer.recentByGroup, other ≠ victim →
    toLex (stamp uses victim, victim) < toLex (stamp uses other, other)
  /-- No two touches share a time yet. -/
  oldest : uses.length ≤ 2 ^ 64 → ∀ other ∈ performer.recentByGroup, other ≠ victim →
    Precedes uses victim other

theorem Recalls.touch_eq (h : performer.Recalls uses) (hgroup : group ∈ performer.recentByGroup) :
    (performer.recentGroupTouch[group]?).getD 0 = stamp uses group := by
  obtain ⟨touch, htouch⟩ := exists_getElem? ((h.keys group).mp hgroup)
  rw [htouch]
  exact (h.timed group touch htouch).2

theorem Recalls.leastTouched (h : performer.Recalls uses)
    (hany : recallsAny performer.config = true) (hevicts : performer.Evicts group assetId victim) :
    performer.LeastTouched uses group victim := by
  obtain ⟨hbound, hleast⟩ := h.evicts hany hevicts.1 hevicts.2
  rw [atBound, Bool.and_eq_true, Bool.not_eq_true', decide_eq_true_eq] at hbound
  constructor
  case new =>
    intro hgroup
    rw [ExtTreeMap.contains_iff_mem.mpr hgroup] at hbound
    exact Bool.true_eq_false_eq_False hbound.1
  case full => exact Nat.le_antisymm h.groups hbound.2
  case least =>
    intro other hother hne
    have hless := hleast.least other ((h.keys other).mp hother) hne
    rwa [h.touch_eq hother, h.touch_eq hevicts.1] at hless
  case oldest =>
    intro hclock other hother hne
    exact h.timed.precedes Function.injective_id hclock hleast ((h.keys other).mp hother) hne

/-- **Recent variants.**  After every sequence of calls, the variants and the touches have the same
groups, the bounds hold, and a group goes only at the bound, as the one with the least touch. -/
theorem recent_variants (assets : AssetStore) (scheduler : Scheduler)
    (config : CachedPlaybackConfig) (calls : List (String × String)) :
    ((new assets scheduler config).recordAll calls).Bounded ∧
      ∀ group assetId victim,
        ((new assets scheduler config).recordAll calls).Evicts group assetId victim →
          ((new assets scheduler config).recordAll calls).LeastTouched (touched calls)
            group victim := by
  cases hany : recallsAny config with
  | true =>
    have hrecalls := @recordAll_recalls assets scheduler config hany calls
    refine ⟨⟨hrecalls.keys, hrecalls.groups, hrecalls.variants⟩, ?_⟩
    intro group assetId victim hevicts
    refine hrecalls.leastTouched ?_ hevicts
    rwa [recordAll_config]
  | false =>
    rw [recordAll_of_not_recallsAny hany]
    have hnew := new_recalls assets scheduler config
    refine ⟨⟨hnew.keys, hnew.groups, hnew.variants⟩, ?_⟩
    rintro group assetId victim ⟨hvictim, -⟩
    exact absurd hvictim ExtTreeMap.not_mem_empty

/-! ## When the clock has run out -/

/-- Where there is room, the group joins the others. -/
theorem recordRecent_of_room (hany : recallsAny performer.config = true)
    (hroom : performer.atBound group = false) (assetId : String) :
    (∀ other, other ∈ (performer.recordRecent group assetId).recentByGroup ↔
        other = group ∨ other ∈ performer.recentByGroup) ∧
      (performer.recordRecent group assetId).recentByGroup.size =
        if group ∈ performer.recentByGroup then performer.recentByGroup.size
        else performer.recentByGroup.size + 1 := by
  have hmade : (performer.madeRoom group).recentByGroup = performer.recentByGroup := by
    rw [madeRoom, if_neg (Bool.not_eq_true _ ▸ hroom)]
  rw [recordRecent_eq hany]
  dsimp only
  rw [hmade, ExtTreeMap.size_insert]
  refine ⟨fun other ↦ ?_, ?_⟩
  · rw [ExtTreeMap.mem_insert, Std.LawfulEqCmp.compare_eq_iff_eq, eq_comm]
  · simp only [ExtTreeMap.contains_iff_mem]

/-- One variant of each of two groups. -/
def twoGroups : CachedPlaybackConfig where
  recentVariantWindow := 1
  maxRecentVariantGroups := 2

/-- A performer that has recalled nothing yet. -/
def silent : CachedPerformer :=
  new (.new "assets" ⟨"1", none, none, none, none⟩ fun _ ↦ 1) (.new .default) twoGroups

/-- A group is touched again and again, then another one, and then the first again. -/
def greetings (n : Nat) : List (String × String) :=
  .replicate n ("greeting", "variant") ++ [("laugh", "variant"), ("greeting", "variant")]

theorem atBound_eq_false (hsize : performer.recentByGroup.size < 2)
    (hconfig : performer.config = twoGroups) (group : String) :
    performer.atBound group = false := by
  rw [atBound, hconfig, Bool.and_eq_false_iff, decide_eq_false_iff_not]
  exact .inr (Nat.not_le.mpr hsize)

theorem recordAll_greeting (n : Nat) :
    (∀ other,
        other ∈ (silent.recordAll (.replicate (n + 1) ("greeting", "variant"))).recentByGroup ↔
          other = "greeting") ∧
      (silent.recordAll (.replicate (n + 1) ("greeting", "variant"))).recentByGroup.size = 1 := by
  induction n with
  | zero =>
    have hempty : silent.recentByGroup.size < 2 := Nat.zero_lt_two
    have hroom : silent.atBound "greeting" = false := atBound_eq_false hempty rfl _
    obtain ⟨hmem, hsize⟩ := @recordRecent_of_room silent _ rfl hroom "variant"
    refine ⟨fun other ↦ (hmem other).trans ?_, hsize.trans (if_neg ExtTreeMap.not_mem_empty)⟩
    exact or_iff_left ExtTreeMap.not_mem_empty
  | succ n ih =>
    rw [List.replicate_succ', recordAll_concat]
    obtain ⟨hmem, hsize⟩ := ih
    have hconfig := recordAll_config silent (.replicate (n + 1) ("greeting", "variant"))
    generalize silent.recordAll (.replicate (n + 1) ("greeting", "variant")) = performer
      at hmem hsize hconfig
    have hroom : performer.atBound "greeting" = false :=
      atBound_eq_false (by rw [hsize]; exact Nat.one_lt_two) hconfig _
    have hany : recallsAny performer.config = true := by
      rw [hconfig]
      rfl
    obtain ⟨hmem', hsize'⟩ := recordRecent_of_room hany hroom "variant"
    refine ⟨fun other ↦ ?_, ?_⟩
    · rw [hmem', hmem, or_self]
    · rw [hsize', if_pos ((hmem _).mpr rfl), hsize]

/-- Both groups are recalled. -/
theorem recordAll_both (n : Nat) :
    (∀ other, other ∈ (silent.recordAll (greetings (n + 1))).recentByGroup ↔
        other = "greeting" ∨ other = "laugh") ∧
      (silent.recordAll (greetings (n + 1))).recentByGroup.size = 2 := by
  obtain ⟨hmem, hsize⟩ := recordAll_greeting n
  have hconfig := recordAll_config silent (.replicate (n + 1) ("greeting", "variant"))
  rw [greetings, recordAll_append]
  generalize silent.recordAll (.replicate (n + 1) ("greeting", "variant")) = performer
    at hmem hsize hconfig
  show (∀ other, other ∈ ((performer.recordRecent "laugh" "variant").recordRecent "greeting"
    "variant").recentByGroup ↔ _) ∧ ((performer.recordRecent "laugh" "variant").recordRecent
      "greeting" "variant").recentByGroup.size = 2
  have hany : recallsAny performer.config = true := by
    rw [hconfig]
    rfl
  have hroom : performer.atBound "laugh" = false :=
    atBound_eq_false (by rw [hsize]; exact Nat.one_lt_two) hconfig _
  obtain ⟨hlaugh, hlaughSize⟩ := recordRecent_of_room hany hroom "variant"
  have hnew : "laugh" ∉ performer.recentByGroup := by
    rw [hmem]
    decide
  have hconfig' := recordRecent_config performer "laugh" "variant"
  generalize performer.recordRecent "laugh" "variant" = next at hlaugh hlaughSize hconfig'
  have hgreeting : "greeting" ∈ next.recentByGroup := (hlaugh _).mpr (.inr ((hmem _).mpr rfl))
  have hroom' : next.atBound "greeting" = false := by
    rw [atBound, ExtTreeMap.contains_iff_mem.mpr hgreeting]
    rfl
  obtain ⟨hboth, hbothSize⟩ := recordRecent_of_room (hconfig' ▸ hany) hroom' "variant"
  refine ⟨fun other ↦ ?_, ?_⟩
  · rw [hboth, hlaugh, hmem]
    tauto
  · rw [hbothSize, if_pos hgreeting, hlaughSize, if_neg hnew, hsize]

theorem touched_greetings (n : Nat) :
    touched (greetings n) = "greeting" :: "laugh" :: .replicate n "greeting" := by
  rw [touched, greetings, List.map_append, List.map_replicate, List.reverse_append,
    List.reverse_replicate]
  rfl

/-- At the last tick the lesser group goes, though the other one was touched before it. -/
theorem evicts_newer {n : Nat} (hn : u64Max ≤ n + 1) :
    (silent.recordAll (greetings (n + 1))).Evicts "praise" "variant" "greeting" ∧
      "laugh" ∈ (silent.recordAll (greetings (n + 1))).recentByGroup ∧
      Precedes (touched (greetings (n + 1))) "laugh" "greeting" := by
  obtain ⟨hmem, hsize⟩ := recordAll_both n
  have hany : recallsAny (silent.recordAll (greetings (n + 1))).config = true := by
    rw [recordAll_config]
    rfl
  have hrecalls : (silent.recordAll (greetings (n + 1))).Recalls (touched (greetings (n + 1))) :=
    recordAll_recalls rfl _
  have hbound : (silent.recordAll (greetings (n + 1))).atBound "praise" = true := by
    rw [atBound, recordAll_config, hsize, Bool.and_eq_true, Bool.not_eq_true', ← Bool.not_eq_true,
      ExtTreeMap.contains_iff_mem, hmem]
    decide
  have hnewer : stamp (touched (greetings (n + 1))) "greeting" = u64Max := by
    rw [touched_greetings, stamp_cons_self, List.length_cons, List.length_replicate]
    exact Nat.min_eq_right (Nat.le_succ_of_le hn)
  have holder : stamp (touched (greetings (n + 1))) "laugh" = u64Max := by
    rw [touched_greetings, stamp_cons_of_ne (by decide), stamp_cons_self, List.length_replicate]
    exact Nat.min_eq_right hn
  obtain ⟨hroom, -⟩ | ⟨-, victim, hleast, hmade⟩ := hrecalls.madeRoom_cases hany "praise"
  · cases hroom.symm.trans hbound
  have hgreeting : "greeting" = victim := by
    by_contra hne
    have hvictim := (hrecalls.keys victim).mpr hleast.mem
    obtain rfl : victim = "laugh" := ((hmem victim).mp hvictim).resolve_left (Ne.symm hne)
    have hmember := (hmem "greeting").mpr (.inl rfl)
    have hless := hleast.least "greeting" ((hrecalls.keys _).mp hmember) hne
    rw [hrecalls.touch_eq hmember, hrecalls.touch_eq hvictim, hnewer, holder,
      Prod.Lex.toLex_lt_toLex] at hless
    rcases hless with hless | ⟨-, hless⟩
    · exact lt_irrefl _ hless
    · exact absurd hless (by decide)
  refine ⟨⟨(hmem _).mpr (.inl rfl), ?_⟩, (hmem _).mpr (.inr rfl), ?_⟩
  · rw [recordRecent_eq hany]
    dsimp only
    rw [hmade, ExtTreeMap.mem_insert, ExtTreeMap.mem_erase, Std.LawfulEqCmp.compare_eq_iff_eq]
    rintro (heq | ⟨hne, -⟩)
    · exact absurd heq (by decide)
    · exact hne (Std.LawfulEqCmp.compare_eq_iff_eq.mpr hgreeting.symm)
  · refine ⟨n + 1, n + 2, ?_, ?_, Nat.lt_succ_self _⟩
    · rw [touched_greetings, lastUse_cons_of_ne (by decide), lastUse_cons_self,
        List.length_replicate]
    · rw [touched_greetings, lastUse_cons_self, List.length_cons, List.length_replicate]

/-- **When the clock has run out**, a group goes though another one was touched before it. -/
theorem newer_group_evicted :
    (silent.recordAll (greetings (u64Max + 1))).Evicts "praise" "variant" "greeting" ∧
      "laugh" ∈ (silent.recordAll (greetings (u64Max + 1))).recentByGroup ∧
      Precedes (touched (greetings (u64Max + 1))) "laugh" "greeting" :=
  evicts_newer (Nat.le_succ _)

end CachedPerformer

end Aivtuber
