import Aivtuber.Adaptation.LinkGraph
import Aivtuber.Adaptation.Ranking

/-!
# Linked recall

`relevantLinked` cuts the order of its matches, drops those of other actors, and fills the rest
of its limit one link away.  The matches of the queried actor lead the order, so that the cut
and the scope commute (`filter_take`), and a larger limit shows more behind the same
(`relevantLinked_isPrefix`).
-/

namespace Aivtuber

/-- Where what is kept comes first, it is kept before a cut as behind it. -/
theorem filter_take {α : Type} {p : α → Bool} {items : List α}
    (h : items.Pairwise fun left right ↦ p right = true → p left = true) (count : Nat) :
    (items.take count).filter p = (items.filter p).take count := by
  induction items generalizing count with
  | nil => rw [List.take_nil, List.filter_nil, List.take_nil]
  | cons item items ih =>
    obtain ⟨hfirst, hrest⟩ := List.pairwise_cons.mp h
    cases count with
    | zero => rfl
    | succ count =>
      rw [List.take_succ_cons]
      by_cases hitem : p item = true
      · rw [List.filter_cons_of_pos hitem, List.filter_cons_of_pos hitem, List.take_succ_cons,
          ih hrest]
      · -- nothing behind is kept either
        have hnone : items.filter p = [] := by
          refine List.filter_eq_nil_iff.mpr fun other hother hkept ↦ ?_
          exact hitem (hfirst other hother hkept)
        rw [List.filter_cons_of_neg hitem, List.filter_cons_of_neg hitem, ih hrest, hnone,
          List.take_nil, List.take_nil]

namespace WorkingMemory

variable {memory : WorkingMemory} {primitives : MemoryPrimitives} {query : MemoryQuery}
  {nowMs : Nat} {entry : MemoryEntry} {result : LinkedMemory} {actor : Option String}
  {live selected : List Nat} {steps : List (MemoryEntry × MemoryLink)} {room : Nat}

/-! ## The order of matches -/

/-- An entry is what a query asks for. -/
def isMatch (primitives : MemoryPrimitives) (actor topic : Option String) (entry : MemoryEntry) :
    Bool :=
  (actor.isNone && topic.isNone) || actorMatches actor entry || topicMatches primitives topic entry

def matchRank (primitives : MemoryPrimitives) (actor topic : Option String) (entry : MemoryEntry) :
    List Nat :=
  [(actorMatches actor entry).toNat, (topicMatches primitives topic entry).toNat,
    entry.createdAtMs, entry.memoryId]

/-- The matches of a query, in order. -/
def matchRanking (memory : WorkingMemory) (primitives : MemoryPrimitives) (query : MemoryQuery)
    (nowMs : Nat) : List MemoryEntry :=
  let actor := memory.queriedActor primitives query
  let topic := query.topic.map (normalize primitives)
  ((memory.liveEntries nowMs).filter (isMatch primitives actor topic)).mergeSort fun left right ↦
    descending (matchRank primitives actor topic left) (matchRank primitives actor topic right)

theorem relevant_eq_take (h : isUnanswerable query = false) :
    memory.relevant primitives query nowMs =
      (memory.matchRanking primitives query nowMs).take query.limit := by
  rw [relevant]
  split
  case isTrue hlimit => rw [hlimit, List.take_zero]
  case isFalse => rw [if_neg (ne_true_of_eq_false h)]; rfl

/-- The matches of the queried actor lead. -/
theorem matchRanking_scope : (memory.matchRanking primitives query nowMs).Pairwise
    fun left right ↦ inActorScope (memory.queriedActor primitives query) right = true →
      inActorScope (memory.queriedActor primitives query) left = true := by
  refine (pairwise_mergeSort_descending _ _).imp fun {left right} hnot hright ↦ ?_
  cases hactor : memory.queriedActor primitives query with
  | none => rfl
  | some scope =>
    rw [hactor] at hnot hright
    have hmatches (entry : MemoryEntry) :
        inActorScope (some scope) entry = actorMatches (some scope) entry := by
      rw [inActorScope, actorMatches, Option.isNone_some, Option.isSome_some, Bool.false_or,
        Bool.true_and, decide_eq_decide]
      exact eq_comm
    rw [hmatches] at hright ⊢
    by_contra hleft
    rw [Bool.not_eq_true] at hleft
    apply hnot
    rw [matchRank, matchRank, hleft, hright]
    exact List.Lex.rel (by decide)

/-- The matches in scope, in order. -/
def scopedRanking (memory : WorkingMemory) (primitives : MemoryPrimitives) (query : MemoryQuery)
    (nowMs : Nat) : List MemoryEntry :=
  (memory.matchRanking primitives query nowMs).filter
    (inActorScope (memory.queriedActor primitives query))

theorem relevant_filter_eq (h : isUnanswerable query = false) :
    (memory.relevant primitives query nowMs).filter
        (inActorScope (memory.queriedActor primitives query)) =
      (memory.scopedRanking primitives query nowMs).take query.limit := by
  rw [relevant_eq_take h, filter_take matchRanking_scope]
  rfl

theorem mem_scopedRanking (h : entry ∈ memory.scopedRanking primitives query nowMs) :
    entry ∈ memory.liveEntries nowMs ∧
      inActorScope (memory.queriedActor primitives query) entry = true := by
  obtain ⟨hmatch, hscope⟩ := List.mem_filter.mp h
  exact ⟨(List.mem_filter.mp (List.mem_mergeSort.mp hmatch)).1, hscope⟩

theorem Sequenced.nodup_liveEntries (hs : memory.Sequenced) :
    ((memory.liveEntries nowMs).map MemoryEntry.memoryId).Nodup := by
  refine List.pairwise_map.mpr ((hs.ordered.filter _).imp ?_)
  intro earlier later hlt
  exact Nat.ne_of_lt hlt

theorem Sequenced.nodup_scopedRanking (hs : memory.Sequenced) :
    ((memory.scopedRanking primitives query nowMs).map MemoryEntry.memoryId).Nodup := by
  have hmatches : (((memory.liveEntries nowMs).filter (isMatch primitives
      (memory.queriedActor primitives query) (query.topic.map (normalize primitives)))).map
        MemoryEntry.memoryId).Nodup :=
    hs.nodup_liveEntries.sublist (List.filter_sublist.map _)
  refine List.Nodup.sublist (List.filter_sublist.map _) ?_
  exact ((List.mergeSort_perm _ _).map MemoryEntry.memoryId).nodup_iff.mpr hmatches

/-! ## One link away -/

theorem length_hop_le (steps : List (MemoryEntry × MemoryLink)) (selected : List Nat) (room : Nat) :
    (memory.hop actor live nowMs steps selected room).length ≤ room := by
  fun_induction hop memory actor live nowMs steps selected room with
  | case1 => exact Nat.zero_le _
  | case2 => exact Nat.zero_le _
  | case3 _ _ _ _ _ _ _ ih => exact ih
  | case4 selected entry link rest room other node hfound hlive ih => exact Nat.succ_le_succ ih
  | case5 _ _ _ _ _ _ _ _ _ ih => exact ih

/-- With more room, more is found behind the same. -/
theorem hop_isPrefix {larger : Nat} (h : room ≤ larger) :
    memory.hop actor live nowMs steps selected room <+:
      memory.hop actor live nowMs steps selected larger := by
  induction steps generalizing selected room larger with
  | nil =>
    rw [hop, hop]
  | cons step steps ih =>
    obtain ⟨entry, link⟩ := step
    cases room with
    | zero => simp only [hop, List.nil_prefix]
    | succ room =>
      obtain ⟨larger, rfl⟩ : ∃ count, larger = count + 1 := ⟨larger - 1, by omega⟩
      simp only [hop]
      cases memory.entries.find? (·.memoryId = otherEnd entry link) with
      | none => exact ih h
      | some node =>
        dsimp only
        split
        · exact (List.prefix_cons_inj _).mpr (ih (Nat.le_of_succ_le_succ h))
        · exact ih h

/-- One link away are nodes that are not selected yet, each once. -/
theorem hop_fresh (steps : List (MemoryEntry × MemoryLink)) (selected : List Nat) (room : Nat) :
    let found := (memory.hop actor live nowMs steps selected room).map (·.entry.memoryId)
    found.Nodup ∧ ∀ id ∈ found, id ∉ selected := by
  fun_induction hop memory actor live nowMs steps selected room with
  | case1 => exact ⟨List.nodup_nil, fun _ hid ↦ by cases hid⟩
  | case2 => exact ⟨List.nodup_nil, fun _ hid ↦ by cases hid⟩
  | case3 _ _ _ _ _ _ _ ih => exact ih
  | case4 selected entry link rest room other node hfound hlive ih =>
    obtain ⟨hnodup, hfresh⟩ := ih
    have hid := List.find?_some hfound
    rw [decide_eq_true_eq] at hid
    have hview : (memory.linked live nowMs node).entry.memoryId = other := hid
    rw [List.map_cons, hview]
    constructor
    · exact List.nodup_cons.mpr ⟨fun hagain ↦ hfresh other hagain List.mem_cons_self, hnodup⟩
    · intro id hmem
      rcases List.mem_cons.mp hmem with rfl | hlater
      · exact hlive.2.2
      · exact fun hselected ↦ hfresh id hlater (List.mem_cons_of_mem _ hselected)
  | case5 _ _ _ _ _ _ _ _ _ ih => exact ih

/-- One link away are views of retained nodes in scope. -/
theorem mem_hop_entries (h : result ∈ memory.hop actor live nowMs steps selected room) :
    ∃ entry ∈ memory.entries, entry.memoryId ∈ live ∧ inActorScope actor entry = true ∧
      result = memory.linked live nowMs entry := by
  fun_induction hop memory actor live nowMs steps selected room with
  | case1 => cases h
  | case2 => cases h
  | case3 _ _ _ _ _ _ _ ih => exact ih h
  | case4 selected entry link rest room other node hfound hlive ih =>
    rcases List.mem_cons.mp h with rfl | hlater
    · have hid := List.find?_some hfound
      rw [decide_eq_true_eq] at hid
      refine ⟨node, List.mem_of_find?_eq_some hfound, ?_, hlive.2.1, rfl⟩
      rw [hid]
      exact hlive.1
    · exact ih hlater
  | case5 _ _ _ _ _ _ _ _ _ ih => exact ih h

/-! ## The whole result -/

/-- What a linked recall shows of direct matches, and one link away from them. -/
theorem relevantLinked_eq (h : isUnanswerable query = false) :
    memory.relevantLinked primitives query nowMs =
      let live := memory.liveIds nowMs
      let matched := ((memory.scopedRanking primitives query nowMs).take query.limit).map
        (memory.linked live nowMs)
      matched ++ memory.hop (memory.queriedActor primitives query) live nowMs
        (matched.flatMap fun result ↦ result.links.map fun link ↦ (result.entry, link))
        (matched.map (·.entry.memoryId)) (query.limit - matched.length) := by
  rw [relevantLinked, if_neg (ne_true_of_eq_false h)]
  dsimp only
  rw [relevant_filter_eq h]

/-- A larger limit shows more behind the same. -/
theorem relevantLinked_isPrefix {limit : Nat} (h : query.limit ≤ limit) :
    memory.relevantLinked primitives query nowMs <+:
      memory.relevantLinked primitives { query with limit } nowMs := by
  cases hanswerable : isUnanswerable query with
  | true =>
    rw [relevantLinked, if_pos hanswerable]
    exact List.nil_prefix
  | false =>
    have hranking : memory.scopedRanking primitives { query with limit } nowMs =
        memory.scopedRanking primitives query nowMs := rfl
    have hactor : memory.queriedActor primitives { query with limit } =
        memory.queriedActor primitives query := rfl
    have hlarger : isUnanswerable { query with limit } = false := hanswerable
    rw [relevantLinked_eq hanswerable, relevantLinked_eq hlarger, hranking, hactor]
    dsimp only
    by_cases hlimit : query.limit ≤ (memory.scopedRanking primitives query nowMs).length
    · -- the limit is filled by matches
      have hfull : query.limit - (((memory.scopedRanking primitives query nowMs).take
          query.limit).map (memory.linked (memory.liveIds nowMs) nowMs)).length = 0 := by
        rw [List.length_map, List.length_take]
        omega
      have hnone (steps : List (MemoryEntry × MemoryLink)) (selected : List Nat) :
          memory.hop (memory.queriedActor primitives query) (memory.liveIds nowMs) nowMs steps
            selected 0 = [] :=
        List.eq_nil_of_length_eq_zero (Nat.le_zero.mp (length_hop_le steps selected 0))
      rw [hfull, hnone, List.append_nil]
      exact ((List.take_prefix_take_left h).map _).trans (List.prefix_append _ _)
    · -- all matches are shown under both limits
      rw [List.take_of_length_le (by omega), List.take_of_length_le (by omega)]
      exact (List.prefix_append_right_inj _).mpr (hop_isPrefix (Nat.sub_le_sub_right h _))

/-- An entry is marked as stale when a supersession that is recorded has a live superseder. -/
theorem linked_stale_iff (hentry : entry ∈ memory.liveEntries nowMs) :
    (memory.linked (memory.liveIds nowMs) nowMs entry).stale = true ↔
      ∃ link ∈ memory.links, link.kind = .supersedes ∧ link.target = entry.memoryId ∧
        link.createdAtMs ≤ nowMs ∧ ∃ successor ∈ memory.liveEntries nowMs,
          successor.memoryId = link.source := by
  have hlive : entry.memoryId ∈ memory.liveIds nowMs := List.mem_map_of_mem hentry
  constructor
  · intro hstale
    obtain ⟨link, hincident, hshown⟩ := List.any_eq_true.mp hstale
    obtain ⟨hlink, hkept⟩ := List.mem_filter.mp hincident
    simp only [Bool.and_eq_true, Bool.or_eq_true, decide_eq_true_eq] at hkept hshown
    obtain ⟨successor, hsuccessor, hid⟩ := List.mem_map.mp hkept.1.2
    exact ⟨link, hlink, hshown.1.1, hshown.1.2, hkept.1.1.2, successor, hsuccessor, hid⟩
  · rintro ⟨link, hlink, hkind, htarget, hrecorded, successor, hsuccessor, hid⟩
    refine linked_stale hlink hkind hrecorded ?_ ?_ htarget.symm
    · rw [← hid]
      exact List.mem_map_of_mem hsuccessor
    · rw [htarget]
      exact hlive

/-- What a query may see of a view: its node is live, of the queried actor, and marked as stale
where a live node supersedes it. -/
structure Shown (memory : WorkingMemory) (primitives : MemoryPrimitives) (query : MemoryQuery)
    (nowMs : Nat) (result : LinkedMemory) : Prop where
  retained : result.entry ∈ memory.entries
  recorded : result.entry.createdAtMs ≤ nowMs
  unexpired : nowMs < result.entry.expiresAtMs
  actor : ∀ source ∈ query.sourceNamespace, ∀ actor ∈ query.actorId,
    result.entry.source.pseudonymousActorId =
      some (memory.pseudonymizer.pseudonymize primitives source actor)
  stale : result.stale = true ↔ ∃ link ∈ memory.links, link.kind = .supersedes ∧
    link.target = result.entry.memoryId ∧ link.createdAtMs ≤ nowMs ∧
      ∃ successor ∈ memory.entries, successor.memoryId = link.source ∧
        successor.createdAtMs ≤ nowMs ∧ nowMs < successor.expiresAtMs

/-- Linked recall stays within its limit and its scope, and shows more for a larger limit. -/
structure BoundedRecall (memory : WorkingMemory) (primitives : MemoryPrimitives)
    (query : MemoryQuery) (nowMs : Nat) : Prop where
  bound : (memory.relevantLinked primitives query nowMs).length ≤ query.limit
  distinct : ((memory.relevantLinked primitives query nowMs).map (·.entry.memoryId)).Nodup
  shown : ∀ result ∈ memory.relevantLinked primitives query nowMs,
    memory.Shown primitives query nowMs result
  unanswerable : query.actorId ≠ none → query.sourceNamespace = none →
    memory.relevantLinked primitives query nowMs = []
  stable : ∀ limit, query.limit ≤ limit → memory.relevantLinked primitives query nowMs <+:
    memory.relevantLinked primitives { query with limit } nowMs
  direct : (memory.relevant primitives query nowMs).filter
    (inActorScope (memory.queriedActor primitives query)) <+:
      (memory.relevantLinked primitives query nowMs).map (·.entry)

/-- Views of live nodes in scope are what a query may see. -/
theorem shown_linked (hentry : entry ∈ memory.liveEntries nowMs)
    (hscope : inActorScope (memory.queriedActor primitives query) entry = true) :
    memory.Shown primitives query nowMs (memory.linked (memory.liveIds nowMs) nowMs entry) := by
  obtain ⟨hretained, hunexpired, hrecorded⟩ := mem_liveEntries.mp hentry
  refine ⟨hretained, hrecorded, hunexpired, ?_, ?_⟩
  · intro source hsource actor hactor
    have hqueried : memory.queriedActor primitives query =
        some (memory.pseudonymizer.pseudonymize primitives source actor) := by
      rw [queriedActor, Option.mem_def.mp hsource, Option.mem_def.mp hactor]
      rfl
    rw [hqueried, inActorScope, Option.isNone_some, Bool.false_or, decide_eq_true_eq] at hscope
    exact hscope
  · rw [linked_stale_iff hentry]
    simp only [mem_liveEntries]
    constructor
    · rintro ⟨link, hlink, hkind, htarget, hrecorded, successor, ⟨hmem, hlater, hby⟩, hid⟩
      exact ⟨link, hlink, hkind, htarget, hrecorded, successor, hmem, hid, hby, hlater⟩
    · rintro ⟨link, hlink, hkind, htarget, hrecorded, successor, hmem, hid, hby, hlater⟩
      exact ⟨link, hlink, hkind, htarget, hrecorded, successor, ⟨hmem, hlater, hby⟩, hid⟩

theorem Sequenced.boundedRecall (hs : memory.Sequenced) :
    memory.BoundedRecall primitives query nowMs := by
  cases hanswerable : isUnanswerable query with
  | true =>
    have hnone : memory.relevantLinked primitives query nowMs = [] := by
      rw [relevantLinked, if_pos hanswerable]
    have hrelevant : memory.relevant primitives query nowMs = [] := by
      rw [relevant, if_pos hanswerable, ite_self]
    constructor
    · rw [hnone]
      exact Nat.zero_le _
    · rw [hnone]
      exact List.nodup_nil
    · intro result hresult
      rw [hnone] at hresult
      cases hresult
    · exact fun _ _ ↦ hnone
    · exact fun _ hlimit ↦ relevantLinked_isPrefix hlimit
    · rw [hrelevant]
      exact List.nil_prefix
  | false =>
    let matched := ((memory.scopedRanking primitives query nowMs).take query.limit).map
      (memory.linked (memory.liveIds nowMs) nowMs)
    have hmatched : matched.length ≤ query.limit := by
      rw [List.length_map]
      exact List.length_take_le _ _
    have hentries : matched.map (·.entry) =
        (memory.scopedRanking primitives query nowMs).take query.limit := by
      rw [List.map_map]
      exact List.map_id'' (fun _ ↦ rfl) _
    have hids : matched.map (·.entry.memoryId) =
        ((memory.scopedRanking primitives query nowMs).take query.limit).map
          MemoryEntry.memoryId := by
      have hmapped := congrArg (List.map MemoryEntry.memoryId) hentries
      rwa [List.map_map] at hmapped
    let steps := matched.flatMap fun result ↦ result.links.map fun link ↦ (result.entry, link)
    let found := memory.hop (memory.queriedActor primitives query) (memory.liveIds nowMs) nowMs
      steps (matched.map (·.entry.memoryId)) (query.limit - matched.length)
    have heq : memory.relevantLinked primitives query nowMs = matched ++ found :=
      relevantLinked_eq hanswerable
    constructor
    · rw [heq, List.length_append]
      have hhop : found.length ≤ query.limit - matched.length := length_hop_le _ _ _
      omega
    · obtain ⟨hnodup, hfresh⟩ : (found.map (·.entry.memoryId)).Nodup ∧
          ∀ id ∈ found.map (·.entry.memoryId), id ∉ matched.map (·.entry.memoryId) :=
        hop_fresh _ _ _
      rw [heq, List.map_append]
      refine List.nodup_append.mpr ⟨?_, hnodup, ?_⟩
      · rw [hids]
        exact hs.nodup_scopedRanking.sublist ((List.take_sublist _ _).map _)
      · rintro id hid other hother rfl
        exact hfresh id hother hid
    · intro result hresult
      rw [heq] at hresult
      rcases List.mem_append.mp hresult with hdirect | hhop
      · obtain ⟨entry, hentry, rfl⟩ := List.mem_map.mp hdirect
        obtain ⟨hlive, hscope⟩ := mem_scopedRanking (List.mem_of_mem_take hentry)
        exact shown_linked hlive hscope
      · obtain ⟨entry, hentry, hid, hscope, rfl⟩ := mem_hop_entries hhop
        obtain ⟨other, hother, hsame⟩ := List.mem_map.mp hid
        rw [hs.unique (mem_liveEntries.mp hother).1 hentry hsame] at hother
        exact shown_linked hother hscope
    · intro hactor hnamespace
      rw [isUnanswerable, hnamespace, Option.isSome_iff_ne_none.mpr hactor] at hanswerable
      cases hanswerable
    · exact fun _ hlimit ↦ relevantLinked_isPrefix hlimit
    · rw [relevant_filter_eq hanswerable, ← hentries, heq, List.map_append]
      exact List.prefix_append _ _

/-- **Linked recall.**  In every state of a run, what a query is shown is within its limit, without
duplicates, live and of the queried actor; it is marked as stale exactly where a live node
supersedes it; and a larger limit only adds to it. -/
theorem linked_recall_bounded (primitives : MemoryPrimitives) {config : WorkingMemoryConfig}
    {pseudonymizer : ActorPseudonymizer} (h : new config pseudonymizer = .ok memory)
    (ops : List Op) (query : MemoryQuery) (nowMs : Nat) :
    ((machine primitives).run memory ops).BoundedRecall primitives query nowMs :=
  (run_invariants primitives h ops).2.1.boundedRecall

theorem linked_recall_bounded_correctedClaim :
    ∃ memory, new .default ⟨"v1", List.replicate 32 1⟩ = .ok memory ∧
      ((machine .ascii).run memory correctedClaim).BoundedRecall .ascii ⟨none, none, none, 4⟩ 30 := by
  refine ⟨_, rfl, ?_⟩
  have hnew : new .default ⟨"v1", List.replicate 32 1⟩ = .ok _ := rfl
  exact linked_recall_bounded .ascii hnew correctedClaim ⟨none, none, none, 4⟩ 30

end WorkingMemory

end Aivtuber
