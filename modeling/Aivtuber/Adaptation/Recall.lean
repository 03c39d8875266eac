import Aivtuber.Adaptation.WorkingMemory

/-!
# Recall

The reads of `WorkingMemory`.  A read at an instant sees what was recorded by then and is
not expired.  `relevant` ranks entries by actor, topic and record time; `relevantLinked`
joins them with their links and the nodes one link away; `contextFor` gives what a
generation may see, without the claims that a live one supersedes.
-/

namespace Aivtuber

structure MemoryQuery where
  sourceNamespace : Option String
  actorId : Option String
  topic : Option String
  limit : Nat
deriving DecidableEq, Repr

/-- An entry with its links, and whether a live entry supersedes it. -/
structure LinkedMemory where
  entry : MemoryEntry
  stale : Bool
  links : List MemoryLink
  vocabVersion : String
  epistemicVersion : String
deriving DecidableEq, Repr

/-- Keys in descending order, the first one first. -/
def descending (left right : List Nat) : Bool := !decide (left < right)

namespace WorkingMemory

/-- The entries that a read at `nowMs` sees. -/
def liveEntries (memory : WorkingMemory) (nowMs : Nat) : List MemoryEntry :=
  memory.entries.filter (·.live nowMs)

def liveIds (memory : WorkingMemory) (nowMs : Nat) : List Nat :=
  (memory.liveEntries nowMs).map MemoryEntry.memoryId

/-- The actor of a query, under its pseudonym. -/
def queriedActor (memory : WorkingMemory) (primitives : MemoryPrimitives) (query : MemoryQuery) :
    Option String :=
  query.sourceNamespace.bind fun source ↦
    query.actorId.map (memory.pseudonymizer.pseudonymize primitives source)

/-- An actor without the namespace of its pseudonym cannot be looked for. -/
def isUnanswerable (query : MemoryQuery) : Bool :=
  query.actorId.isSome && query.sourceNamespace.isNone

def actorMatches (actor : Option String) (entry : MemoryEntry) : Bool :=
  actor.isSome && actor = entry.source.pseudonymousActorId

def topicMatches (primitives : MemoryPrimitives) (topic : Option String) (entry : MemoryEntry) :
    Bool :=
  topic.isSome && topic = entry.topic.map (normalize primitives)

/-- Ranked matches. -/
def relevant (memory : WorkingMemory) (primitives : MemoryPrimitives) (query : MemoryQuery)
    (nowMs : Nat) : List MemoryEntry :=
  if query.limit = 0 then []
  else if isUnanswerable query then []
  else
    let actor := memory.queriedActor primitives query
    let topic := query.topic.map (normalize primitives)
    let ranked := (memory.liveEntries nowMs).filter fun entry ↦
      (actor.isNone && topic.isNone) || actorMatches actor entry ||
        topicMatches primitives topic entry
    let rank (entry : MemoryEntry) := [(actorMatches actor entry).toNat,
      (topicMatches primitives topic entry).toNat, entry.createdAtMs, entry.memoryId]
    (ranked.mergeSort fun left right ↦ descending (rank left) (rank right)).take query.limit

/-! ## Links -/

/-- The links of a node that are recorded by `nowMs`, between live nodes. -/
def incident (memory : WorkingMemory) (memoryId : Nat) (live : List Nat) (nowMs : Nat) :
    List MemoryLink :=
  memory.links.filter fun link ↦
    (link.source = memoryId || link.target = memoryId) && link.createdAtMs ≤ nowMs &&
      decide (link.source ∈ live) && decide (link.target ∈ live)

/-- The links of one kind: explicit ones newest first, derived ones as they were created. -/
def ordered (incident : List MemoryLink) (kind : MemoryLinkKind) : List MemoryLink :=
  let links := incident.filter (·.kind = kind)
  let rank (link : MemoryLink) := [link.createdAtMs, link.source, link.target]
  if kind = .temporalBefore then links
  else links.mergeSort fun left right ↦ descending (rank left) (rank right)

/-- Whether a live node supersedes this one, and at most `cap` of its links. -/
def linkView (memory : WorkingMemory) (memoryId : Nat) (live : List Nat) (cap nowMs : Nat) :
    Bool × List MemoryLink :=
  let incident := memory.incident memoryId live nowMs
  let stale := incident.any fun link ↦
    link.kind = .supersedes && link.target = memoryId && decide (link.source ∈ live)
  (stale, ([.supersedes, .causedBy, .temporalBefore].flatMap (ordered incident)).take cap)

/-- An entry with its view. -/
def linked (memory : WorkingMemory) (live : List Nat) (nowMs : Nat) (entry : MemoryEntry) :
    LinkedMemory :=
  let (stale, links) :=
    memory.linkView entry.memoryId live memory.config.maxLinksPerMemory nowMs
  { entry
    stale
    links
    vocabVersion := memoryLinkVocabVersion
    epistemicVersion := entry.epistemicVersion }

/-- An entry is in the scope of a query that names no actor, or this one. -/
def inActorScope (actor : Option String) (entry : MemoryEntry) : Bool :=
  actor.isNone || entry.source.pseudonymousActorId = actor

/-- The node at the other end of a link. -/
def otherEnd (entry : MemoryEntry) (link : MemoryLink) : Nat :=
  if link.source = entry.memoryId then link.target else link.source

/-- The nodes one link away, in the order of the links that lead there, until `room` of them
are found. -/
def hop (memory : WorkingMemory) (actor : Option String) (live : List Nat) (nowMs : Nat) :
    List (MemoryEntry × MemoryLink) → List Nat → Nat → List LinkedMemory
  | [], _, _ => []
  | _, _, 0 => []
  | (entry, link) :: rest, selected, room + 1 =>
    let other := otherEnd entry link
    match memory.entries.find? (·.memoryId = other) with
    | none => hop memory actor live nowMs rest selected (room + 1)
    | some node =>
      if other ∈ live ∧ inActorScope actor node = true ∧ other ∉ selected then
        memory.linked live nowMs node ::
          hop memory actor live nowMs rest (other :: selected) room
      else hop memory actor live nowMs rest selected (room + 1)

def relevantLinked (memory : WorkingMemory) (primitives : MemoryPrimitives) (query : MemoryQuery)
    (nowMs : Nat) : List LinkedMemory :=
  if isUnanswerable query then []
  else
    let actor := memory.queriedActor primitives query
    let live := memory.liveIds nowMs
    let matched := ((memory.relevant primitives query nowMs).filter (inActorScope actor)).map
      (memory.linked live nowMs)
    let steps := matched.flatMap fun result ↦ result.links.map fun link ↦ (result.entry, link)
    let selected := matched.map (·.entry.memoryId)
    matched ++ memory.hop actor live nowMs steps selected (query.limit - matched.length)

/-! ## Generation contexts -/

/-- The first recorded supersession of a node by a live one. -/
def correctionOf (memory : WorkingMemory) (nowMs : Nat) (id : Nat) : Option Nat :=
  let correction := memory.links.find? fun link ↦
    link.kind = .supersedes && link.createdAtMs ≤ nowMs && link.target = id &&
      memory.entries.any fun entry ↦ entry.memoryId = link.source && entry.live nowMs
  correction.map MemoryLink.source

/-- The claims of the current speaker, and those that are shared and nobody else's. -/
def inScope (actorScope : Option String) (entry : MemoryEntry) : Bool :=
  let owner := entry.source.pseudonymousActorId
  let ownClaim := actorScope.isSome && owner = actorScope
  let shared := sourceClassIsShared entry.source.sourceClass && (owner.isNone || actorScope = owner)
  ownClaim || shared

def contextFor (memory : WorkingMemory) (primitives : MemoryPrimitives) (sourceNamespace : String)
    (actorId topic : Option String) (limit nowMs : Nat) : List MemoryEntry :=
  if limit = 0 then []
  else
    let actorScope := actorId.map (memory.pseudonymizer.pseudonymize primitives sourceNamespace)
    let topic := topic.map (normalize primitives)
    let visible := memory.liveEntries nowMs
    let promoted := (visible.filter (topicMatches primitives topic)).filterMap fun entry ↦
      memory.correctionOf nowMs entry.memoryId
    let ranked := visible.filter fun entry ↦
      (memory.correctionOf nowMs entry.memoryId).isNone && inScope actorScope entry
    let rank (entry : MemoryEntry) :=
      [(topicMatches primitives topic entry || decide (entry.memoryId ∈ promoted)).toNat,
        entry.createdAtMs, entry.memoryId]
    (ranked.mergeSort fun left right ↦ descending (rank left) (rank right)).take limit

/-! ## What the reads show -/

section Reads

variable {memory : WorkingMemory} {primitives : MemoryPrimitives} {entry : MemoryEntry}
  {result : LinkedMemory} {link : MemoryLink} {query : MemoryQuery} {live : List Nat} {nowMs : Nat}

theorem mem_liveEntries : entry ∈ memory.liveEntries nowMs ↔
    entry ∈ memory.entries ∧ nowMs < entry.expiresAtMs ∧ entry.createdAtMs ≤ nowMs := by
  rw [liveEntries, List.mem_filter, MemoryEntry.live, Bool.and_eq_true, decide_eq_true_eq,
    decide_eq_true_eq]

theorem mem_relevant (h : entry ∈ memory.relevant primitives query nowMs) :
    entry ∈ memory.liveEntries nowMs := by
  rw [relevant] at h
  split at h
  · cases h
  · split at h
    · cases h
    · have hranked := List.mem_mergeSort.mp (List.mem_of_mem_take h)
      exact (List.mem_filter.mp hranked).1

/-- A context has live entries that no live one supersedes. -/
theorem mem_contextFor {sourceNamespace : String} {actorId topic : Option String} {limit : Nat}
    (h : entry ∈ memory.contextFor primitives sourceNamespace actorId topic limit nowMs) :
    entry ∈ memory.liveEntries nowMs ∧ memory.correctionOf nowMs entry.memoryId = none ∧
      inScope (actorId.map (memory.pseudonymizer.pseudonymize primitives sourceNamespace))
        entry = true := by
  rw [contextFor] at h
  split at h
  · cases h
  · have hranked := List.mem_mergeSort.mp (List.mem_of_mem_take h)
    obtain ⟨hlive, hscope⟩ := List.mem_filter.mp hranked
    rw [Bool.and_eq_true, Option.isNone_iff_eq_none] at hscope
    exact ⟨hlive, hscope⟩

/-- Where there is room, a context has all of them. -/
theorem mem_contextFor_of_length {sourceNamespace : String} {actorId topic : Option String}
    {limit : Nat} (hlimit : memory.entries.length < limit) (hlive : entry ∈ memory.liveEntries nowMs)
    (hcurrent : memory.correctionOf nowMs entry.memoryId = none)
    (hscope : inScope (actorId.map (memory.pseudonymizer.pseudonymize primitives sourceNamespace))
      entry = true) :
    entry ∈ memory.contextFor primitives sourceNamespace actorId topic limit nowMs := by
  rw [contextFor, if_neg (by omega)]
  dsimp only
  rw [List.take_of_length_le, List.mem_mergeSort, List.mem_filter, Bool.and_eq_true,
    Option.isNone_iff_eq_none]
  · exact ⟨hlive, hcurrent, hscope⟩
  · rw [List.length_mergeSort]
    have hshorter := List.length_filter_le (·.live nowMs) memory.entries
    exact ((List.length_filter_le _ _).trans hshorter).trans (Nat.le_of_lt hlimit)

/-- One link away are views of live nodes. -/
theorem mem_hop {actor : Option String} {steps : List (MemoryEntry × MemoryLink)}
    {selected : List Nat} {room : Nat}
    (h : result ∈ memory.hop actor live nowMs steps selected room) :
    ∃ entry, entry.memoryId ∈ live ∧ result = memory.linked live nowMs entry := by
  fun_induction hop memory actor live nowMs steps selected room with
  | case1 => cases h
  | case2 => cases h
  | case3 _ _ _ _ _ _ _ ih => exact ih h
  | case4 selected entry link rest room other node hfound hlive ih =>
    have hid := List.find?_some hfound
    rw [decide_eq_true_eq] at hid
    rcases List.mem_cons.mp h with rfl | hlater
    · refine ⟨node, ?_, rfl⟩
      rw [hid]
      exact hlive.1
    · exact ih hlater
  | case5 _ _ _ _ _ _ _ _ _ ih => exact ih h

theorem mem_relevantLinked (h : result ∈ memory.relevantLinked primitives query nowMs) :
    ∃ entry, entry.memoryId ∈ memory.liveIds nowMs ∧
      result = memory.linked (memory.liveIds nowMs) nowMs entry := by
  rw [relevantLinked] at h
  split at h
  · cases h
  · rcases List.mem_append.mp h with hmatched | hhop
    · obtain ⟨entry, hentry, rfl⟩ := List.mem_map.mp hmatched
      have hlive := mem_relevant (List.mem_filter.mp hentry).1
      exact ⟨entry, List.mem_map_of_mem hlive, rfl⟩
    · exact mem_hop hhop

/-- A view is stale when a link shows that a live node supersedes it. -/
theorem linked_stale (hlink : link ∈ memory.links) (hkind : link.kind = .supersedes)
    (hrecorded : link.createdAtMs ≤ nowMs) (hsource : link.source ∈ live)
    (htarget : link.target ∈ live) (hentry : entry.memoryId = link.target) :
    (memory.linked live nowMs entry).stale = true := by
  have hincident : link ∈ memory.incident entry.memoryId live nowMs := by
    refine List.mem_filter.mpr ⟨hlink, ?_⟩
    simp only [hentry, hrecorded, hsource, htarget, decide_true, Bool.or_true, Bool.and_self]
  refine List.any_eq_true.mpr ⟨link, hincident, ?_⟩
  simp only [hkind, hentry, hsource, decide_true, Bool.and_self]

/-- A node has a correction when a link shows that a live node supersedes it. -/
theorem correctionOf_ne_none (hlink : link ∈ memory.links) (hkind : link.kind = .supersedes)
    (hrecorded : link.createdAtMs ≤ nowMs) (hsource : link.source ∈ memory.liveIds nowMs) :
    memory.correctionOf nowMs link.target ≠ none := by
  rw [correctionOf, ne_eq, Option.map_eq_none_iff, List.find?_eq_none]
  intro hnone
  obtain ⟨successor, hsuccessor, hid⟩ := List.mem_map.mp hsource
  obtain ⟨hmem, hlive⟩ := List.mem_filter.mp hsuccessor
  refine hnone link hlink ?_
  simp only [hkind, hrecorded, decide_true, Bool.true_and]
  exact List.any_eq_true.mpr ⟨successor, hmem, by simp only [hid, hlive, decide_true, Bool.and_self]⟩

end Reads

end WorkingMemory

end Aivtuber
