import Mathlib.Algebra.Order.Ring.Int
import Aivtuber.Base.KeyedSort
import Aivtuber.Domain.Event

/-!
# The event bus of the reference harness

`src/event-bus.ts`: control events wait in a queue of their own, and of the other events the
bus keeps the most important ones, by evicting one at a time.  What a drain returns is what
sorting all of them at the end would have kept.
-/

namespace Aivtuber.Reference

/-- An event, as the bus sees it. -/
structure BusEvent where
  eventId : String
  kind : String
  plane : SecurityPlane
  sequence : Int
deriving DecidableEq, Repr

structure QueuedEvent where
  event : BusEvent
  /-- Smaller is more important. -/
  rank : Nat
deriving DecidableEq, Repr

def kindRank : List (String × Nat) :=
  [("operator.command", 0), ("chat.donation", 1), ("game.event", 2), ("chat.message", 3),
    ("speech.input", 3), ("stream.event", 4), ("timer.tick", 5), ("system.health", 5)]

def rankOf (event : BusEvent) : Nat := (kindRank.lookup event.kind).getD 5

inductive PublishResult where
  | queued | droppedOverflow
deriving DecidableEq, Repr

structure EventBus where
  content : List QueuedEvent
  control : List BusEvent
  dropped : Nat
  limit : Int
deriving DecidableEq, Repr

/-- At least as bad as another event: what `publish` asks when it looks for the worst one. -/
def QueuedEvent.atLeast (a b : QueuedEvent) : Bool :=
  a.rank > b.rank || (a.rank = b.rank && a.event.sequence ≥ b.event.sequence)

/-- The loop that looks for the worst event, at `index` and with `best` at `worst` so far. -/
def worstLoop (worst : Nat) (best : QueuedEvent) : Nat → List QueuedEvent → Nat
  | _, [] => worst
  | index, a :: rest =>
    if a.atLeast best then worstLoop index a (index + 1) rest
    else worstLoop worst best (index + 1) rest

/-- The last of the worst events. -/
def worst : List QueuedEvent → Nat
  | [] => 0
  | first :: rest => worstLoop 0 first 1 rest

/-- What the comparison of a drain orders by: the rank, then the sequence. -/
def QueuedEvent.key (queued : QueuedEvent) : Nat ×ₗ Int :=
  toLex (queued.rank, queued.event.sequence)

namespace EventBus

def new (contentQueueLimit : Option Int) : EventBus where
  content := []
  control := []
  dropped := 0
  limit := contentQueueLimit.getD 128

def publish (bus : EventBus) (event : BusEvent) : EventBus × PublishResult :=
  if event.plane = .control then ({ bus with control := bus.control ++ [event] }, .queued)
  else
    let content := bus.content ++ [{ event, rank := rankOf event }]
    if bus.limit < content.length then
      ({ bus with content := content.eraseIdx (worst content), dropped := bus.dropped + 1 },
        .droppedOverflow)
    else ({ bus with content }, .queued)

/-- Drain everything: control first, then by rank and sequence, in a stable order. -/
def drain (bus : EventBus) : EventBus × List BusEvent :=
  ({ bus with content := [], control := [] },
    bus.control ++ (bus.content.insertionSort fun a b ↦ a.key ≤ b.key).map (·.event))

def publishAll (bus : EventBus) (events : List BusEvent) : EventBus :=
  events.foldl (fun bus event ↦ (bus.publish event).1) bus

end EventBus

/-! ## The worst event -/

theorem QueuedEvent.atLeast_iff {a b : QueuedEvent} : a.atLeast b = true ↔ b.key ≤ a.key := by
  rw [key, key, Prod.Lex.toLex_le_toLex]
  simp [atLeast, @eq_comm _ a.rank]

/-- The element of a slot is as bad as any, and worse than those behind it. -/
structure LastWorst (content : List QueuedEvent) (index : Nat) (a : QueuedEvent) : Prop where
  get : content[index]? = some a
  le : ∀ b ∈ content, b.key ≤ a.key
  lt : ∀ (j : Nat) (b : QueuedEvent), index < j → content[j]? = some b → b.key < a.key

theorem LastWorst.concat {content : List QueuedEvent} {index : Nat} {a b : QueuedEvent}
    (h : LastWorst content index a) :
    if b.atLeast a then LastWorst (content ++ [b]) content.length b
    else LastWorst (content ++ [b]) index a := by
  have hindex : index < content.length := (List.getElem?_eq_some_iff.mp h.get).1
  split
  case isTrue hb =>
      rw [QueuedEvent.atLeast_iff] at hb
      refine ⟨by simp, ?_, ?_⟩
      · intro c hc
        rcases List.mem_append.mp hc with hc | hc
        · exact (h.le c hc).trans hb
        · rw [List.mem_singleton.mp hc]
      · intro j c hj hc
        have := (List.getElem?_eq_some_iff.mp hc).1
        rw [List.length_append, List.length_singleton] at this
        omega
  case isFalse hb =>
      rw [QueuedEvent.atLeast_iff, not_le] at hb
      refine ⟨?_, ?_, ?_⟩
      · rw [List.getElem?_append_left hindex, h.get]
      · intro c hc
        rcases List.mem_append.mp hc with hc | hc
        · exact h.le c hc
        · rw [List.mem_singleton.mp hc]
          exact hb.le
      · intro j c hj hc
        rcases Nat.lt_or_ge j content.length with hlt | hge
        · rw [List.getElem?_append_left hlt] at hc
          exact h.lt j c hj hc
        · rw [List.getElem?_append_right hge, List.getElem?_singleton] at hc
          split at hc
          · cases hc
            exact hb
          · cases hc

theorem worstLoop_spec {rest seen : List QueuedEvent} {index : Nat} {best : QueuedEvent}
    (h : LastWorst seen index best) :
    ∃ a, LastWorst (seen ++ rest) (worstLoop index best seen.length rest) a := by
  induction rest generalizing seen index best with
  | nil => exact ⟨best, by rwa [List.append_nil]⟩
  | cons b rest ih =>
    have hconcat := h.concat (b := b)
    rw [worstLoop, List.append_cons]
    have hlength : seen.length + 1 = (seen ++ [b]).length := by simp
    split
    case isTrue hb =>
        rw [if_pos hb] at hconcat
        rw [hlength]
        exact ih hconcat
    case isFalse hb =>
        rw [if_neg hb] at hconcat
        rw [hlength]
        exact ih hconcat

theorem worst_spec {content : List QueuedEvent} (h : content ≠ []) :
    ∃ a, LastWorst content (worst content) a := by
  cases content with
  | nil => exact absurd rfl h
  | cons first rest =>
    have hfirst : LastWorst [first] 0 first := by
      refine ⟨rfl, by simp, ?_⟩
      intro j b hj hb
      rw [List.getElem?_eq_none (by simp; omega)] at hb
      cases hb
    exact worstLoop_spec hfirst

/-! ## What the bus keeps -/

/-- The events that wait in the bounded queue. -/
def contentOf (events : List BusEvent) : List BusEvent := events.filter (·.plane ≠ .control)

def controlOf (events : List BusEvent) : List BusEvent := events.filter (·.plane = .control)

/-- The place of a content event in the order of importance: its rank, its sequence, and
its position among the events that were published. -/
def importance (entry : BusEvent × Nat) : (Nat ×ₗ Int) ×ₗ Nat :=
  toLex (toLex (rankOf entry.1, entry.1.sequence), entry.2)

/-- The `limit` most important of some content events, in order. -/
def mostImportant (limit : Int) (events : List BusEvent) : List BusEvent :=
  ((events.zipIdx.insertionSort fun a b ↦ importance a ≤ importance b).take limit.toNat).map
    Prod.fst

/-- A content event in its queue. -/
def queue (event : BusEvent) : QueuedEvent := { event, rank := rankOf event }

/-- What is buffered once `events` have been published: `kept` are the content events in the
queue, with their positions. -/
structure Buffers (bus : EventBus) (events : List BusEvent) (kept : List (BusEvent × Nat)) :
    Prop where
  content : bus.content = kept.map fun entry ↦ queue entry.1
  control : bus.control = controlOf events
  ascending : kept.Pairwise fun a b ↦ a.2 < b.2
  bounded : ∀ entry ∈ kept, entry.2 < (contentOf events).length
  least : KeyedSort.Least importance bus.limit.toNat kept (contentOf events).zipIdx

theorem importance_eq (entry : BusEvent × Nat) :
    importance entry = toLex ((queue entry.1).key, entry.2) := rfl

/-- The worst event of the queue is the least important, positions included. -/
theorem importance_le_worst {kept : List (BusEvent × Nat)} {index : Nat} {a : QueuedEvent}
    (hworst : LastWorst (kept.map fun entry ↦ queue entry.1) index a)
    (hascending : kept.Pairwise fun a b ↦ a.2 < b.2) (hindex : index < kept.length) :
    ∀ entry ∈ kept, importance entry ≤ importance kept[index] := by
  intro entry hentry
  obtain ⟨j, hj, rfl⟩ := List.getElem_of_mem hentry
  have ha : a = queue kept[index].1 := by
    have := hworst.get
    rw [List.getElem?_map, List.getElem?_eq_getElem hindex] at this
    exact (Option.some.inj this).symm
  subst ha
  have hle := hworst.le (queue kept[j].1) (List.mem_map_of_mem hentry)
  rw [importance_eq, importance_eq, Prod.Lex.toLex_le_toLex]
  rcases hle.lt_or_eq with hlt | heq
  · exact Or.inl hlt
  · refine Or.inr ⟨heq, ?_⟩
    rcases Nat.lt_trichotomy j index with hlt | rfl | hgt
    · exact (List.pairwise_iff_getElem.mp hascending j index hj hindex hlt).le
    · exact le_refl _
    · have := hworst.lt j (queue kept[j].1) hgt
        (by rw [List.getElem?_map, List.getElem?_eq_getElem hj]; rfl)
      exact absurd heq this.ne

variable {bus : EventBus} {events : List BusEvent} {kept : List (BusEvent × Nat)}

/-- What one publication does: a control event only joins the control queue; a content event
is buffered, and if there is no room, one event is dropped. -/
theorem Buffers.publish (h : Buffers bus events kept) (event : BusEvent) :
    (bus.publish event).1.limit = bus.limit ∧
    ∃ kept', Buffers (bus.publish event).1 (events ++ [event]) kept' ∧
      (bus.publish event).1.dropped + kept'.length + (contentOf events).length =
        bus.dropped + kept.length + (contentOf (events ++ [event])).length ∧
      ((bus.publish event).2 = .droppedOverflow ↔
        (bus.publish event).1.dropped = bus.dropped + 1) := by
  rw [EventBus.publish]
  split
  case isTrue hcontrol =>
      have hcontent : contentOf (events ++ [event]) = contentOf events := by
        simp [contentOf, hcontrol]
      refine ⟨rfl, kept, ⟨h.content, ?_, h.ascending, ?_, ?_⟩, ?_, by simp⟩
      · dsimp only
        rw [h.control]
        simp [controlOf, hcontrol]
      · rw [hcontent]
        exact h.bounded
      · rw [hcontent]
        exact h.least
      · rw [hcontent]
  case isFalse hplane =>
      have hcontent : contentOf (events ++ [event]) = contentOf events ++ [event] := by
        simp [contentOf, hplane]
      have hcontrol : controlOf (events ++ [event]) = controlOf events := by
        simp [controlOf, hplane]
      have hzip : (contentOf events ++ [event]).zipIdx =
          (contentOf events).zipIdx ++ [(event, (contentOf events).length)] := by
        rw [List.zipIdx_append]
        simp
      have hqueue : bus.content ++ [{ event, rank := rankOf event }] =
          (kept ++ [(event, (contentOf events).length)]).map fun entry ↦ queue entry.1 := by
        rw [h.content, List.map_append]
        rfl
      have hascending : (kept ++ [(event, (contentOf events).length)]).Pairwise
          fun a b ↦ a.2 < b.2 := by
        rw [List.pairwise_append]
        refine ⟨h.ascending, List.pairwise_singleton _ _, ?_⟩
        intro a ha b hb
        rw [List.mem_singleton.mp hb]
        exact h.bounded a ha
      have hbounded : ∀ entry ∈ kept ++ [(event, (contentOf events).length)],
          entry.2 < (contentOf (events ++ [event])).length := by
        intro entry hentry
        rw [hcontent, List.length_append, List.length_singleton]
        rcases List.mem_append.mp hentry with hentry | hentry
        · exact (h.bounded entry hentry).trans (Nat.lt_succ_self _)
        · rw [List.mem_singleton.mp hentry]
          exact Nat.lt_succ_self _
      have hroom := h.least.length_le
      have hlength : (kept ++ [(event, (contentOf events).length)]).length = kept.length + 1 := by
        simp
      dsimp only
      rw [hqueue, List.length_map, hlength]
      generalize hnew : (event, (contentOf events).length) = new at *
      split
      case isTrue hfull =>
          obtain ⟨a, hworst⟩ := @worst_spec ((kept ++ [new]).map fun entry ↦ queue entry.1)
            (by simp)
          have hindex := (List.getElem?_eq_some_iff.mp hworst.get).1
          rw [List.length_map] at hindex
          have hperm := List.getElem_cons_eraseIdx_perm hindex
          refine ⟨rfl, (kept ++ [new]).eraseIdx
            (worst ((kept ++ [new]).map fun entry ↦ queue entry.1)), ⟨?_, ?_, ?_, ?_, ?_⟩, ?_, by simp⟩
          · exact List.eraseIdx_map _ _ _
          · dsimp only
            rw [h.control, hcontrol]
          · exact hascending.sublist (List.eraseIdx_sublist _ _)
          · exact fun entry hentry ↦ hbounded entry (List.mem_of_mem_eraseIdx hentry)
          · rw [hcontent, hzip]
            refine h.least.replace (by omega) hperm.symm ?_
            exact importance_le_worst hworst hascending hindex
          · have := hperm.length_eq
            rw [hcontent]
            simp only [List.length_append, List.length_cons, List.length_nil] at this ⊢
            omega
      case isFalse hspace =>
          refine ⟨rfl, kept ++ [new], ⟨rfl, ?_, hascending, hbounded, ?_⟩, ?_, by simp⟩
          · dsimp only
            rw [h.control, hcontrol]
          · rw [hcontent, hzip]
            exact h.least.concat (by omega)
          · rw [hcontent]
            simp only [List.length_append, List.length_cons, List.length_nil]
            omega

theorem Buffers.publishAll (h : Buffers bus [] []) (events : List BusEvent) :
    (bus.publishAll events).limit = bus.limit ∧
    ∃ kept, Buffers (bus.publishAll events) events kept ∧
      (bus.publishAll events).dropped + kept.length = bus.dropped + (contentOf events).length := by
  induction events using List.reverseRecOn with
  | nil => exact ⟨rfl, [], h, rfl⟩
  | append_singleton events event ih =>
    obtain ⟨hlimit, kept, hkept, hdropped⟩ := ih
    obtain ⟨hlimit', kept', hkept', hdropped', -⟩ := hkept.publish event
    have hall : bus.publishAll (events ++ [event]) =
        ((bus.publishAll events).publish event).1 := by
      rw [EventBus.publishAll, List.foldl_append]
      rfl
    rw [hall]
    exact ⟨hlimit'.trans hlimit, kept', hkept', by omega⟩

theorem drain_buffers (bus : EventBus) : Buffers bus.drain.1 [] [] :=
  ⟨rfl, rfl, List.Pairwise.nil, by simp, KeyedSort.Least.nil⟩

theorem nodup_importance (events : List BusEvent) : (events.zipIdx.map importance).Nodup := by
  refine List.Nodup.of_map (fun key ↦ (ofLex key).2) ?_
  rw [List.map_map]
  have hsnd : ((fun key : (Nat ×ₗ Int) ×ₗ Nat ↦ (ofLex key).2) ∘ importance) = Prod.snd := rfl
  rw [hsnd, List.zipIdx_map_snd]
  exact List.nodup_range' ..

/-- A drain sorts what is buffered by importance. -/
theorem Buffers.drain (h : Buffers bus events kept) :
    bus.drain.2 = controlOf events ++ mostImportant bus.limit (contentOf events) := by
  rw [EventBus.drain, h.control, h.content, mostImportant,
    ← h.least.insertionSort_eq (nodup_importance _)]
  dsimp only
  have hmap := List.map_insertionSort (fun a b : BusEvent × Nat ↦
    (queue a.1).key ≤ (queue b.1).key) (fun a b : QueuedEvent ↦ a.key ≤ b.key)
    (fun entry ↦ queue entry.1) kept fun _ _ _ _ ↦ Iff.rfl
  rw [← hmap, List.map_map]
  have hstable : (kept.insertionSort fun a b ↦ (queue a.1).key ≤ (queue b.1).key) =
      kept.insertionSort fun a b ↦ importance a ≤ importance b :=
    KeyedSort.insertionSort_eq_lex h.ascending
  rw [hstable]
  rfl

theorem Buffers.length_eq (h : Buffers bus events kept) :
    kept.length = min bus.limit.toNat (contentOf events).length := by
  rw [h.least.1, List.length_zipIdx]

theorem length_mostImportant (limit : Int) (events : List BusEvent) :
    (mostImportant limit events).length = min limit.toNat events.length := by
  simp [mostImportant]

/-- **The bus keeps exactly the most important events**.  What is published after a drain
comes out of the next one: every control event in the order of publication, then the
content events that are least by rank, sequence and position, as many as the queue holds.
The others are counted as dropped, one by each publication that says so, which is each
content event for which the queue has no room. -/
theorem drain_keeps_mostImportant (bus : EventBus) (events : List BusEvent) :
    (bus.drain.1.publishAll events).drain.2 =
      controlOf events ++ mostImportant bus.limit (contentOf events) ∧
    (mostImportant bus.limit (contentOf events)).length =
      min bus.limit.toNat (contentOf events).length ∧
    (bus.drain.1.publishAll events).dropped +
      (mostImportant bus.limit (contentOf events)).length =
        bus.dropped + (contentOf events).length ∧
    ∀ event,
      (((bus.drain.1.publishAll events).publish event).2 = .droppedOverflow ↔
        event.plane ≠ .control ∧ bus.limit ≤ (contentOf events).length) ∧
      (((bus.drain.1.publishAll events).publish event).2 = .droppedOverflow ↔
        ((bus.drain.1.publishAll events).publish event).1.dropped =
          (bus.drain.1.publishAll events).dropped + 1) := by
  obtain ⟨hlimit, kept, hkept, hdropped⟩ := (drain_buffers bus).publishAll events
  have hlimit : (bus.drain.1.publishAll events).limit = bus.limit := hlimit
  have hlength := hkept.length_eq
  rw [hlimit] at hlength
  have hdrain := hkept.drain
  rw [hlimit] at hdrain
  refine ⟨hdrain, length_mostImportant _ _, ?_, fun event ↦ ⟨?_, ?_⟩⟩
  · rw [length_mostImportant, ← hlength]
    exact hdropped
  · rw [EventBus.publish, hlimit, hkept.content]
    split
    case isTrue hcontrol => simp [hcontrol]
    case isFalse hplane =>
        have hfull : bus.limit < (kept.length + 1 : Nat) ↔
            bus.limit ≤ (contentOf events).length := by
          rw [hlength]
          omega
        dsimp only
        rw [List.length_append, List.length_map, List.length_singleton]
        split
        case isTrue hover => simp [hplane, hfull.mp hover]
        case isFalse hroom => simpa [hplane] using fun h ↦ hroom (hfull.mpr h)
  · obtain ⟨-, kept', -, -, hresult⟩ := hkept.publish event
    exact hresult

/-- A publication that reports an overflow, of an event that is kept. -/
theorem publish_donation_kept :
    let chat : BusEvent := ⟨"evt-1", "chat.message", .content, 1⟩
    let donation : BusEvent := ⟨"evt-don-2", "chat.donation", .content, 2⟩
    let bus := (EventBus.new (some 1)).publishAll [chat]
    (bus.publish donation).2 = .droppedOverflow ∧
      (bus.publish donation).1.drain.2 = [donation] := by
  decide

end Aivtuber.Reference
