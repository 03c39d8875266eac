import Aivtuber.App.RecordFraming

/-!
# The ingress pump

`pump_bounded_records` reads one record after the other until the end of the stream, offers
those within the limit to the queue, and counts the others.  The records that it reads do not
depend on how the reader cuts the stream into buffers: they are those of the pieces between
its newlines (`readRecords_framed`).  They are handled in this order, the queue has what it took of
them, and each is counted once (`pump_accounts`).
-/

universe u

open Framing

namespace Aivtuber

variable {ε : Type u} {maxRecordBytes : Nat}

/-- One read of a record. -/
theorem readBoundedRecord_delivers (maxRecordBytes : Nat) (reader : BufRead ε)
    (metrics : RawIngressMetrics) :
    Delivers maxRecordBytes reader.pending reader metrics
      (readBoundedRecord maxRecordBytes reader metrics) :=
  readLoop_delivers (start_gathered maxRecordBytes) List.not_mem_nil rfl

/-- A record has bytes of its own. -/
theorem readBoundedRecord_shrinks {reader : BufRead ε} {metrics : RawIngressMetrics}
    {record : BoundedRecord} {after : ReadState ε}
    (h : readBoundedRecord maxRecordBytes reader metrics = (.ok record, after))
    (hne : record ≠ .eof) : after.reader.pending.length < reader.pending.length := by
  have hdelivers := readBoundedRecord_delivers maxRecordBytes reader metrics
  rw [h] at hdelivers
  rcases hdelivers.record record rfl with ⟨heof, -⟩ | ⟨piece, -, -, hlt⟩
  · exact absurd heof hne
  · exact hlt

/-- The loop of `pump_bounded_records`. -/
def pumpLoop (maxRecordBytes : Nat) (sender : SyncSender) (reader : BufRead ε)
    (metrics : RawIngressMetrics) :
    Except (Abrupt (RawIngressError ε)) RawIngressExit × SyncSender × RawIngressMetrics :=
  match h : readBoundedRecord maxRecordBytes reader metrics with
  | (.error (.error error), after) =>
    (.error (.error (.io error)), sender,
      { after.metrics with readErrors := fetchAdd after.metrics.readErrors })
  | (.error .capacityOverflow, after) => (.error .capacityOverflow, sender, after.metrics)
  | (.ok .eof, after) => (.ok .eof, sender, after.metrics)
  | (.ok .oversized, after) =>
    have := readBoundedRecord_shrinks h (by simp)
    pumpLoop maxRecordBytes sender after.reader
      { after.metrics with droppedOversize := fetchAdd after.metrics.droppedOversize }
  | (.ok (.record record), after) =>
    have := readBoundedRecord_shrinks h (by simp)
    match sender.trySend record with
    | (.ok (), sender) =>
      pumpLoop maxRecordBytes sender after.reader
        { after.metrics with enqueued := fetchAdd after.metrics.enqueued }
    | (.error .full, sender) =>
      pumpLoop maxRecordBytes sender after.reader
        { after.metrics with droppedQueueFull := fetchAdd after.metrics.droppedQueueFull }
    | (.error .disconnected, sender) => (.ok .receiverDisconnected, sender, after.metrics)
termination_by reader.pending.length
decreasing_by all_goals exact this

def pumpBoundedRecords (reader : BufRead ε) (sender : SyncSender) (config : RawIngressConfig)
    (metrics : RawIngressMetrics) :
    Except (Abrupt (RawIngressError ε)) RawIngressExit × SyncSender × RawIngressMetrics :=
  match config.validate with
  | .error error => (.error (.error error), sender, metrics)
  | .ok () => pumpLoop config.maxRecordBytes sender reader metrics

theorem frame_ne_eof (maxRecordBytes : Nat) (piece : List UInt8) :
    frame maxRecordBytes piece ≠ .eof := by
  rw [frame]
  split <;> simp

/-! ## The records -/

/-- What a read leaves of the records of the stream. -/
theorem frames_of_read {reader : BufRead ε} {metrics : RawIngressMetrics}
    {record : BoundedRecord} {after : ReadState ε}
    (h : readBoundedRecord maxRecordBytes reader metrics = (.ok record, after)) :
    (record = .eof ∧ frames maxRecordBytes reader.pending = []) ∨
      record ≠ .eof ∧ frames maxRecordBytes reader.pending =
        record :: frames maxRecordBytes after.reader.pending := by
  have hread := readBoundedRecord_delivers maxRecordBytes reader metrics
  rw [h] at hread
  rcases hread.record record rfl with ⟨heof, hnil⟩ | ⟨piece, hpieces, hframe, -⟩
  · refine .inl ⟨heof, ?_⟩
    rw [hnil, frames, pieces_nil]
    rfl
  · refine .inr ⟨hframe ▸ frame_ne_eof _ _, ?_⟩
    rw [frames, frames, hpieces, hframe]
    rfl

theorem frames_of_record {reader : BufRead ε} {metrics : RawIngressMetrics}
    {record : BoundedRecord} {after : ReadState ε}
    (h : readBoundedRecord maxRecordBytes reader metrics = (.ok record, after))
    (hne : record ≠ .eof) : frames maxRecordBytes reader.pending =
      record :: frames maxRecordBytes after.reader.pending := by
  rcases frames_of_read h with ⟨heof, -⟩ | ⟨-, hframes⟩
  · exact absurd heof hne
  · exact hframes

theorem frames_of_eof {reader : BufRead ε} {metrics : RawIngressMetrics} {after : ReadState ε}
    (h : readBoundedRecord maxRecordBytes reader metrics = (.ok .eof, after)) :
    frames maxRecordBytes reader.pending = [] := by
  rcases frames_of_read h with ⟨-, hnil⟩ | ⟨hne, -⟩
  · exact hnil
  · exact absurd rfl hne

/-- The counters other than the longest record are left alone by a read. -/
def RawIngressMetrics.SameCounts (metrics after : RawIngressMetrics) : Prop :=
  after = { metrics with maxRetainedRecordBytes := after.maxRetainedRecordBytes }

theorem gather_counts {state : Gathering} {data : List UInt8} {metrics : RawIngressMetrics}
    {after : Gathering × RawIngressMetrics}
    (h : state.gather maxRecordBytes data metrics = some after) :
    metrics.SameCounts after.2 := by
  rw [Gathering.gather] at h
  dsimp only at h
  split at h
  case isTrue =>
    cases h
    rfl
  case isFalse =>
    obtain ⟨retained, -, rfl⟩ := Option.map_eq_some_iff.mp h
    rfl

theorem readLoop_counts (state : Gathering) (reader : BufRead ε) (metrics : RawIngressMetrics) :
    metrics.SameCounts (readLoop maxRecordBytes state reader metrics).2.metrics := by
  induction hlength : reader.pending.length using Nat.strong_induction_on generalizing
    state reader metrics with
  | h length ih =>
  rw [readLoop]
  split
  next error hfill => rfl
  next buffer hfill =>
    split
    case isTrue => rfl
    case isFalse hempty =>
      dsimp only
      split
      next => rfl
      next state' metrics' hgather =>
        have hcounts : metrics.SameCounts metrics' := gather_counts hgather
        split
        next => exact hcounts
        next =>
          have hlt := BufRead.length_consume_buffer_lt hfill hempty
          have hrest := ih _ (hlength ▸ hlt) state' (reader.filled.consume buffer.length)
            metrics' rfl
          rw [RawIngressMetrics.SameCounts] at hcounts hrest ⊢
          rw [hrest, hcounts]

theorem readBoundedRecord_counts {reader : BufRead ε} {metrics : RawIngressMetrics}
    {record : Except (Abrupt ε) BoundedRecord} {after : ReadState ε}
    (h : readBoundedRecord maxRecordBytes reader metrics = (record, after)) :
    metrics.SameCounts after.metrics := by
  have hcounts := @readLoop_counts ε maxRecordBytes .start reader metrics
  rw [← readBoundedRecord, h] at hcounts
  exact hcounts

/-! ## The queue -/

/-- The bytes of a record that is offered to the queue. -/
def BoundedRecord.bytes? : BoundedRecord → Option (List UInt8)
  | .record bytes => some bytes
  | .eof | .oversized => none

/-- The records that are offered to the queue. -/
def offered (records : List BoundedRecord) : List (List UInt8) :=
  records.filterMap BoundedRecord.bytes?

/-- What a queue takes of the records that it is offered, by its answers. -/
def SyncSender.takes : (Nat → Except TrySendError Unit) → List (List UInt8) → List (List UInt8)
  | _, [] => []
  | answers, record :: records =>
    (if (answers 0).isOk then [record] else []) ++ takes (fun n ↦ answers (n + 1)) records

/-- How many of the records find the queue full. -/
def SyncSender.refuses : (Nat → Except TrySendError Unit) → List (List UInt8) → Nat
  | _, [] => 0
  | answers, _ :: records =>
    (match answers 0 with
      | .error .full => 1
      | .error .disconnected | .ok () => 0) + refuses (fun n ↦ answers (n + 1)) records

open SyncSender (takes refuses)

/-- What a queue has once it took its part, one record at a time. -/
theorem sent_trySend (sender : SyncSender) (record : List UInt8) (records : List (List UInt8)) :
    sender.sent ++ takes sender.answers (record :: records) =
      (sender.trySend record).2.sent ++ takes (sender.trySend record).2.answers records := by
  rw [takes, SyncSender.trySend]
  dsimp only
  cases (sender.answers 0).isOk with
  | true => exact (List.append_assoc _ _ _).symm
  | false => rfl

/-- The record that finds the queue gone, if that is how the pump ends. -/
def lostRecords : Except (Abrupt (RawIngressError ε)) RawIngressExit → Nat
  | .ok .receiverDisconnected => 1
  | .ok .eof | .error _ => 0

/-- The failed read, if that is how the pump ends. -/
def failedReads : Except (Abrupt (RawIngressError ε)) RawIngressExit → Nat
  | .error (.error (.io _)) => 1
  | .error (.error (.invalidConfiguration _)) | .error .capacityOverflow | .ok _ => 0

/-! ## The pump -/

/-- What a run of the pump gives: it has handled the records of the stream in their order, all
of them if it reaches the end; the queue has what it took of them, and each of them is counted
once, as enqueued, as dropped at a full queue or as dropped for its length, unless the queue was
gone.  The counters wrap. -/
structure Pumped (frames : List BoundedRecord) (sender : SyncSender) (metrics : RawIngressMetrics)
    (outcome : Except (Abrupt (RawIngressError ε)) RawIngressExit × SyncSender ×
      RawIngressMetrics) (handled : List BoundedRecord) : Prop where
  inOrder : handled <+: frames
  complete : outcome.1 = .ok .eof → handled = frames
  sent : outcome.2.1.sent = sender.sent ++ takes sender.answers (offered handled)
  enqueued : outcome.2.2.enqueued % 2 ^ 64 = (metrics.enqueued +
    (takes sender.answers (offered handled)).length) % 2 ^ 64
  queueFull : outcome.2.2.droppedQueueFull % 2 ^ 64 = (metrics.droppedQueueFull +
    refuses sender.answers (offered handled)) % 2 ^ 64
  oversize : outcome.2.2.droppedOversize % 2 ^ 64 =
    (metrics.droppedOversize + handled.count .oversized) % 2 ^ 64
  readErrors : outcome.2.2.readErrors % 2 ^ 64 =
    (metrics.readErrors + failedReads outcome.1) % 2 ^ 64
  conserved : handled.length =
    (takes sender.answers (offered handled)).length + refuses sender.answers (offered handled) +
      handled.count .oversized + lostRecords outcome.1

section Pumped

variable {frames handled : List BoundedRecord} {sender : SyncSender}
  {metrics metrics' : RawIngressMetrics}
  {outcome : Except (Abrupt (RawIngressError ε)) RawIngressExit × SyncSender × RawIngressMetrics}

/-- Nothing is handled at the end of the stream, or by a read that panics. -/
theorem Pumped.none {result : Except (Abrupt (RawIngressError ε)) RawIngressExit}
    (hcomplete : result = .ok .eof → frames = []) (hlost : lostRecords result = 0)
    (hfailed : failedReads result = 0) : Pumped frames sender metrics (result, sender, metrics) []
    where
  inOrder := List.nil_prefix
  complete := fun heof ↦ (hcomplete heof).symm
  sent := (List.append_nil _).symm
  enqueued := rfl
  queueFull := rfl
  oversize := rfl
  readErrors := by rw [hfailed, Nat.add_zero]
  conserved := by
    change 0 = 0 + 0 + 0 + lostRecords result
    rw [hlost]

/-- A read that fails is counted. -/
theorem Pumped.failed (error : ε) : Pumped frames sender metrics
    (.error (.error (.io error)), sender,
      { metrics with readErrors := fetchAdd metrics.readErrors }) [] where
  inOrder := List.nil_prefix
  complete := fun heof ↦ (by cases heof)
  sent := (List.append_nil _).symm
  enqueued := rfl
  queueFull := rfl
  oversize := rfl
  readErrors := Nat.mod_mod _ _
  conserved := rfl

/-- The counters of a read do not count. -/
theorem Pumped.of_counts (hcounts : metrics.SameCounts metrics')
    (h : Pumped frames sender metrics' outcome handled) :
    Pumped frames sender metrics outcome handled := by
  rw [RawIngressMetrics.SameCounts] at hcounts
  rw [hcounts] at h
  exact ⟨h.inOrder, h.complete, h.sent, h.enqueued, h.queueFull, h.oversize, h.readErrors,
    h.conserved⟩

/-- A record that is too long, in front. -/
theorem Pumped.oversized (h : Pumped frames sender
      { metrics with droppedOversize := fetchAdd metrics.droppedOversize } outcome handled) :
    Pumped (.oversized :: frames) sender metrics outcome (.oversized :: handled) where
  inOrder := (List.prefix_cons_inj _).mpr h.inOrder
  complete := fun heof ↦ congrArg (.oversized :: ·) (h.complete heof)
  sent := h.sent
  enqueued := h.enqueued
  queueFull := h.queueFull
  oversize := by
    have hrest := h.oversize
    rw [List.count_cons_self]
    simp only [fetchAdd] at hrest
    omega
  readErrors := h.readErrors
  conserved := by
    have hrest := h.conserved
    rw [List.count_cons_self, List.length_cons]
    change _ = (takes sender.answers (offered handled)).length +
      refuses sender.answers (offered handled) + _ + _
    omega

theorem count_oversized_record (record : List UInt8) (handled : List BoundedRecord) :
    (BoundedRecord.record record :: handled).count .oversized = handled.count .oversized :=
  List.count_cons_of_ne (by simp)

/-- A record that the queue takes, in front. -/
theorem Pumped.enqueue {record : List UInt8} (hanswer : sender.answers 0 = .ok ())
    (h : Pumped frames (sender.trySend record).2
      { metrics with enqueued := fetchAdd metrics.enqueued } outcome handled) :
    Pumped (.record record :: frames) sender metrics outcome (.record record :: handled) := by
  have htakes : takes sender.answers (offered (.record record :: handled)) =
      record :: takes (fun n ↦ sender.answers (n + 1)) (offered handled) := by
    change (if (sender.answers 0).isOk then [record] else []) ++ _ = _
    rw [hanswer]
    rfl
  have hrefuses : refuses sender.answers (offered (.record record :: handled)) =
      refuses (fun n ↦ sender.answers (n + 1)) (offered handled) := by
    change (match sender.answers 0 with
      | .error .full => 1
      | .error .disconnected | .ok () => 0) + _ = _
    rw [hanswer]
    exact Nat.zero_add _
  refine ⟨(List.prefix_cons_inj _).mpr h.inOrder,
    fun heof ↦ congrArg (.record record :: ·) (h.complete heof), ?_, ?_, ?_, ?_, h.readErrors, ?_⟩
  · exact h.sent.trans (sent_trySend sender record (offered handled)).symm
  · have hrest := h.enqueued
    rw [htakes, List.length_cons]
    simp only [fetchAdd, SyncSender.trySend] at hrest
    omega
  · rw [hrefuses]
    exact h.queueFull
  · rw [count_oversized_record]
    exact h.oversize
  · have hrest := h.conserved
    rw [htakes, hrefuses, count_oversized_record, List.length_cons, List.length_cons]
    simp only [SyncSender.trySend] at hrest
    omega

/-- A record that finds the queue full, in front. -/
theorem Pumped.full {record : List UInt8} (hanswer : sender.answers 0 = .error .full)
    (h : Pumped frames (sender.trySend record).2
      { metrics with droppedQueueFull := fetchAdd metrics.droppedQueueFull } outcome handled) :
    Pumped (.record record :: frames) sender metrics outcome (.record record :: handled) := by
  have htakes : takes sender.answers (offered (.record record :: handled)) =
      takes (fun n ↦ sender.answers (n + 1)) (offered handled) := by
    change (if (sender.answers 0).isOk then [record] else []) ++ _ = _
    rw [hanswer]
    rfl
  have hrefuses : refuses sender.answers (offered (.record record :: handled)) =
      1 + refuses (fun n ↦ sender.answers (n + 1)) (offered handled) := by
    change (match sender.answers 0 with
      | .error .full => 1
      | .error .disconnected | .ok () => 0) + _ = _
    rw [hanswer]
    rfl
  refine ⟨(List.prefix_cons_inj _).mpr h.inOrder,
    fun heof ↦ congrArg (.record record :: ·) (h.complete heof), ?_, ?_, ?_, ?_, h.readErrors, ?_⟩
  · exact h.sent.trans (sent_trySend sender record (offered handled)).symm
  · rw [htakes]
    exact h.enqueued
  · have hrest := h.queueFull
    rw [hrefuses]
    simp only [fetchAdd, SyncSender.trySend] at hrest
    omega
  · rw [count_oversized_record]
    exact h.oversize
  · have hrest := h.conserved
    rw [htakes, hrefuses, count_oversized_record, List.length_cons]
    simp only [SyncSender.trySend] at hrest
    omega

/-- The record that finds the queue gone. -/
theorem Pumped.gone {record : List UInt8} (hanswer : sender.answers 0 = .error .disconnected) :
    Pumped (.record record :: frames) sender metrics
      ((.ok .receiverDisconnected : Except (Abrupt (RawIngressError ε)) RawIngressExit),
        (sender.trySend record).2, metrics) [.record record] := by
  have htakes : takes sender.answers [record] = [] := by
    rw [takes, hanswer]
    rfl
  have hrefuses : refuses sender.answers [record] = 0 := by
    rw [refuses, hanswer]
    rfl
  refine ⟨List.prefix_append [BoundedRecord.record record] frames, fun heof ↦ (by cases heof),
    ?_, ?_, ?_, rfl, rfl, ?_⟩
  · exact (List.append_nil _).symm.trans (sent_trySend sender record []).symm
  · change metrics.enqueued % _ = (_ + (takes sender.answers [record]).length) % _
    rw [htakes]
    rfl
  · change metrics.droppedQueueFull % _ = (_ + refuses sender.answers [record]) % _
    rw [hrefuses]
    rfl
  · change 1 = (takes sender.answers [record]).length + refuses sender.answers [record] + 0 + 1
    rw [htakes, hrefuses]
    rfl

end Pumped

/-- **A run of the loop.** -/
theorem pumpLoop_pumped (maxRecordBytes : Nat) (sender : SyncSender) (reader : BufRead ε)
    (metrics : RawIngressMetrics) : ∃ handled,
    Pumped (frames maxRecordBytes reader.pending) sender metrics
      (pumpLoop maxRecordBytes sender reader metrics) handled := by
  induction hlength : reader.pending.length using Nat.strong_induction_on generalizing
    sender reader metrics with
  | h length ih =>
  rw [pumpLoop]
  split
  next error after hread =>
    exact ⟨[], (Pumped.failed error).of_counts (readBoundedRecord_counts hread)⟩
  next after hread =>
    refine ⟨[], Pumped.of_counts (readBoundedRecord_counts hread) ?_⟩
    exact .none (fun h ↦ (by cases h)) rfl rfl
  next after hread =>
    refine ⟨[], Pumped.of_counts (readBoundedRecord_counts hread) ?_⟩
    exact .none (fun _ ↦ frames_of_eof hread) rfl rfl
  next after hread =>
    have hframes := frames_of_record hread (by simp)
    have hlt := readBoundedRecord_shrinks hread (by simp)
    obtain ⟨handled, hrest⟩ := ih _ (hlength ▸ hlt) sender after.reader
      { after.metrics with droppedOversize := fetchAdd after.metrics.droppedOversize } rfl
    rw [hframes]
    exact ⟨_, hrest.oversized.of_counts (readBoundedRecord_counts hread)⟩
  next record after hread =>
    have hframes := frames_of_record hread (by simp)
    have hlt := readBoundedRecord_shrinks hread (by simp)
    have hcounts := readBoundedRecord_counts hread
    rw [hframes]
    split
    next sender' htry =>
      obtain ⟨hanswer, rfl⟩ := Prod.mk.inj htry
      obtain ⟨handled, hrest⟩ := ih _ (hlength ▸ hlt) (sender.trySend record).2 after.reader
        { after.metrics with enqueued := fetchAdd after.metrics.enqueued } rfl
      exact ⟨_, (hrest.enqueue hanswer).of_counts hcounts⟩
    next sender' htry =>
      obtain ⟨hanswer, rfl⟩ := Prod.mk.inj htry
      obtain ⟨handled, hrest⟩ := ih _ (hlength ▸ hlt) (sender.trySend record).2 after.reader
        { after.metrics with droppedQueueFull := fetchAdd after.metrics.droppedQueueFull } rfl
      exact ⟨_, (hrest.full hanswer).of_counts hcounts⟩
    next sender' htry =>
      obtain ⟨hanswer, rfl⟩ := Prod.mk.inj htry
      exact ⟨_, (Pumped.gone hanswer).of_counts hcounts⟩

/-- **The pump accounts for the stream.**  A configuration that is refused leaves everything alone.
Otherwise the pump handles the records of the stream in their order, however the reader cuts it into
buffers, and all of them if it reaches the end; the queue has exactly those that it took, in order,
and each record is counted once. -/
theorem pump_accounts (reader : BufRead ε) (sender : SyncSender) (config : RawIngressConfig)
    (metrics : RawIngressMetrics) :
    (∃ error : RawIngressError ε, config.validate = .error error ∧
      pumpBoundedRecords reader sender config metrics = (.error (.error error), sender, metrics)) ∨
    ((config.validate : Except (RawIngressError ε) Unit) = .ok () ∧ ∃ handled,
      Pumped (frames config.maxRecordBytes reader.pending) sender metrics
        (pumpBoundedRecords reader sender config metrics) handled) := by
  rw [pumpBoundedRecords]
  cases hvalid : (config.validate : Except (RawIngressError ε) Unit) with
  | error error => exact .inl ⟨error, rfl, rfl⟩
  | ok => exact .inr ⟨rfl, pumpLoop_pumped config.maxRecordBytes sender reader metrics⟩

end Aivtuber
