import Aivtuber.App.RawIngress

/-!
# One record of the stream

A read of `read_bounded_record` is followed buffer by buffer.  What it has seen of the current
piece is either kept as a whole, or already longer than the limit and the byte for a carriage
return (`Gathered`), so that the finished record is that of the piece (`frame`), wherever the
buffers were cut.  A read of the stream hence gives the record of its first piece, and leaves
the other pieces (`Delivers`).
-/

universe u

open Saturating Framing

namespace Aivtuber

variable {ε : Type u}

/-- A piece of the stream without one carriage return at its end. -/
def dropCarriageReturn (piece : List UInt8) : List UInt8 :=
  if piece.getLast? == some carriageReturn then piece.dropLast else piece

/-- The record of a piece: too long, or byte for byte. -/
def frame (maxRecordBytes : Nat) (piece : List UInt8) : BoundedRecord :=
  if maxRecordBytes < (dropCarriageReturn piece).length then .oversized
  else .record (dropCarriageReturn piece)

/-- The records of a stream. -/
def frames (maxRecordBytes : Nat) (stream : List UInt8) : List BoundedRecord :=
  (pieces newlineByte stream).map (frame maxRecordBytes)

theorem length_le_dropCarriageReturn (piece : List UInt8) :
    piece.length ≤ (dropCarriageReturn piece).length + 1 := by
  rw [dropCarriageReturn]
  split
  · rw [List.length_dropLast]
    omega
  · exact Nat.le_succ _

/-! ## The bytes of a record -/

/-- The state of the loop once it has seen the start of a piece. -/
structure Gathered (maxRecordBytes : Nat) (seen : List UInt8) (state : Gathering) : Prop where
  whole : state.definitelyOversized = false → state.retained = seen ∧
    state.totalBytes = seen.length ∧ seen.length ≤ maxRecordBytes + 1 ∧ seen.length ≤ isizeMax
  oversized : state.definitelyOversized = true → maxRecordBytes + 1 < seen.length

variable {maxRecordBytes : Nat} {seen data : List UInt8} {state : Gathering}
  {metrics : RawIngressMetrics}

theorem start_gathered (maxRecordBytes : Nat) : Gathered maxRecordBytes [] .start where
  whole := fun _ ↦ ⟨rfl, rfl, Nat.zero_le _, Nat.zero_le _⟩
  oversized := fun h ↦ (by cases h)

/-- Of a record that is surely too long, only more bytes are counted. -/
theorem gather_of_over (h : state.definitelyOversized = true) (data : List UInt8)
    (metrics : RawIngressMetrics) : state.gather maxRecordBytes data metrics =
      some ({ state with
        sawInput := true
        totalBytes := satAdd state.totalBytes data.length }, metrics) :=
  if_pos h

theorem gather_of_whole (h : state.definitelyOversized = false) (data : List UInt8)
    (metrics : RawIngressMetrics) : state.gather maxRecordBytes data metrics =
      (extendFromSlice state.retained
        (data.take (min data.length (maxRecordBytes + 1 - state.retained.length)))).map
        fun retained ↦
          ({ retained
             totalBytes := satAdd state.totalBytes data.length
             sawInput := true
             definitelyOversized :=
               decide (satAdd state.totalBytes data.length > maxRecordBytes + 1) },
            metrics.observeRetained retained.length) :=
  if_neg (by rw [h]; exact Bool.false_ne_true)

/-- The vector outgrows its capacity only when the limit lets it. -/
theorem Gathered.gather_eq_none (h : Gathered maxRecordBytes seen state)
    (hnone : state.gather maxRecordBytes data metrics = none) :
    isizeMax ≤ maxRecordBytes ∧ isizeMax < (seen ++ data).length := by
  cases hover : state.definitelyOversized with
  | true =>
    rw [gather_of_over hover] at hnone
    cases hnone
  | false =>
    obtain ⟨hretained, -, hle, -⟩ := h.whole hover
    rw [gather_of_whole hover, hretained, Option.map_eq_none_iff, extendFromSlice_eq_none,
      List.length_take] at hnone
    rw [List.length_append]
    omega

/-- With more bytes of the piece, the state has seen more of it; no more than the limit and one
byte are kept. -/
theorem Gathered.gather_eq_some (h : Gathered maxRecordBytes seen state) {state' : Gathering}
    {metrics' : RawIngressMetrics}
    (hsome : state.gather maxRecordBytes data metrics = some (state', metrics')) :
    Gathered maxRecordBytes (seen ++ data) state' ∧ state'.sawInput = true ∧
      metrics'.maxRetainedRecordBytes ≤
        max metrics.maxRetainedRecordBytes (maxRecordBytes + 1) := by
  cases hover : state.definitelyOversized with
  | true =>
    rw [gather_of_over hover] at hsome
    cases hsome
    refine ⟨⟨fun hwhole ↦ ?_, fun _ ↦ ?_⟩, rfl, Nat.le_max_left _ _⟩
    · rw [hover] at hwhole
      cases hwhole
    · rw [List.length_append]
      exact Nat.lt_add_right _ (h.oversized hover)
  | false =>
    obtain ⟨hretained, htotal, hle, hfits⟩ := h.whole hover
    rw [gather_of_whole hover, hretained, htotal] at hsome
    obtain ⟨retained, hextend, hstate⟩ := Option.map_eq_some_iff.mp hsome
    obtain ⟨hcapacity, rfl⟩ := extendFromSlice_eq_some.mp hextend
    rw [List.length_take] at hcapacity
    cases hstate
    have hmax : isizeMax + 1 < u64Max := by decide
    refine ⟨⟨fun hwhole ↦ ?_, fun hlong ↦ ?_⟩, rfl, ?_⟩
    · -- All the data was kept.
      rw [decide_eq_false_iff_not, Nat.not_lt, satAdd] at hwhole
      have hall : data.length ≤ maxRecordBytes + 1 - seen.length := by omega
      rw [Nat.min_eq_left hall, List.take_length, List.length_append, satAdd]
      refine ⟨rfl, ?_, by omega, by omega⟩
      exact Nat.min_eq_left (by omega)
    · rw [decide_eq_true_eq, satAdd] at hlong
      rw [List.length_append]
      omega
    · rw [RawIngressMetrics.observeRetained, List.length_append, List.length_take]
      show max _ _ ≤ _
      omega

/-- The finished record is that of the piece. -/
theorem Gathered.finishRecord_eq (h : Gathered maxRecordBytes seen state) :
    state.finishRecord maxRecordBytes = frame maxRecordBytes seen := by
  cases hover : state.definitelyOversized with
  | true =>
    have hlong := h.oversized hover
    have hdrop := length_le_dropCarriageReturn seen
    rw [Gathering.finishRecord, hover, frame, if_pos rfl, if_pos (by omega)]
  | false =>
    obtain ⟨hretained, htotal, hle, -⟩ := h.whole hover
    have hline : (if (state.retained.getLast? == some carriageReturn) = true then
        state.retained.dropLast else state.retained) = dropCarriageReturn seen := by
      rw [hretained]
      rfl
    have hlogical : state.totalBytes - (state.retained.getLast? == some carriageReturn).toNat =
        (dropCarriageReturn seen).length := by
      rw [hretained, htotal, dropCarriageReturn]
      cases seen.getLast? == some carriageReturn with
      | true => exact (List.length_dropLast).symm
      | false => rfl
    rw [Gathering.finishRecord, hover, frame, if_neg Bool.false_ne_true]
    dsimp only
    rw [hline, hlogical, Bool.or_self]
    simp only [decide_eq_true_eq, gt_iff_lt]

/-! ## One read -/

/-- What a read of a stream gives: nothing at its end, or the record of its first piece, and
the reader of the others.  Otherwise a fill has failed, or a piece is longer than any vector. -/
structure Delivers (maxRecordBytes : Nat) (stream : List UInt8) (reader : BufRead ε)
    (metrics : RawIngressMetrics)
    (outcome : Except (Abrupt ε) BoundedRecord × ReadState ε) : Prop where
  retained : outcome.2.metrics.maxRetainedRecordBytes ≤
    max metrics.maxRetainedRecordBytes (maxRecordBytes + 1)
  fills : ∃ calls, ∀ n, outcome.2.reader.fills n = reader.fills (n + calls)
  record : ∀ record, outcome.1 = .ok record →
    (record = .eof ∧ stream = []) ∨
      ∃ piece, pieces newlineByte stream =
          piece :: pieces newlineByte outcome.2.reader.pending ∧
        record = frame maxRecordBytes piece ∧
        outcome.2.reader.pending.length < stream.length
  failed : ∀ error, outcome.1 = .error (.error error) → ∃ n, reader.fills n = .error error
  overflow : outcome.1 = .error .capacityOverflow → isizeMax ≤ maxRecordBytes ∧
    ∃ piece ∈ pieces newlineByte stream, isizeMax < piece.length

/-- The part of a buffer in front of its newline. -/
theorem notMem_take_newline (buffer : List UInt8) : newlineByte ∉
    buffer.take ((buffer.findIdx? (· == newlineByte)).getD buffer.length) := by
  cases hnewline : buffer.findIdx? (· == newlineByte) with
  | none =>
    rw [Option.getD_none, List.take_length]
    exact notMem_of_findIdx?_eq_none hnewline
  | some index => exact (eq_of_findIdx?_eq_some hnewline).2

/-- A later read of the same stream. -/
theorem Delivers.of_filled {reader : BufRead ε} {stream : List UInt8} {amount : Nat}
    {metrics' : RawIngressMetrics}
    {outcome : Except (Abrupt ε) BoundedRecord × ReadState ε}
    (h : Delivers maxRecordBytes stream (reader.filled.consume amount) metrics' outcome)
    (hretained : metrics'.maxRetainedRecordBytes ≤
      max metrics.maxRetainedRecordBytes (maxRecordBytes + 1)) :
    Delivers maxRecordBytes stream reader metrics outcome where
  retained := le_trans h.retained (max_le hretained (le_max_right _ _))
  fills := by
    obtain ⟨calls, hcalls⟩ := h.fills
    exact ⟨calls + 1, fun n ↦ hcalls n⟩
  record := h.record
  failed := by
    intro error herror
    obtain ⟨n, hn⟩ := h.failed error herror
    exact ⟨n + 1, hn⟩
  overflow := h.overflow

theorem readLoop_delivers {reader : BufRead ε} (h : Gathered maxRecordBytes seen state)
    (hseen : newlineByte ∉ seen) (hinput : state.sawInput = !seen.isEmpty) :
    Delivers maxRecordBytes (seen ++ reader.pending) reader metrics
      (readLoop maxRecordBytes state reader metrics) := by
  induction hlength : reader.pending.length using Nat.strong_induction_on generalizing
    seen state reader metrics with
  | h length ih =>
  rw [readLoop]
  split
  next error herror =>
    exact
      { retained := le_max_left _ _
        fills := ⟨1, fun _ ↦ rfl⟩
        record := fun _ hrecord ↦ (by cases hrecord)
        failed := fun _ hfailed ↦ ⟨0, by cases hfailed; exact BufRead.fillBuf_eq_error herror⟩
        overflow := fun hoverflow ↦ (by cases hoverflow) }
  next buffer hbuffer =>
  obtain ⟨hpending, hnil⟩ := BufRead.fillBuf_eq_ok hbuffer
  split
  next hempty =>
    -- The end of the stream.
    have hend := hnil.mp (List.isEmpty_iff.mp hempty)
    refine
      { retained := le_max_left _ _
        fills := ⟨1, fun _ ↦ rfl⟩
        record := fun record hrecord ↦ ?_
        failed := fun _ hfailed ↦ (by cases hfailed)
        overflow := fun hoverflow ↦ (by cases hoverflow) }
    cases hrecord
    dsimp only
    rw [BufRead.pending_filled, hend, List.append_nil, hinput, h.finishRecord_eq]
    cases seen with
    | nil => exact .inl ⟨rfl, rfl⟩
    | cons byte rest =>
      refine .inr ⟨byte :: rest, ?_, rfl, Nat.zero_lt_succ _⟩
      rw [pieces_eq_singleton hseen (List.cons_ne_nil _ _), pieces_nil]
  next hempty =>
  have hdata := notMem_take_newline buffer
  have hpiece : newlineByte ∉ seen ++
      buffer.take ((buffer.findIdx? (· == newlineByte)).getD buffer.length) := by
    simp [hseen, hdata]
  dsimp only
  split
  next hnone =>
    obtain ⟨hlimit, hlong⟩ := h.gather_eq_none hnone
    refine
      { retained := le_max_left _ _
        fills := ⟨1, fun _ ↦ rfl⟩
        record := fun _ hrecord ↦ (by cases hrecord)
        failed := fun _ hfailed ↦ (by cases hfailed)
        overflow := fun _ ↦ ⟨hlimit, ?_⟩ }
    have hne : seen ++ buffer.take ((buffer.findIdx? (· == newlineByte)).getD buffer.length) ≠ [] :=
      List.ne_nil_of_length_pos (by omega)
    obtain ⟨more, hmore⟩ := exists_piece_append hpiece hne
      (buffer.drop ((buffer.findIdx? (· == newlineByte)).getD buffer.length) ++
        reader.pending.drop buffer.length)
    rw [List.append_assoc seen, ← List.append_assoc (List.take _ _), List.take_append_drop,
      ← hpending] at hmore
    exact ⟨_, hmore, by rw [List.length_append]; omega⟩
  next state' metrics' hsome =>
    obtain ⟨hgathered, hsaw, hretained⟩ := h.gather_eq_some hsome
    split
    next index hnewline =>
      rw [hnewline, Option.getD_some] at hgathered hpiece
      have hbuffered := (eq_of_findIdx?_eq_some hnewline).1
      have hindex := (List.findIdx?_eq_some_iff_getElem.mp hnewline).1
      have hrest : reader.pending.drop (index + 1) =
          buffer.drop (index + 1) ++ reader.pending.drop buffer.length := by
        conv_lhs => rw [hpending]
        exact List.drop_append_of_le_length hindex
      have hstream : seen ++ reader.pending =
          (seen ++ buffer.take index) ++ newlineByte :: reader.pending.drop (index + 1) := by
        rw [hrest, List.append_assoc, ← List.cons_append, ← List.append_assoc (buffer.take index),
          ← hbuffered, ← hpending]
      refine
        { retained := hretained
          fills := ⟨1, fun _ ↦ rfl⟩
          record := fun record hrecord ↦ ?_
          failed := fun _ hfailed ↦ (by cases hfailed)
          overflow := fun hoverflow ↦ (by cases hoverflow) }
      cases hrecord
      refine .inr ⟨seen ++ buffer.take index, ?_, hgathered.finishRecord_eq, ?_⟩
      · rw [hstream, pieces_append_cons hpiece]
        rfl
      · rw [hstream, List.length_append, List.length_cons]
        exact Nat.lt_add_left _ (Nat.lt_succ_self _)
    next hnewline =>
      rw [hnewline, Option.getD_none, List.take_length] at hgathered hpiece
      have hshrinks := BufRead.length_consume_buffer_lt hbuffer hempty
      have hstream : seen ++ reader.pending =
          (seen ++ buffer) ++ (reader.filled.consume buffer.length).pending := by
        rw [List.append_assoc]
        exact congrArg (seen ++ ·) hpending
      rw [hstream]
      refine (ih _ (hlength ▸ hshrinks) hgathered hpiece ?_ rfl).of_filled hretained
      cases buffer with
      | nil => exact absurd rfl hempty
      | cons byte rest => simp [hsaw]

end Aivtuber
