import Aivtuber.Base.Framing
import Aivtuber.Base.Saturating

/-!
# Raw ingress

`crates/app/src/raw_ingress.rs`: a reader thread drains newline-delimited records into a
bounded queue.  Records longer than the limit are read to their end and dropped; no more
than the limit and one boundary byte of a record are kept.

A reader shows its stream in buffers.  Where they are cut, and which reads fail, is up to a
schedule; so is whether the queue is full, or its receiver gone.  The vector of the kept
bytes has the capacity of any vector, and growing it beyond that panics.
-/

universe u

open Saturating

namespace Aivtuber

structure RawIngressConfig where
  maxRecordBytes : Nat
  queueCapacity : Nat
deriving DecidableEq, Repr

inductive RawIngressError (ε : Type u) where
  | invalidConfiguration (message : String)
  | io (error : ε)
deriving DecidableEq, Repr

/-- An error that is returned, or the panic of a vector that outgrows its capacity. -/
inductive Abrupt (ε : Type u) where
  | error (error : ε)
  | capacityOverflow
deriving DecidableEq, Repr

namespace RawIngressConfig

variable {ε : Type u}

def validate (config : RawIngressConfig) : Except (RawIngressError ε) Unit :=
  if config.maxRecordBytes = 0 then
    .error (.invalidConfiguration "max_record_bytes must be positive")
  else if config.maxRecordBytes = u64Max then
    .error (.invalidConfiguration "max_record_bytes must leave room for one boundary byte")
  else if config.queueCapacity = 0 then
    .error (.invalidConfiguration "queue_capacity must be positive")
  else .ok ()

end RawIngressConfig

/-- The counters; they wrap. -/
structure RawIngressMetrics where
  enqueued : Nat
  droppedQueueFull : Nat
  droppedOversize : Nat
  readErrors : Nat
  maxRetainedRecordBytes : Nat
deriving DecidableEq, Repr

def RawIngressMetrics.observeRetained (metrics : RawIngressMetrics) (bytes : Nat) :
    RawIngressMetrics :=
  { metrics with maxRetainedRecordBytes := max metrics.maxRetainedRecordBytes (min bytes u64Max) }

/-- The next value of a counter. -/
def fetchAdd (counter : Nat) : Nat := (counter + 1) % 2 ^ 64

inductive RawIngressExit where
  | eof
  | receiverDisconnected
deriving DecidableEq, Repr

inductive BoundedRecord where
  | eof
  | record (bytes : List UInt8)
  | oversized
deriving DecidableEq, Repr

/-! ## The surroundings -/

/-- A buffered reader: the bytes that are not consumed, and for each of the coming fills
either its error or by how much the buffer exceeds one byte. -/
structure BufRead (ε : Type u) where
  pending : List UInt8
  fills : Nat → Except ε Nat

namespace BufRead

variable {ε : Type u}

/-- The buffer; only at the end of the stream it is empty. -/
def fillBuf (reader : BufRead ε) : Except ε (List UInt8) :=
  (reader.fills 0).map fun more ↦ reader.pending.take (more + 1)

/-- The reader after a fill. -/
def filled (reader : BufRead ε) : BufRead ε :=
  { reader with fills := fun n ↦ reader.fills (n + 1) }

def consume (reader : BufRead ε) (amount : Nat) : BufRead ε :=
  { reader with pending := reader.pending.drop amount }

@[simp] theorem pending_filled (reader : BufRead ε) : reader.filled.pending = reader.pending := rfl

@[simp] theorem pending_consume (reader : BufRead ε) (amount : Nat) :
    (reader.consume amount).pending = reader.pending.drop amount := rfl

@[simp] theorem fills_filled (reader : BufRead ε) (n : Nat) :
    reader.filled.fills n = reader.fills (n + 1) := rfl

@[simp] theorem fills_consume (reader : BufRead ε) (amount : Nat) :
    (reader.consume amount).fills = reader.fills := rfl

/-- A buffer is a part of the stream, and empty only at its end. -/
theorem fillBuf_eq_ok {reader : BufRead ε} {buffer : List UInt8}
    (h : reader.fillBuf = .ok buffer) :
    reader.pending = buffer ++ reader.pending.drop buffer.length ∧
      (buffer = [] ↔ reader.pending = []) := by
  rw [fillBuf] at h
  cases hfill : reader.fills 0 with
  | error error =>
    rw [hfill] at h
    cases h
  | ok more =>
    rw [hfill] at h
    cases h
    constructor
    · have hdrop : reader.pending.drop (reader.pending.take (more + 1)).length =
          reader.pending.drop (more + 1) := by
        rw [List.length_take]
        rcases Nat.le_total (more + 1) reader.pending.length with hle | hle
        · rw [Nat.min_eq_left hle]
        · rw [Nat.min_eq_right hle, List.drop_length, List.drop_eq_nil_of_le hle]
      rw [hdrop, List.take_append_drop]
    · simp

theorem fillBuf_eq_error {reader : BufRead ε} {error : ε} (h : reader.fillBuf = .error error) :
    reader.fills 0 = .error error := by
  rw [fillBuf] at h
  cases hfill : reader.fills 0 with
  | error other =>
    rw [hfill] at h
    exact congrArg Except.error (Except.error.inj h)
  | ok more =>
    rw [hfill] at h
    cases h

end BufRead

inductive TrySendError where
  | full
  | disconnected
deriving DecidableEq, Repr

/-- The sender of the queue: what it took, and how it answers. -/
structure SyncSender where
  sent : List (List UInt8)
  answers : Nat → Except TrySendError Unit

def SyncSender.trySend (sender : SyncSender) (record : List UInt8) :
    Except TrySendError Unit × SyncSender :=
  let answer := sender.answers 0
  (answer,
    { sent := if answer.isOk then sender.sent ++ [record] else sender.sent
      answers := fun n ↦ sender.answers (n + 1) })

/-! ## The bounded reader -/

def newlineByte : UInt8 := 10

def carriageReturn : UInt8 := 13

/-- The capacity of a vector of bytes. -/
def isizeMax : Nat := 2 ^ 63 - 1

/-- The vector with more bytes, unless it panics. -/
def extendFromSlice (vector bytes : List UInt8) : Option (List UInt8) :=
  if vector.length + bytes.length ≤ isizeMax then some (vector ++ bytes) else none

theorem extendFromSlice_eq_none {vector bytes : List UInt8} :
    extendFromSlice vector bytes = none ↔ isizeMax < vector.length + bytes.length := by
  rw [extendFromSlice, ← Nat.not_le]
  split <;> simp_all

theorem extendFromSlice_eq_some {vector bytes vector' : List UInt8} :
    extendFromSlice vector bytes = some vector' ↔
      vector.length + bytes.length ≤ isizeMax ∧ vector ++ bytes = vector' := by
  rw [extendFromSlice, Option.ite_none_right_eq_some, Option.some.injEq]

/-- What is known of the current record. -/
structure Gathering where
  retained : List UInt8
  totalBytes : Nat
  sawInput : Bool
  definitelyOversized : Bool
deriving DecidableEq, Repr

namespace Gathering

def start : Gathering := ⟨[], 0, false, false⟩

/-- The record with the data of one more buffer, and the metrics. -/
def gather (state : Gathering) (maxRecordBytes : Nat) (data : List UInt8)
    (metrics : RawIngressMetrics) : Option (Gathering × RawIngressMetrics) :=
  let retainLimit := maxRecordBytes + 1
  let totalBytes := satAdd state.totalBytes data.length
  let state := { state with sawInput := true, totalBytes }
  if state.definitelyOversized then some (state, metrics)
  else
    let remaining := retainLimit - state.retained.length
    let copyLen := min data.length remaining
    (extendFromSlice state.retained (data.take copyLen)).map fun retained ↦
      ({ state with
          retained
          definitelyOversized := decide (totalBytes > retainLimit) },
        metrics.observeRetained retained.length)

def finishRecord (state : Gathering) (maxRecordBytes : Nat) : BoundedRecord :=
  if state.definitelyOversized then .oversized
  else
    let hadCr := state.retained.getLast? == some carriageReturn
    let retained := if hadCr then state.retained.dropLast else state.retained
    let logicalBytes := state.totalBytes - hadCr.toNat
    if logicalBytes > maxRecordBytes || retained.length > maxRecordBytes then .oversized
    else .record retained

end Gathering

section Reader

variable {ε : Type u}

/-- What a read leaves. -/
structure ReadState (ε : Type u) where
  reader : BufRead ε
  metrics : RawIngressMetrics

/-- What is consumed of a non-empty buffer is consumed of the stream. -/
theorem BufRead.length_consume_lt {reader : BufRead ε} {buffer : List UInt8} {amount : Nat}
    (h : reader.fillBuf = .ok buffer) (hne : ¬buffer.isEmpty) (hamount : 0 < amount) :
    (reader.filled.consume amount).pending.length < reader.pending.length := by
  have hpending : reader.pending ≠ [] :=
    mt (fillBuf_eq_ok h).2.mpr fun hnil ↦ hne (by rw [hnil]; rfl)
  have hpos := List.length_pos_iff.mpr hpending
  rw [pending_consume, pending_filled, List.length_drop]
  omega

theorem BufRead.length_consume_buffer_lt {reader : BufRead ε} {buffer : List UInt8}
    (h : reader.fillBuf = .ok buffer) (hne : ¬buffer.isEmpty) :
    (reader.filled.consume buffer.length).pending.length < reader.pending.length :=
  length_consume_lt h hne (List.length_pos_iff.mpr fun hnil ↦ hne (by rw [hnil]; rfl))

/-- The loop of `read_bounded_record`. -/
def readLoop (maxRecordBytes : Nat) (state : Gathering) (reader : BufRead ε)
    (metrics : RawIngressMetrics) : Except (Abrupt ε) BoundedRecord × ReadState ε :=
  match h : reader.fillBuf with
  | .error error => (.error (.error error), ⟨reader.filled, metrics⟩)
  | .ok buffer =>
    if hempty : buffer.isEmpty then
      (.ok (if state.sawInput then state.finishRecord maxRecordBytes else .eof),
        ⟨reader.filled, metrics⟩)
    else
      let newline := buffer.findIdx? (· == newlineByte)
      let dataLen := newline.getD buffer.length
      match state.gather maxRecordBytes (buffer.take dataLen) metrics with
      | none => (.error .capacityOverflow, ⟨reader.filled, metrics⟩)
      | some (state, metrics) =>
        match newline with
        | some index =>
          (.ok (state.finishRecord maxRecordBytes),
            ⟨reader.filled.consume (index + 1), metrics⟩)
        | none =>
          have := BufRead.length_consume_buffer_lt h hempty
          readLoop maxRecordBytes state (reader.filled.consume buffer.length) metrics
termination_by reader.pending.length
decreasing_by exact this

def readBoundedRecord (maxRecordBytes : Nat) (reader : BufRead ε) (metrics : RawIngressMetrics) :
    Except (Abrupt ε) BoundedRecord × ReadState ε :=
  readLoop maxRecordBytes .start reader metrics

end Reader

end Aivtuber
