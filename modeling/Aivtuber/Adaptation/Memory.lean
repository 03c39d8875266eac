import Aivtuber.Domain.Context

/-!
# Memories

The data of `WorkingMemory` in `crates/adaptation/src/lib.rs`: entries with their source,
class and lifetime, the links between them, and the permit of `crates/runtime/src/lib.rs`
that a durable write needs.
-/

open Aivtuber.Check Aivtuber.Text

namespace Aivtuber

/-- What is computed outside of the source: the lower case of the Unicode tables, and
HMAC-SHA256 under a key. -/
structure MemoryPrimitives where
  toLowercase : String → String
  hmacSha256 : List UInt8 → List UInt8 → List UInt8

/-- The lower case of ASCII texts, for a store that names no actors. -/
def MemoryPrimitives.ascii : MemoryPrimitives where
  toLowercase value := String.ofList (value.toList.map Char.toLower)
  hmacSha256 _ _ := []

/-- An authentication code in clear, which tells all messages apart. -/
def MemoryPrimitives.clear : MemoryPrimitives where
  toLowercase := ascii.toLowercase
  hmacSha256 key message := key ++ message

theorem MemoryPrimitives.clear_injective (key : List UInt8) :
    Function.Injective (clear.hmacSha256 key) := fun _ _ h ↦ List.append_cancel_left h

inductive RetentionClass where
  | working | durable
deriving DecidableEq, Repr

inductive MemoryWriteDecision where
  | allowedSystemSource | allowedMemoryAdmin | denied
deriving DecidableEq, Repr

/-- The proof that one source event may be written. -/
structure MemoryWritePermit where
  eventId : String
  source : String
  sourceClass : SourceClass
  trustLevel : TrustLevel
  actorId : Option String
  decision : MemoryWriteDecision
  /-- The claim that the event itself carried. -/
  sourceClaim : Option String
deriving DecidableEq, Repr

inductive MemoryGateDecision where
  | workingOnly | allowedSystemSource | allowedMemoryAdmin
deriving DecidableEq, Repr

def MemoryWriteDecision.toGate : MemoryWriteDecision → MemoryGateDecision
  | .allowedSystemSource => .allowedSystemSource
  | .allowedMemoryAdmin => .allowedMemoryAdmin
  | .denied => .workingOnly

abbrev MemoryEpistemicClass := EpistemicClass

structure MemorySourceMetadata where
  eventId : String
  source : String
  sourceClass : SourceClass
  trustLevel : TrustLevel
  pseudonymousActorId : Option String
deriving DecidableEq, Repr

structure MemoryEntry where
  source : MemorySourceMetadata
  normalizedClaim : String
  topic : Option String
  createdAtMs : Nat
  expiresAtMs : Nat
  retention : RetentionClass
  writeDecision : MemoryGateDecision
  epistemicClass : MemoryEpistemicClass
  epistemicVersion : String
  /-- The identity of the node, zero before it is stored. -/
  memoryId : Nat
deriving DecidableEq, Repr

/-- An entry is visible from its record time up to its expiry. -/
def MemoryEntry.live (entry : MemoryEntry) (nowMs : Nat) : Bool :=
  nowMs < entry.expiresAtMs && entry.createdAtMs ≤ nowMs

def memoryLinkVocabVersion : String := "memory-link-v2"
def memoryEpistemicVocabVersion : String := "memory-epistemic-v1"

/-- The raw declarations of one write, for each link that it may create. -/
def supersessionDeclarationFactor : Nat := 8

inductive MemoryLinkKind where
  | temporalBefore | supersedes | causedBy
deriving DecidableEq, Repr

/-- A link from one node to another. -/
structure MemoryLink where
  source : Nat
  target : Nat
  kind : MemoryLinkKind
  createdAtMs : Nat
deriving DecidableEq, Repr

/-- The evidence of a durable write: source event ids of retained memories. -/
structure MemoryEvidence where
  supersedes : List String
  causedBy : List String
deriving DecidableEq, Repr

/-- The relation that a declared target is resolved for. -/
inductive DeclaredRelation where
  | supersession | causal
deriving DecidableEq, Repr

namespace DeclaredRelation

def missing : DeclaredRelation → String
  | supersession => "supersession target must be a retained durable memory"
  | causal => "causal target must be a retained durable memory"

def expired : DeclaredRelation → String
  | supersession =>
    "supersession target has expired; an expired memory cannot authorize an update relation"
  | causal =>
    "causal target has expired; an expired memory cannot authorize a causal relation"

def ambiguous : DeclaredRelation → String
  | supersession =>
    "supersession target is ambiguous: one source event id matches more than one retained " ++
    "durable memory, and links must not guess which node the caller meant"
  | causal =>
    "causal target is ambiguous: one source event id matches more than one retained durable " ++
    "memory, and links must not guess which node the caller meant"

def recordedInTheFuture : DeclaredRelation → String
  | supersession =>
    "supersession target was recorded after the superseding write; a claim cannot replace " ++
    "evidence from its own future"
  | causal =>
    "causal target was recorded after the write that declares it; a claim cannot be caused by " ++
    "evidence from its own future"

end DeclaredRelation

inductive AdaptationError where
  | invalidConfiguration (message : String)
  | invalidInput (message : String)
  | invariant (message : String)
deriving DecidableEq, Repr

/-! ## Texts -/

def normalize (primitives : MemoryPrimitives) (value : String) : String :=
  primitives.toLowercase (" ".intercalate (splitWhitespace value))

/-- A verified fact is stored complete, or not at all. -/
def requireCompleteVerifiedClaim (primitives : MemoryPrimitives) (value : String) (maxBytes : Nat)
    (epistemicClass : MemoryEpistemicClass) : Except AdaptationError Unit :=
  ensure (.invalidInput <| "a verified-fact claim longer than max_claim_bytes would be stored " ++
      "truncated and could lose the negation or qualifier that bounded it; shorten the source " ++
      "event's own claim or raise max_claim_bytes")
    (!(epistemicClass = .verifiedFact && maxBytes < (normalize primitives value).utf8ByteSize))

def boundedNonempty (primitives : MemoryPrimitives) (value : String) (maxBytes : Nat)
    (field : String) : Except AdaptationError String := do
  let normalized := normalize primitives value
  ensure (.invalidInput field) (normalized ≠ "")
  .ok (truncateUtf8 normalized maxBytes)

def boundedOptional (primitives : MemoryPrimitives) (value : Option String) (maxBytes : Nat)
    (field : String) : Except AdaptationError (Option String) :=
  match value with
  | none => .ok none
  | some value => (boundedNonempty primitives value maxBytes field).map some

/-! ## Actors -/

/-- A key for the pseudonyms of actors. -/
structure ActorPseudonymizer where
  keyVersion : String
  key : List UInt8
deriving DecidableEq

namespace ActorPseudonymizer

def isKeyVersionByte (b : UInt8) : Bool :=
  isDigit b || (byte 'a' ≤ b && b ≤ byte 'z') || (byte 'A' ≤ b && b ≤ byte 'Z') ||
    b = byte '.' || b = byte '_' || b = byte '-'

/-- A key has 32 bytes. -/
def new (keyVersion : String) (key : Vector UInt8 32) :
    Except AdaptationError ActorPseudonymizer := do
  ensure (.invalidConfiguration "pseudonym key_version must be 1..=64 bytes of [A-Za-z0-9._-]")
    (keyVersion ≠ "" && keyVersion.utf8ByteSize ≤ 64 && (utf8 keyVersion).all isKeyVersionByte)
  ensure (.invalidConfiguration "pseudonym key must not be all zeroes")
    (!key.toList.all (· = 0))
  .ok ⟨keyVersion, key.toList⟩

/-- The length in eight bytes, and the value. -/
def lenPrefixed (value : String) : List UInt8 :=
  (List.range 8).map (fun i ↦ UInt8.ofNat (value.utf8ByteSize / 256 ^ (7 - i))) ++ utf8 value

def hexByte (b : UInt8) : String :=
  String.ofList [Nat.digitChar (b.toNat / 16), Nat.digitChar (b.toNat % 16)]

def pseudonymize (pseudonymizer : ActorPseudonymizer) (primitives : MemoryPrimitives)
    (sourceNamespace actorId : String) : String :=
  let digest := primitives.hmacSha256 pseudonymizer.key
    (utf8 "aivtuber.actor-pseudonym.v1" ++ [0] ++ lenPrefixed pseudonymizer.keyVersion ++
      lenPrefixed sourceNamespace ++ lenPrefixed actorId)
  "actor:" ++ pseudonymizer.keyVersion ++ ":" ++ String.join (digest.map hexByte)

/-- A pseudonym that stands for one actor. -/
def DistinguishesActor (pseudonymizer : ActorPseudonymizer) (primitives : MemoryPrimitives)
    (sourceNamespace actorId : String) : Prop :=
  ∀ otherNamespace otherActor,
    pseudonymizer.pseudonymize primitives otherNamespace otherActor =
      pseudonymizer.pseudonymize primitives sourceNamespace actorId →
    otherNamespace = sourceNamespace ∧ otherActor = actorId

theorem hexByte_toList (b : UInt8) :
    (hexByte b).toList = [Nat.digitChar (b.toNat / 16), Nat.digitChar (b.toNat % 16)] :=
  String.toList_ofList

theorem digitChar_injective : ∀ a b : Fin 16, Nat.digitChar a = Nat.digitChar b → a = b := by
  decide

theorem hexByte_injective : Function.Injective hexByte := by
  intro a b h
  have hlist := congrArg String.toList h
  rw [hexByte_toList, hexByte_toList, List.cons.injEq, List.cons.injEq] at hlist
  have hhigh := digitChar_injective ⟨a.toNat / 16, by have := a.toNat_lt; omega⟩
    ⟨b.toNat / 16, by have := b.toNat_lt; omega⟩ hlist.1
  have hlow := digitChar_injective ⟨a.toNat % 16, by omega⟩ ⟨b.toNat % 16, by omega⟩ hlist.2.1
  rw [Fin.mk.injEq] at hhigh hlow
  apply UInt8.toNat_inj.mp
  omega

/-- Hexadecimal digits tell digests apart. -/
theorem join_hexByte_injective {digest digest' : List UInt8}
    (h : String.join (digest.map hexByte) = String.join (digest'.map hexByte)) :
    digest = digest' := by
  have hlength (digest : List UInt8) :
      (String.join (digest.map hexByte)).length = 2 * digest.length := by
    rw [String.length_join, List.map_map]
    induction digest with
    | nil => rfl
    | cons b digest ih =>
      have hbyte : (hexByte b).length = 2 := by
        rw [← String.length_toList, hexByte_toList]
        rfl
      rw [List.map_cons, List.sum_cons, ih, List.length_cons, Function.comp_apply, hbyte]
      omega
  induction digest generalizing digest' with
  | nil =>
    have hempty := hlength digest'
    rw [← h] at hempty
    change 0 = _ at hempty
    exact (List.eq_nil_of_length_eq_zero (by omega)).symm
  | cons b digest ih =>
    cases digest' with
    | nil =>
      have hempty := hlength (b :: digest)
      rw [h] at hempty
      cases hempty
    | cons b' digest' =>
      rw [List.map_cons, List.map_cons, String.join_cons, String.join_cons] at h
      have hlist := congrArg String.toList h
      rw [String.toList_append, String.toList_append] at hlist
      obtain ⟨hfirst, hrest⟩ := List.append_inj hlist (by
        rw [hexByte_toList, hexByte_toList]
        rfl)
      rw [hexByte_injective (String.toList_inj.mp hfirst), ih (String.toList_inj.mp hrest)]

/-- A number is its bytes. -/
theorem eq_of_bytes {count n m : Nat} (hn : n < 256 ^ count) (hm : m < 256 ^ count)
    (h : ∀ i < count, n / 256 ^ i % 256 = m / 256 ^ i % 256) : n = m := by
  induction count generalizing n m with
  | zero => omega
  | succ count ih =>
    have hlow := h 0 (Nat.zero_lt_succ count)
    rw [Nat.pow_zero, Nat.div_one, Nat.div_one] at hlow
    have hhigh : n / 256 = m / 256 := by
      apply ih
      · rw [Nat.div_lt_iff_lt_mul (by decide), ← Nat.pow_succ]
        exact hn
      · rw [Nat.div_lt_iff_lt_mul (by decide), ← Nat.pow_succ]
        exact hm
      · intro i hi
        have hbyte := h (i + 1) (Nat.succ_lt_succ hi)
        rwa [Nat.pow_succ, Nat.mul_comm, ← Nat.div_div_eq_div_mul, ← Nat.div_div_eq_div_mul]
          at hbyte
    rw [← Nat.div_add_mod n 256, ← Nat.div_add_mod m 256, hlow, hhigh]

/-- Eight bytes tell lengths apart. -/
theorem lengthBytes_injective {n m : Nat} (hn : n < 256 ^ 8) (hm : m < 256 ^ 8)
    (h : (List.range 8).map (fun i ↦ UInt8.ofNat (n / 256 ^ (7 - i))) =
      (List.range 8).map fun i ↦ UInt8.ofNat (m / 256 ^ (7 - i))) : n = m := by
  refine eq_of_bytes hn hm fun i hi ↦ ?_
  have hbyte := List.map_inj_left.mp h (7 - i) (List.mem_range.mpr (by omega))
  rw [Nat.sub_sub_self (Nat.le_of_lt_succ hi)] at hbyte
  simpa using congrArg UInt8.toNat hbyte

theorem length_lenPrefixed (value : String) :
    (lenPrefixed value).length = 8 + value.utf8ByteSize := by
  rw [lenPrefixed, List.length_append, List.length_map, List.length_range, length_utf8]

theorem lenPrefixed_append_inj {value other : String} {rest rest' : List UInt8}
    (hvalue : value.utf8ByteSize < 2 ^ 64) (hother : other.utf8ByteSize < 2 ^ 64)
    (h : lenPrefixed value ++ rest = lenPrefixed other ++ rest') : value = other ∧ rest = rest' := by
  rw [lenPrefixed, lenPrefixed, List.append_assoc, List.append_assoc] at h
  obtain ⟨hlength, h⟩ := List.append_inj h (by rw [List.length_map, List.length_map])
  have hsize := lengthBytes_injective hvalue hother hlength
  obtain ⟨hbytes, hrest⟩ := List.append_inj h (by rwa [length_utf8, length_utf8])
  exact ⟨utf8_injective hbytes, hrest⟩

/-- A pseudonym stands for one actor, when the authentication code tells messages apart. -/
theorem distinguishesActor {pseudonymizer : ActorPseudonymizer} {primitives : MemoryPrimitives}
    {sourceNamespace actorId : String}
    (hmac : Function.Injective (primitives.hmacSha256 pseudonymizer.key))
    (hsize : sourceNamespace.utf8ByteSize + actorId.utf8ByteSize < 2 ^ 64) :
    pseudonymizer.DistinguishesActor primitives sourceNamespace actorId := by
  intro otherNamespace otherActor h
  have hmessage := hmac (join_hexByte_injective ((String.append_right_inj _).mp h))
  simp only [List.append_assoc, List.append_cancel_left_eq] at hmessage
  have hlengths := congrArg List.length hmessage
  simp only [List.length_append, length_lenPrefixed] at hlengths
  obtain ⟨hnamespace, hactor⟩ := lenPrefixed_append_inj (by omega) (by omega) hmessage
  have hlast : lenPrefixed otherActor ++ [] = lenPrefixed actorId ++ [] := by rw [hactor]
  exact ⟨hnamespace, (lenPrefixed_append_inj (by omega) (by omega) hlast).1⟩

end ActorPseudonymizer

/-- Claims of this class of sources are the stream's knowledge. -/
def sourceClassIsShared : SourceClass → Bool
  | .system | .speech | .game | .stream | .timer => true
  | .publicChat | .donation | .operator => false

end Aivtuber
