import Mathlib.Algebra.Group.Nat.Defs
import Mathlib.Data.Rat.Defs
import Mathlib.Tactic.Common

/-!
# SplitMix64

A counter-based generator: the state grows by an odd constant, and a value is a mix of the
state.  Each step of the mix can be undone, so some state yields any given value, and the
counter comes past every state.  That is why a draw with rejection ends: one of the next
`2 ^ 64` candidates is the largest word, which no threshold rejects (`below_eq_some`).
-/

structure SplitMix64 where
  state : BitVec 64
deriving DecidableEq

namespace SplitMix64

/-- What the state grows by. -/
def golden : BitVec 64 := 0x9E3779B97F4A7C15#64

def mix (z : BitVec 64) : BitVec 64 :=
  let z := (z ^^^ (z >>> 30)) * 0xBF58476D1CE4E5B9#64
  let z := (z ^^^ (z >>> 27)) * 0x94D049BB133111EB#64
  z ^^^ (z >>> 31)

def nextU64 (rng : SplitMix64) : BitVec 64 × SplitMix64 :=
  let state := rng.state + golden
  (mix state, ⟨state⟩)

/-- The first of the next `fuel` candidates that is not below the threshold. -/
def drawAtLeast (threshold : Nat) : Nat → SplitMix64 → Option (Nat × SplitMix64)
  | 0, _ => none
  | fuel + 1, rng =>
    let (candidate, rng) := rng.nextU64
    if candidate.toNat < threshold then drawAtLeast threshold fuel rng
    else some (candidate.toNat, rng)

/-- Uniform in `[0, bound)`; a bound of 0 yields 0.  Candidates are drawn until one is not
rejected, from the whole period. -/
def below (rng : SplitMix64) (bound : Nat) : Option (Nat × SplitMix64) :=
  if bound = 0 then some (0, rng)
  else (drawAtLeast ((2 ^ 64 - bound) % bound) (2 ^ 64) rng).map fun (candidate, rng) ↦
    (candidate % bound, rng)

/-- Uniform in `[0, 1)`: the upper 53 bits of a word, as a fraction. -/
def unit (rng : SplitMix64) : ℚ × SplitMix64 :=
  let (word, rng) := rng.nextU64
  (((word >>> 11).toNat : ℚ) / 2 ^ 53, rng)

/-! ## Every value is a mix -/

/-- Undo a shift whose triple leaves the word. -/
def unshift (s : Nat) (z : BitVec 64) : BitVec 64 := z ^^^ (z >>> s) ^^^ (z >>> (2 * s))

theorem unshift_spec {s : Nat} (h : 64 ≤ 3 * s) (z : BitVec 64) :
    unshift s z ^^^ (unshift s z >>> s) = z := by
  apply BitVec.eq_of_getLsbD_eq
  intro i _
  have houtside : z.getLsbD (2 * s + (s + i)) = false := BitVec.getLsbD_of_ge z _ (by omega)
  have hagain : z.getLsbD (2 * s + i) = z.getLsbD (s + (s + i)) := by
    rw [show 2 * s + i = s + (s + i) by omega]
  simp only [unshift, BitVec.getLsbD_xor, BitVec.getLsbD_ushiftRight, houtside, hagain]
  cases z.getLsbD i <;> cases z.getLsbD (s + i) <;> cases z.getLsbD (s + (s + i)) <;> rfl

def unmix (z : BitVec 64) : BitVec 64 :=
  let z := unshift 31 z * 0x319642B2D24D8EC3#64
  let z := unshift 27 z * 0x96DE1B173F119089#64
  unshift 30 z

theorem mix_unmix (z : BitVec 64) : mix (unmix z) = z := by
  have hfirst : (0x96DE1B173F119089#64 * 0xBF58476D1CE4E5B9#64) = 1#64 := by decide
  have hsecond : (0x319642B2D24D8EC3#64 * 0x94D049BB133111EB#64) = 1#64 := by decide
  simp only [mix, unmix]
  rw [unshift_spec (by decide), BitVec.mul_assoc, hfirst, BitVec.mul_one,
    unshift_spec (by decide), BitVec.mul_assoc, hsecond, BitVec.mul_one,
    unshift_spec (by decide)]

/-! ## A draw ends -/

/-- The value after `n` others. -/
def word (rng : SplitMix64) (n : Nat) : BitVec 64 :=
  mix (rng.state + BitVec.ofNat 64 (n + 1) * golden)

theorem nextU64_fst (rng : SplitMix64) : rng.nextU64.1 = rng.word 0 := by
  rw [word, Nat.zero_add, BitVec.one_mul]
  rfl

theorem word_next (rng : SplitMix64) (n : Nat) : rng.nextU64.2.word n = rng.word (n + 1) := by
  have hstate : rng.nextU64.2.state = rng.state + golden := rfl
  have hsucc : BitVec.ofNat 64 (n + 1 + 1) = 1#64 + BitVec.ofNat 64 (n + 1) := by
    rw [Nat.add_comm, BitVec.ofNat_add]
  rw [word, word, hstate, hsucc, BitVec.add_mul, BitVec.one_mul, BitVec.add_assoc]

/-- The counter comes past every state within its period. -/
theorem exists_word (rng : SplitMix64) (value : BitVec 64) : ∃ n < 2 ^ 64, rng.word n = value := by
  have hgolden : (0xF1DE83E19937733D#64 * golden) = 1#64 := by decide
  let k := (unmix value - rng.state) * 0xF1DE83E19937733D#64
  refine ⟨(k - 1).toNat, (k - 1).isLt, ?_⟩
  have hk : BitVec.ofNat 64 ((k - 1).toNat + 1) = k := by
    rw [BitVec.ofNat_add, BitVec.ofNat_toNat, BitVec.setWidth_eq]
    exact BitVec.sub_add_cancel k 1
  rw [word, hk, BitVec.mul_assoc, hgolden, BitVec.mul_one, BitVec.add_comm, BitVec.sub_add_cancel,
    mix_unmix]

theorem drawAtLeast_succ (threshold fuel : Nat) (rng : SplitMix64) :
    drawAtLeast threshold (fuel + 1) rng =
      if rng.nextU64.1.toNat < threshold then drawAtLeast threshold fuel rng.nextU64.2
      else some (rng.nextU64.1.toNat, rng.nextU64.2) := rfl

theorem drawAtLeast_eq_some {threshold n fuel : Nat} {rng : SplitMix64} (hn : n < fuel)
    (hword : threshold ≤ (rng.word n).toNat) :
    ∃ draw, drawAtLeast threshold fuel rng = some draw := by
  induction fuel generalizing n rng with
  | zero => omega
  | succ fuel ih =>
    rw [drawAtLeast_succ]
    split
    case isFalse => exact ⟨_, rfl⟩
    case isTrue hrejected =>
      cases n with
      | zero =>
        rw [nextU64_fst] at hrejected
        omega
      | succ n =>
        rw [← word_next] at hword
        exact ih (by omega) hword

/-- **A draw ends**, within the bound. -/
theorem below_eq_some (rng : SplitMix64) {bound : Nat} (h : bound < 2 ^ 64) :
    ∃ value next, rng.below bound = some (value, next) ∧ (0 < bound → value < bound) := by
  rw [below]
  split
  case isTrue hzero => exact ⟨0, rng, rfl, fun hpos ↦ hpos⟩
  case isFalse hpos =>
    obtain ⟨n, hn, hword⟩ := rng.exists_word (BitVec.allOnes 64)
    have hthreshold : (2 ^ 64 - bound) % bound < bound := Nat.mod_lt _ (by omega)
    have hsome : ∃ draw, drawAtLeast ((2 ^ 64 - bound) % bound) (2 ^ 64) rng = some draw := by
      apply drawAtLeast_eq_some hn
      rw [hword, BitVec.toNat_allOnes]
      omega
    obtain ⟨draw, hdraw⟩ := hsome
    rw [hdraw]
    exact ⟨draw.1 % bound, draw.2, rfl, fun h ↦ Nat.mod_lt _ h⟩

end SplitMix64
