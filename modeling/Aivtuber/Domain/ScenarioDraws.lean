import Mathlib.Data.Nat.Periodic
import Aivtuber.Base.SplitMix

/-!
# Draws of a scenario

`SplitMix64::below` of `crates/domain/src/scenario.rs` rejects the words below a threshold, so that
as many words are left for each remainder.  Its loop has an end from every state, because the
states come past every word.
-/

namespace Aivtuber

/-! ## Remainders -/

section Remainders

variable {bound residue : Nat}

/-- In as many numbers as there are remainders, each remainder occurs once. -/
theorem card_residue_period (h : residue < bound) (start : Nat) :
    ((Finset.Ico start (start + bound)).filter fun n ↦ n % bound = residue).card = 1 := by
  have hperiodic : Function.Periodic (fun n ↦ n % bound = residue) bound := by
    intro n
    show ((n + bound) % bound = residue) = _
    rw [Nat.add_mod_right]
  rw [Nat.filter_Ico_card_eq_of_periodic _ _ _ hperiodic, Nat.count_eq_card_filter_range,
    Finset.card_eq_one]
  refine ⟨residue, Finset.ext fun n ↦ ?_⟩
  rw [Finset.mem_filter, Finset.mem_range, Finset.mem_singleton]
  constructor
  · rintro ⟨hn, hresidue⟩
    rwa [Nat.mod_eq_of_lt hn] at hresidue
  · rintro rfl
    exact ⟨h, Nat.mod_eq_of_lt h⟩

theorem card_residue (h : residue < bound) (start periods : Nat) :
    ((Finset.Ico start (start + periods * bound)).filter fun n ↦ n % bound = residue).card =
      periods := by
  induction periods with
  | zero => simp
  | succ periods ih =>
    have hsplit : Finset.Ico start (start + (periods + 1) * bound) =
        Finset.Ico start (start + periods * bound) ∪
          Finset.Ico (start + periods * bound) (start + periods * bound + bound) := by
      rw [Finset.Ico_union_Ico_eq_Ico (Nat.le_add_right _ _) (Nat.le_add_right _ _),
        Nat.succ_mul, Nat.add_assoc]
    have hdisjoint : Disjoint
        ((Finset.Ico start (start + periods * bound)).filter fun n ↦ n % bound = residue)
        ((Finset.Ico (start + periods * bound) (start + periods * bound + bound)).filter
          fun n ↦ n % bound = residue) :=
      (Finset.Ico_disjoint_Ico_consecutive _ _ _).mono (Finset.filter_subset _ _)
        (Finset.filter_subset _ _)
    rw [hsplit, Finset.filter_union, Finset.card_union_of_disjoint hdisjoint, ih,
      card_residue_period h]

end Remainders

end Aivtuber

namespace SplitMix64

variable {rng : SplitMix64} {least bound fuel n : Nat}

/-- The generator after some words. -/
def advanced (rng : SplitMix64) (n : Nat) : SplitMix64 := (fun rng ↦ rng.nextU64.2)^[n] rng

/-- The word after `n` others. -/
def candidate (rng : SplitMix64) (n : Nat) : Nat := (rng.advanced n).nextU64.1.toNat

theorem advanced_succ (rng : SplitMix64) (n : Nat) :
    rng.advanced (n + 1) = rng.nextU64.2.advanced n := Function.iterate_succ_apply _ _ _

theorem candidate_succ (rng : SplitMix64) (n : Nat) :
    rng.candidate (n + 1) = rng.nextU64.2.candidate n := by
  rw [candidate, advanced_succ, candidate]

theorem advanced_state (rng : SplitMix64) (n : Nat) :
    (rng.advanced n).state = rng.state + BitVec.ofNat 64 n * golden := by
  induction n generalizing rng with
  | zero =>
    rw [BitVec.zero_mul, BitVec.add_zero]
    rfl
  | succ n ih =>
    rw [advanced_succ, ih, Nat.add_comm n 1, BitVec.ofNat_add, BitVec.add_mul, BitVec.one_mul,
      ← BitVec.add_assoc]
    rfl

theorem candidate_eq_word (rng : SplitMix64) (n : Nat) : rng.candidate n = (rng.word n).toNat := by
  rw [candidate, nextU64_fst, word, advanced_state, word, Nat.zero_add, BitVec.one_mul,
    BitVec.ofNat_add, BitVec.add_mul, BitVec.one_mul, BitVec.add_assoc]

/-- **The full period.**  The states come past every word. -/
theorem exists_advanced (rng : SplitMix64) (value : BitVec 64) :
    ∃ n < 2 ^ 64, (rng.advanced n).state = value := by
  have hgolden : (0xF1DE83E19937733D#64 * golden) = 1#64 := by decide
  refine ⟨((value - rng.state) * 0xF1DE83E19937733D#64).toNat, BitVec.isLt _, ?_⟩
  rw [advanced_state, BitVec.ofNat_toNat, BitVec.setWidth_eq, BitVec.mul_assoc, hgolden,
    BitVec.mul_one, BitVec.add_comm, BitVec.sub_add_cancel]

/-- The draw is the first candidate that is not rejected. -/
theorem drawAtLeast_first (hn : n < fuel) (haccepted : least ≤ rng.candidate n) :
    ∃ k ≤ n, (∀ m < k, rng.candidate m < least) ∧ least ≤ rng.candidate k ∧
      drawAtLeast least fuel rng = some (rng.candidate k, rng.advanced (k + 1)) := by
  induction fuel generalizing n rng with
  | zero => omega
  | succ fuel ih =>
    rw [drawAtLeast_succ]
    split
    case isFalse hfirst =>
      exact ⟨0, Nat.zero_le _, fun m hm ↦ absurd hm (Nat.not_lt_zero _),
        Nat.le_of_not_lt hfirst, rfl⟩
    case isTrue hrejected =>
      cases n with
      | zero => exact absurd haccepted (Nat.not_le.mpr hrejected)
      | succ n =>
        rw [candidate_succ] at haccepted
        obtain ⟨k, hk, hbefore, hdrawn, hdraw⟩ := ih (Nat.lt_of_succ_lt_succ hn) haccepted
        refine ⟨k + 1, Nat.succ_le_succ hk, fun m hm ↦ ?_, ?_, ?_⟩
        · cases m with
          | zero => exact hrejected
          | succ m =>
            rw [candidate_succ]
            exact hbefore m (Nat.lt_of_succ_lt_succ hm)
        · rwa [candidate_succ]
        · rw [hdraw, candidate_succ, advanced_succ rng (k + 1)]

/-- What a draw below a bound rejects: `bound.wrapping_neg() % bound`. -/
def threshold (bound : Nat) : Nat := (2 ^ 64 - bound) % bound

theorem threshold_eq (h : bound ≤ 2 ^ 64) : threshold bound = 2 ^ 64 % bound := by
  rw [threshold]
  conv_rhs => rw [← Nat.sub_add_cancel h, Nat.add_mod_right]

/-- The words that are left are as many periods of the remainders as fit. -/
theorem threshold_add (h : bound ≤ 2 ^ 64) :
    threshold bound + 2 ^ 64 / bound * bound = 2 ^ 64 := by
  rw [threshold_eq h, Nat.mul_comm]
  exact Nat.mod_add_div _ _

/-- **No bias.**  As many of the accepted words have one remainder as have another. -/
theorem card_accepted (h : bound ≤ 2 ^ 64) {residue : Nat} (hresidue : residue < bound) :
    ((Finset.range (2 ^ 64)).filter fun word ↦
      threshold bound ≤ word ∧ word % bound = residue).card = 2 ^ 64 / bound := by
  refine Eq.trans ?_ (Aivtuber.card_residue hresidue (threshold bound) (2 ^ 64 / bound))
  rw [threshold_add h]
  refine congrArg Finset.card (Finset.ext fun word ↦ ?_)
  rw [Finset.mem_filter, Finset.mem_filter, Finset.mem_range, Finset.mem_Ico]
  constructor
  · rintro ⟨hword, haccepted, hrest⟩
    exact ⟨⟨haccepted, hword⟩, hrest⟩
  · rintro ⟨⟨haccepted, hword⟩, hrest⟩
    exact ⟨hword, haccepted, hrest⟩

end SplitMix64

namespace Aivtuber

open SplitMix64

/-- **An unbiased bounded draw.**  The states of a generator come past every word, a draw below a
bound takes the first candidate that is not rejected, and every remainder has as many words that
are not. -/
theorem below_unbiased (rng : SplitMix64) {bound : Nat} (hpos : 0 < bound)
    (hword : bound < 2 ^ 64) :
    (∀ value : BitVec 64, ∃ n < 2 ^ 64, (rng.advanced n).state = value) ∧
      (∃ n < 2 ^ 64, (∀ m < n, rng.candidate m < threshold bound) ∧
        threshold bound ≤ rng.candidate n ∧ rng.candidate n % bound < bound ∧
        rng.below bound = some (rng.candidate n % bound, rng.advanced (n + 1))) ∧
      ∀ residue < bound, ((Finset.range (2 ^ 64)).filter fun word ↦
        threshold bound ≤ word ∧ word % bound = residue).card = 2 ^ 64 / bound := by
  refine ⟨rng.exists_advanced, ?_, fun residue ↦ card_accepted hword.le⟩
  obtain ⟨n, hn, hlast⟩ := rng.exists_word (BitVec.allOnes 64)
  have haccepted : threshold bound ≤ rng.candidate n := by
    have hless : threshold bound < bound := Nat.mod_lt _ hpos
    rw [candidate_eq_word, hlast, BitVec.toNat_allOnes]
    omega
  obtain ⟨k, hk, hbefore, hdrawn, hdraw⟩ := drawAtLeast_first hn haccepted
  refine ⟨k, Nat.lt_of_le_of_lt hk hn, hbefore, hdrawn, Nat.mod_lt _ hpos, ?_⟩
  rw [below, if_neg hpos.ne', ← SplitMix64.threshold, hdraw]
  rfl

theorem below_unbiased_six :
    (∀ value : BitVec 64, ∃ n < 2 ^ 64, ((⟨0⟩ : SplitMix64).advanced n).state = value) ∧
      (∃ n < 2 ^ 64, (∀ m < n, (⟨0⟩ : SplitMix64).candidate m < threshold 6) ∧
        threshold 6 ≤ (⟨0⟩ : SplitMix64).candidate n ∧ (⟨0⟩ : SplitMix64).candidate n % 6 < 6 ∧
        (⟨0⟩ : SplitMix64).below 6 =
          some ((⟨0⟩ : SplitMix64).candidate n % 6, (⟨0⟩ : SplitMix64).advanced (n + 1))) ∧
      ∀ residue < 6, ((Finset.range (2 ^ 64)).filter fun word ↦
        threshold 6 ≤ word ∧ word % 6 = residue).card = 2 ^ 64 / 6 :=
  below_unbiased ⟨0⟩ (by decide) (by decide)

end Aivtuber
