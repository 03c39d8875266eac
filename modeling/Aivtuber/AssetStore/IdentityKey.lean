import Std.Data.String.ToNat
import Aivtuber.AssetStore.Asset
import Aivtuber.Base.PrefixCode

/-!
# Keys of identities

A plan keeps the key of the asset that was scheduled, and the asset that is played must still
have that key.  A value stands in the key behind its length in bytes, so that it may hold the
separators and the numerals of the key itself.
-/

open Aivtuber.Text

namespace Aivtuber

/-! ## Lengths -/

/-- The numeral of a length, in bytes. -/
def lengthNumeral (n : Nat) : List UInt8 := utf8 (toString n)

theorem lengthNumeral_injective : Function.Injective lengthNumeral := by
  intro m n h
  exact Nat.repr_injective (utf8_injective h)

theorem isDigit_of_mem_lengthNumeral {n : Nat} {b : UInt8} (h : b ∈ lengthNumeral n) :
    Text.isDigit b = true := by
  rw [lengthNumeral, utf8_toString] at h
  obtain ⟨c, hc, rfl⟩ := List.mem_map.mp h
  exact isDigit_byte (Nat.isDigit_of_mem_toDigits (by decide) (by decide) hc)

theorem notMem_lengthNumeral {b : UInt8} (h : Text.isDigit b = false) (n : Nat) :
    b ∉ lengthNumeral n := by
  intro hmem
  rw [isDigit_of_mem_lengthNumeral hmem] at h
  cases h

theorem lengthNumeral_ne_nil (n : Nat) : lengthNumeral n ≠ [] := by
  rw [lengthNumeral, utf8_toString]
  exact mt List.map_eq_nil_iff.mp Nat.toDigits_ne_nil

/-! ## Components -/

/-- A value behind its length, or the mark of a value that is missing. -/
def encodedValue (value : Option (List UInt8)) : List UInt8 :=
  value.elim [byte '-'] fun text ↦ lengthNumeral text.length ++ byte ':' :: text

theorem encodedValue_prefixCode : PrefixCode encodedValue := by
  refine PrefixCode.option (PrefixCode.netstring lengthNumeral_injective
    (notMem_lengthNumeral rfl)) fun text ↦ ?_
  cases hnumeral : lengthNumeral text.length with
  | nil => exact absurd hnumeral (lengthNumeral_ne_nil _)
  | cons c word =>
    refine ⟨c, word ++ byte ':' :: text, rfl, ?_⟩
    rintro rfl
    apply notMem_lengthNumeral (b := byte '-') rfl text.length
    rw [hnumeral]
    exact List.mem_cons_self

theorem utf8_identityComponent (name : String) (value : Option String) :
    utf8 (identityComponent name value) =
      utf8 name ++ byte '=' :: encodedValue (value.map utf8) ++ [byte '|'] := by
  have hmarks : utf8 "=" = [byte '='] ∧ utf8 ":" = [byte ':'] ∧ utf8 "-" = [byte '-'] ∧
      utf8 "|" = [byte '|'] := ⟨rfl, rfl, rfl, rfl⟩
  obtain ⟨hequals, hcolon, hdash, hbar⟩ := hmarks
  cases value with
  | none =>
    simp [identityComponent, encodedValue, hequals, hdash, hbar]
  | some value =>
    simp [identityComponent, encodedValue, lengthNumeral, length_utf8, hequals, hcolon, hbar]

theorem identityComponent_prefixCode (name : String) :
    PrefixCode fun value ↦ utf8 (identityComponent name value) := by
  have hvalue : PrefixCode fun value : Option String ↦ encodedValue (value.map utf8) :=
    encodedValue_prefixCode.comap (Option.map_injective fun _ _ ↦ utf8_injective)
  have hcomponent := (hvalue.lead (utf8 name ++ [byte '='])).trail [byte '|']
  intro a b x y h
  simp only [utf8_identityComponent] at h
  apply hcomponent
  simpa using h

/-! ## Keys -/

/-- **Keys of identities.**  Two identities have the same key only if they are the same. -/
theorem stableKey_injective : Function.Injective AssetIdentity.stableKey := by
  intro a b h
  have hkey : utf8 a.stableKey ++ [] = utf8 b.stableKey ++ [] := by rw [h]
  simp only [AssetIdentity.stableKey, utf8_append, List.append_assoc] at hkey
  obtain ⟨hid, hkey⟩ := identityComponent_prefixCode "id" hkey
  obtain ⟨hschema, hkey⟩ := identityComponent_prefixCode "schema" hkey
  obtain ⟨hcompiler, hkey⟩ := identityComponent_prefixCode "compiler" hkey
  obtain ⟨hvoice, hkey⟩ := identityComponent_prefixCode "voice" hkey
  obtain ⟨havatar, hkey⟩ := identityComponent_prefixCode "avatar" hkey
  obtain ⟨hviseme, hkey⟩ := identityComponent_prefixCode "viseme" hkey
  obtain ⟨hmotion, -⟩ := identityComponent_prefixCode "motion" hkey
  cases a
  cases b
  cases hid
  cases hschema
  cases hcompiler
  cases hvoice
  cases havatar
  cases hviseme
  cases hmotion
  rfl

end Aivtuber
