import FlowTree.Json.Render
import Mathlib

/-! # The values of numbers

A finite double has a value, an integer times a power of two. The fraction that is read off its bits has the
same value. It is whole if and only if the value is an integer, and then that integer is what it is cut to. -/

namespace FlowTree

open Float.Model (UnpackedFloat Format)
open Float.Model.UnpackedFloat (Sign unpackExponent unpackMantissa unpackSign)

/-! ### Fractions -/

namespace Dyadic

variable {d : Dyadic} {n : ℤ}

/-- The mantissa with its sign. -/
def signed (d : Dyadic) : ℤ :=
  if d.negative then -d.mantissa else d.mantissa

def value (d : Dyadic) : ℚ :=
  d.signed * 2 ^ d.exponent

theorem value_eq_iff_of_nonneg (h : 0 ≤ d.exponent) : d.value = n ↔ d.toInt = n := by
  have hexponent : (2 : ℚ) ^ d.exponent = ((2 ^ d.exponent.toNat : ℤ) : ℚ) := by
    rw [← Int.toNat_of_nonneg h, zpow_natCast, Int.toNat_natCast, Int.cast_pow, Int.cast_ofNat]
  have htoInt : d.toInt = d.signed * 2 ^ d.exponent.toNat := by
    rw [toInt, truncated, if_pos h, signed]
    split <;> push_cast [Nat.pow_eq] <;> ring
  rw [value, hexponent, htoInt]
  exact_mod_cast Iff.rfl

theorem value_eq_iff_of_neg (h : d.exponent < 0) : d.value = n ↔ d.signed = n * (2 ^ d.exponent.natAbs : ℕ) := by
  have hexponent : (2 : ℚ) ^ d.exponent = ((2 ^ d.exponent.natAbs : ℕ) : ℚ)⁻¹ := by
    rw [Nat.cast_pow, Nat.cast_ofNat, ← zpow_natCast, ← zpow_neg]
    congr 1
    omega
  have hne : ((2 ^ d.exponent.natAbs : ℕ) : ℚ) ≠ 0 := Nat.cast_ne_zero.mpr (Nat.two_pow_pos _).ne'
  rw [value, hexponent, ← div_eq_mul_inv, div_eq_iff hne]
  exact_mod_cast Iff.rfl

theorem natCast_eq_mul_iff {m p : ℕ} (hp : 0 < p) : (m : ℤ) = n * p ↔ m % p = 0 ∧ ((m / p : ℕ) : ℤ) = n := by
  constructor
  · intro h
    have hdvd : (p : ℤ) ∣ m := ⟨n, by rw [h, mul_comm]⟩
    refine ⟨Nat.mod_eq_zero_of_dvd (Int.natCast_dvd_natCast.mp hdvd), ?_⟩
    rw [Int.natCast_div, h, Int.mul_ediv_cancel _ (by omega)]
  · rintro ⟨hmod, rfl⟩
    exact_mod_cast (Nat.div_mul_cancel (Nat.dvd_of_mod_eq_zero hmod)).symm

/-- A fraction is whole if and only if its value is an integer, which is then what it is cut to. -/
theorem value_eq_iff : d.value = n ↔ d.isWhole = true ∧ d.toInt = n := by
  rcases lt_or_ge d.exponent 0 with h | h
  · have hcut : ∀ k : ℤ, (d.mantissa : ℤ) = k * (2 ^ d.exponent.natAbs : ℕ) ↔ d.isWhole = true ∧ (d.truncated : ℤ) = k := by
      intro k
      rw [natCast_eq_mul_iff (Nat.two_pow_pos _), isWhole, truncated, if_neg (by omega)]
      simp [show ¬0 ≤ d.exponent by omega]
    rw [value_eq_iff_of_neg h, signed, toInt]
    split
    · rw [neg_eq_iff_eq_neg, neg_eq_iff_eq_neg, ← hcut, neg_mul]
    · exact hcut n
  · have hwhole : d.isWhole = true := by simp [isWhole, h]
    rw [value_eq_iff_of_nonneg h]
    simp [hwhole]

theorem truncated_eq_natAbs (d : Dyadic) : d.truncated = d.toInt.natAbs := by
  rw [toInt]
  split <;> simp

end Dyadic

/-! ### Doubles -/

/-- The value that sign, mantissa and exponent make. None for infinities and for what is no number. -/
def unpackedValue? : UnpackedFloat → Option ℚ
  | .zero _ => some 0
  | .finite s m e _ => some (s.apply m * 2 ^ e)
  | .infinity _ | .notANumber => none

/-- The value of a double. None for infinities and for what is no number. -/
def floatValue? (f : Float) : Option ℚ :=
  unpackedValue? f.toModel.unpack

section Bits
variable (b : BitVec 64)

theorem toNat_unpackExponent : (@unpackExponent .binary64 b).toNat = b.toNat / 2 ^ 52 % 2 ^ 11 := by
  rw [unpackExponent, BitVec.toNat_cast, BitVec.extractLsb_toNat, Nat.shiftRight_eq_div_pow]
  rfl

theorem toNat_unpackMantissa : (@unpackMantissa .binary64 b).toNat = b.toNat % 2 ^ 52 := by
  rw [unpackMantissa, BitVec.toNat_cast, BitVec.extractLsb_toNat]
  rfl

theorem ofBitVec_unpackSign :
    Sign.ofBitVec (@unpackSign .binary64 b) = if 2 ^ 63 ≤ b.toNat then .negative else .positive := by
  have hbit : (@unpackSign .binary64 b).toNat = b.toNat / 2 ^ 63 % 2 := by
    rw [unpackSign, BitVec.toNat_cast, BitVec.extractLsb_toNat, Nat.shiftRight_eq_div_pow]
    rfl
  have hlt : b.toNat < 2 ^ 64 := b.isLt
  have hzero : @unpackSign .binary64 b = 0#1 ↔ ¬2 ^ 63 ≤ b.toNat := by
    rw [← BitVec.toNat_inj, hbit]
    simp
    omega
  by_cases h : 2 ^ 63 ≤ b.toNat
  · rw [Sign.ofBitVec, if_pos h, if_neg fun hb => hzero.mp hb h]
  · rw [Sign.ofBitVec, if_neg h, if_pos (hzero.mpr h)]

/-- The first binary digit of a double that is not among the smallest ones is implicit. -/
theorem toNat_implicit (m : BitVec 52) : (1#1 ++ m).toNat = m.toNat + 2 ^ 52 := by
  rw [BitVec.toNat_append, ← Nat.shiftLeft_add_eq_or_of_lt m.isLt, Nat.add_comm]
  rfl

end Bits

theorem value_mk (p : Prop) [Decidable p] (m : ℕ) (e : ℤ) :
    (⟨p, m, e⟩ : Dyadic).value = (if p then Sign.negative else .positive).apply m * 2 ^ e := by
  rw [Dyadic.value, Dyadic.signed]
  by_cases hp : p <;> simp [hp, Sign.apply]

/-- The fraction that is read off the bits of a double has its value. -/
theorem value_ofFloat? (f : Float) : (Dyadic.ofFloat? f).map Dyadic.value = floatValue? f := by
  have hbits : f.toBits.toNat = f.toModel.toBits.toBitVec.toNat := rfl
  rw [floatValue?, Float.Model.unpack, UnpackedFloat.unpack]
  generalize f.toModel.toBits.toBitVec = b at hbits ⊢
  -- Both sides cut the bits at the same places; they only put their tests in different words.
  have hfull : @unpackExponent .binary64 b = -1#_ ↔ b.toNat / 2 ^ 52 % 2 ^ 11 = 2047 := by
    rw [← toNat_unpackExponent, ← BitVec.toNat_inj]
    rfl
  have hnone : @unpackExponent .binary64 b = 0#_ ↔ b.toNat / 2 ^ 52 % 2 ^ 11 = 0 := by
    rw [← toNat_unpackExponent, ← BitVec.toNat_inj]
    rfl
  have hzero : @unpackMantissa .binary64 b = 0#_ ↔ b.toNat % 2 ^ 52 = 0 := by
    rw [← toNat_unpackMantissa, ← BitVec.toNat_inj]
    rfl
  simp only [Dyadic.ofFloat?, hbits, hfull, hnone, hzero, ofBitVec_unpackSign, toNat_unpackMantissa,
    toNat_unpackExponent, toNat_implicit, Nat.pow_eq]
  by_cases hinfinite : b.toNat / 2 ^ 52 % 2 ^ 11 = 2047
  · rw [if_pos hinfinite, if_pos hinfinite]
    split <;> rfl
  rw [if_neg hinfinite, if_neg hinfinite]
  by_cases hfield : b.toNat / 2 ^ 52 % 2 ^ 11 = 0
  · rw [if_pos hfield, if_pos hfield, Option.map_some, value_mk, hfield]
    by_cases hfraction : b.toNat % 2 ^ 52 = 0
    · rw [dif_pos hfraction, hfraction]
      split <;> simp [unpackedValue?, Sign.apply]
    · rw [dif_neg hfraction]
      rfl
  · rw [if_neg hfield, if_neg hfield, Option.map_some, value_mk]
    rfl

/-- A double whose value is an integer is read as a whole fraction. -/
theorem exists_whole {f : Float} {n : ℤ} (h : floatValue? f = some (n : ℚ)) :
    ∃ d, Dyadic.ofFloat? f = some d ∧ d.isWhole = true ∧ d.toInt = n := by
  rw [← value_ofFloat?] at h
  obtain ⟨d, hd, hvalue⟩ := Option.map_eq_some_iff.mp h
  exact ⟨d, hd, Dyadic.value_eq_iff.mp hvalue⟩

end FlowTree
