import FlowTree.Proofs.Number.Doubles
import FlowTree.Proofs.Number.Render

/-! # Whole numbers as doubles

A whole number below 2⁵³ is a double: with zeros behind its binary digits it is a mantissa of a double, and
rounding takes nothing off but zeros. So its numeral is read as the number itself. -/

namespace FlowTree

open Float.Model Float.Model.UnpackedFloat

variable {m n k : ℕ} {e : ℤ} {s : Sign} {f g : Float}

/-- A mantissa with all its binary digits, and an exponent that goes with it. -/
structure Normal (m : ℕ) (e : ℤ) : Prop where
  lower : 2 ^ 52 ≤ m
  upper : m < 2 ^ 53
  lowest : -1074 ≤ e
  highest : e ≤ 971

theorem Normal.pos (h : Normal m e) : 0 < m := lt_of_lt_of_le (by decide) h.lower

/-! ### Rounding -/

theorem Normal.log2 (h : Normal m e) (k : ℕ) : (m * 2 ^ k).log2 = 52 + k := by
  have hne : m * 2 ^ k ≠ 0 := (Nat.mul_pos h.pos (Nat.two_pow_pos k)).ne'
  rw [Nat.log2_eq_iff hne]
  constructor
  · rw [pow_add]
    exact Nat.mul_le_mul_right _ h.lower
  · calc m * 2 ^ k < 2 ^ 53 * 2 ^ k := Nat.mul_lt_mul_of_pos_right h.upper (Nat.two_pow_pos k)
      _ = 2 ^ (52 + k + 1) := by rw [← pow_add]; congr 1; omega

theorem shiftRight_zeros (m k : ℕ) :
    ExtendedMantissa.ofMantissaAndAccuracy (m * 2 ^ k) .exact >>> k = ⟨m, false, false⟩ := by
  show Nat.repeat ExtendedMantissa.shiftRightOne k ⟨m * 2 ^ k, false, false⟩ = _
  induction k generalizing m with
  | zero => simp [Nat.repeat]
  | succ k ih =>
    have hpow : m * 2 ^ (k + 1) = m * 2 * 2 ^ k := by rw [pow_succ, mul_comm (2 ^ k), mul_assoc]
    rw [Nat.repeat, hpow, ih]
    simp [ExtendedMantissa.shiftRightOne]

theorem Normal.shift (h : Normal m e) (k : ℕ) :
    shiftToTargetExponent .binary64 (m * 2 ^ k) (e - k) .exact = (⟨m, false, false⟩, e) := by
  have htarget : Format.binary64.targetExponent (totalExponent (m * 2 ^ k) (e - k)) = e := by
    have hlowest := h.lowest
    rw [totalExponent, h.log2]
    show max (((52 + k : ℕ) : ℤ) + 1 + (e - k) - 53) (-1074) = e
    omega
  have hk : (e - (e - k)).toNat = k := by omega
  rw [shiftToTargetExponent, shiftToExponent, htarget]
  simp only [hk, shiftRight_zeros, sub_add_cancel]

/-- Rounding takes the zeros off that stand behind a mantissa. -/
theorem Normal.round (h : Normal m e) (k : ℕ) :
    roundWithAccuracy .binary64 s (m * 2 ^ k) (e - k) .exact = .finite s m e h.pos := by
  have hagain := h.shift 0
  rw [pow_zero, mul_one, Nat.cast_zero, sub_zero] at hagain
  have hrounded : (⟨m, false, false⟩ : ExtendedMantissa).roundedMantissa = m := rfl
  rw [roundWithAccuracy, h.shift k]
  simp only [hrounded, hagain, h.pos.ne', dif_neg, not_false_iff]

/-! ### Bits -/

theorem Normal.unpack_pack (h : Normal m e) :
    (Float.Model.pack (.finite s m e h.pos)).unpack = .finite s m e h.pos := by
  have hlower := h.lower
  have hupper := h.upper
  have hlowest := h.lowest
  have hhighest := h.highest
  have hbias : Format.binary64.exponentBias = 1023 := rfl
  obtain ⟨b, hb⟩ : ∃ b : ℕ, (b : ℤ) = e + 1075 := ⟨(e + 1075).toNat, by omega⟩
  have hpack : UnpackedFloat.pack .binary64 (.finite s m e h.pos) =
      packComponents .binary64 s (BitVec.ofNat 11 b) (BitVec.ofNat 52 m) := by
    have hfield : (e + Format.binary64.exponentBias + (52 : ℕ)).toNat = b := by omega
    have hfits : ¬2 ^ 11 ≤ b + 1 := by omega
    have hlog : m.log2 = 52 := by simpa using h.log2 0
    simp only [UnpackedFloat.pack, hlog, hfield, if_neg hfits]
    rfl
  have hexponent : (BitVec.ofNat 11 b).toNat = b := by
    rw [BitVec.toNat_ofNat]
    exact Nat.mod_eq_of_lt (by omega)
  have hmantissa : (1#1 ++ BitVec.ofNat 52 m).toNat = m := by
    rw [toNat_implicit, BitVec.toNat_ofNat]
    omega
  have hfinite : BitVec.ofNat 11 b ≠ -1#11 ∧ BitVec.ofNat 11 b ≠ 0#11 := by
    rw [ne_eq, ne_eq, ← BitVec.toNat_inj, ← BitVec.toNat_inj, hexponent]
    exact ⟨fun hb => by simp at hb; omega, fun hb => by simp at hb; omega⟩
  have hback : (b : ℤ) - (Format.binary64.exponentBias + (52 : ℕ)) = e := by omega
  rw [Float.Model.unpack, Float.Model.pack]
  simp only [hpack]
  rw [UnpackedFloat.unpack]
  simp only [unpackMantissa_packComponents, unpackExponent_packComponents, unpackSign_packComponents,
    Sign.ofBitVec_toBitVec, hfinite.1, hfinite.2, if_false, hmantissa, hexponent, hback]

/-! ### Operations -/

theorem unpack_neg (h : Normal m e) (hf : f.toModel.unpack = .finite s m e h.pos) :
    (-f).toModel.unpack = .finite (-s) m e h.pos := by
  have hneg : (-f).toModel = Float.Model.pack f.toModel.unpack.neg := rfl
  rw [hneg, hf, UnpackedFloat.neg, h.unpack_pack]

theorem unpack_mul_one (h : Normal m e) (hf : f.toModel.unpack = .finite s m e h.pos)
    (hg : g.toModel.unpack = .finite .positive (2 ^ 52) (-52) (by decide)) :
    (f * g).toModel.unpack = .finite s m e h.pos := by
  have hmul : (f * g).toModel = Float.Model.pack (UnpackedFloat.mul .binary64 f.toModel.unpack g.toModel.unpack) := rfl
  have hsign : s * .positive = s := by cases s <;> rfl
  have hround : UnpackedFloat.mul .binary64 f.toModel.unpack g.toModel.unpack = .finite s m e h.pos := by
    rw [hf, hg, UnpackedFloat.mul, hsign]
    exact h.round 52
  rw [hmul, hround, h.unpack_pack]

/-! ### Whole numbers -/

theorem exists_normal (hpos : 0 < n) (hlt : n < 2 ^ 53) : ∃ k : ℕ, n.log2 + k = 52 ∧ Normal (n * 2 ^ k) (-k) := by
  have hlog : n.log2 < 53 := (Nat.log2_lt hpos.ne').mpr hlt
  -- `k` zeros fill the digits of `n` up to those of a mantissa.
  obtain ⟨k, hk⟩ := Nat.exists_eq_add_of_le (Nat.le_of_lt_succ hlog)
  have hlow : 2 ^ n.log2 ≤ n := Nat.log2_self_le hpos.ne'
  have hhigh : n < 2 ^ (n.log2 + 1) := Nat.lt_log2_self
  refine ⟨k, hk.symm, ?_, ?_, by omega, by omega⟩
  · calc 2 ^ 52 = 2 ^ n.log2 * 2 ^ k := by rw [← pow_add, hk]
      _ ≤ n * 2 ^ k := Nat.mul_le_mul_right _ hlow
  · calc n * 2 ^ k < 2 ^ (n.log2 + 1) * 2 ^ k := Nat.mul_lt_mul_of_pos_right hhigh (Nat.two_pow_pos k)
      _ = 2 ^ 53 := by rw [← pow_add]; congr 1; omega

section
variable (hk : n.log2 + k = 52) (h : Normal (n * 2 ^ k) (-k))
include hk h

theorem unpack_ofUInt64 : (Float.Model.ofUInt64 n.toUInt64).unpack = .finite .positive (n * 2 ^ k) (-k) h.pos := by
  have hpos : 0 < n := Nat.pos_of_mul_pos_right h.pos
  have hn : n.toUInt64.toNat = n := by
    have hle : n ≤ n * 2 ^ k := Nat.le_mul_of_pos_right n (Nat.two_pow_pos k)
    have hupper := h.upper
    exact UInt64.toNat_ofNat_of_lt' (by rw [UInt64.size]; omega)
  have hgt : compare (n : ℤ) 0 = .gt := compare_gt_iff_gt.mpr (by omega)
  have htarget : Format.binary64.targetExponent (totalExponent n 0) = -k := by
    rw [totalExponent]
    show max ((n.log2 : ℤ) + 1 + 0 - 53) (-1074) = -k
    omega
  have hround : UnpackedFloat.round .binary64 .positive n 0 = .finite .positive (n * 2 ^ k) (-k) h.pos := by
    have hzero := h.round (s := .positive) 0
    rw [pow_zero, mul_one, Nat.cast_zero, sub_zero] at hzero
    simp only [UnpackedFloat.round, htarget, decreaseExponent, Nat.shiftLeft_eq, zero_sub, neg_neg, Int.toNat_natCast,
      hzero]
  rw [Float.Model.ofUInt64, UnpackedFloat.ofUInt64, hn, UnpackedFloat.ofNat, UnpackedFloat.ofInt,
    UnpackedFloat.normalize, hgt]
  simp only [Int.toNat_natCast, hround, h.unpack_pack]

theorem unpack_toFloat : (⟨n, 0⟩ : Decimal).toFloat.toModel.unpack = .finite .positive (n * 2 ^ k) (-k) h.pos := by
  have hpos : 0 < n := Nat.pos_of_mul_pos_right h.pos
  have hlt : n < 2 ^ 53 := (Nat.le_mul_of_pos_right n (Nat.two_pow_pos k)).trans_lt h.upper
  have hlength : (Decimal.digitChars n).length ≤ 16 :=
    (Nat.length_toDigits_le_iff (by decide) (by decide)).mpr (hlt.trans (by decide))
  have hone : Float.exactlyRepresentablePowersOfTen[0].toModel.unpack = .finite .positive (2 ^ 52) (-52) (by decide) :=
    rfl
  -- A numeral without exponent is its digits times the power of ten with exponent zero.
  rw [Decimal.toFloat]
  dsimp only
  rw [if_neg (by omega), if_neg (by omega), Float.ofScientific, dif_pos ⟨hlt, by decide⟩]
  exact unpack_mul_one h (unpack_ofUInt64 hk h) hone

end

theorem floatValue?_toFloat (hn : n < 2 ^ 53) :
    floatValue? (⟨n, 0⟩ : Decimal).toFloat = some (n : ℚ) ∧ floatValue? (-(⟨n, 0⟩ : Decimal).toFloat) = some (-n : ℚ) := by
  rcases Nat.eq_zero_or_pos n with rfl | hpos
  · have hzero : (⟨0, 0⟩ : Decimal).toFloat = 0.0 := rfl
    rw [hzero]
    constructor <;> decide +kernel
  · obtain ⟨k, hk, hnormal⟩ := exists_normal hpos hn
    have hvalue : ((n * 2 ^ k : ℕ) : ℚ) * 2 ^ (-k : ℤ) = n := by
      rw [zpow_neg, zpow_natCast, Nat.cast_mul, Nat.cast_pow, Nat.cast_ofNat,
        mul_inv_cancel_right₀ (pow_ne_zero k two_ne_zero)]
    have hunpack := unpack_toFloat hk hnormal
    constructor
    · rw [floatValue?, hunpack, unpackedValue?, Sign.apply, Int.cast_natCast, hvalue]
    · rw [floatValue?, unpack_neg hnormal hunpack]
      show some (((-((n * 2 ^ k : ℕ) : ℤ) : ℤ) : ℚ) * 2 ^ (-k : ℤ)) = _
      rw [Int.cast_neg, Int.cast_natCast, neg_mul, hvalue]

theorem isFinite_of_floatValue? {q : ℚ} (h : floatValue? f = some q) : f.isFinite = true := by
  show f.toModel.unpack.isFinite = true
  rw [floatValue?] at h
  cases hf : f.toModel.unpack with
  | zero | finite => rfl
  | infinity | notANumber =>
    rw [hf] at h
    cases h

/-! ### Numerals -/

theorem ofChars?_digits {ds : List Char} (hd : ∀ c ∈ ds, c.isDigit = true) (hne : ds ≠ []) :
    Decimal.ofChars? ds = some ⟨Decimal.ofDigits ds, 0⟩ := by
  have htake : ds.takeWhile Char.isDigit = ds := List.takeWhile_eq_self_iff.mpr hd
  have hdrop : ds.dropWhile Char.isDigit = [] := List.dropWhile_eq_nil_iff.mpr hd
  simp [Decimal.ofChars?, htake, hdrop, hne, Decimal.exponent?]

variable {i : ℤ}

/-- The figures of a whole number below 2⁵³ are read as the double that has its value. -/
theorem readFloat?_toString (hi : i.natAbs < 2 ^ 53) :
    ∃ f, Decimal.readFloat? (toString i).toList = some f ∧ floatValue? f = some (i : ℚ) := by
  have hne : Decimal.digitChars i.natAbs ≠ [] := Nat.toDigits_ne_nil
  obtain ⟨hpos, hneg⟩ := floatValue?_toFloat hi
  rw [Decimal.readFloat?, sign_toString]
  dsimp only
  rw [ofChars?_digits isDigit_of_mem_digitChars hne, ofDigits_digitChars, Option.map_some]
  refine ⟨_, rfl, ?_⟩
  split
  next h =>
    have habs : ((i.natAbs : ℤ) : ℚ) = ((-i : ℤ) : ℚ) := by
      congr 1
      have := of_decide_eq_true h
      omega
    rw [hneg, ← Int.cast_natCast, habs, Int.cast_neg, neg_neg]
  next h =>
    have habs : ((i.natAbs : ℤ) : ℚ) = (i : ℚ) := by
      congr 1
      have := of_decide_eq_false (Bool.not_eq_true _ ▸ h)
      omega
    rw [hpos, ← Int.cast_natCast, habs]

theorem ofFloat_of_floatValue? (h : floatValue? f = some (i : ℚ)) (hi : i.natAbs < 2 ^ 53) :
    Json.ofFloat f = .ofInt i := by
  obtain ⟨d, hd, hwhole, rfl⟩ := exists_whole h
  have hsmall : d.truncated < Nat.pow 2 53 := by rwa [d.truncated_eq_natAbs]
  simp [Json.ofFloat, hd, hwhole, hsmall]

/-- The figures of a whole number below 2⁵³ write that number. -/
theorem parseNumber?_toString (hi : i.natAbs < 2 ^ 53) :
    ∃ f, Json.parseNumber? (toString i) = some f ∧ Json.ofFloat f = .ofInt i := by
  obtain ⟨f, hread, hvalue⟩ := readFloat?_toString hi
  have hfigures := isFigure_of_mem_int i
  have htrim : Text.trimChars (toString i).toList = (toString i).toList :=
    (Text.isTrimmed_of_forall fun c hc => (hfigures c hc).isBlank_eq_false).trimChars_eq_self
  have hne : (toString i).toList ≠ [] := by
    intro hnil
    rw [hnil] at hread
    cases hread
  have hall : (toString i).toList.all Json.isNumeralChar = true :=
    List.all_eq_true.mpr fun c hc => (hfigures c hc).isNumeralChar
  refine ⟨f, ?_, ofFloat_of_floatValue? hvalue hi⟩
  rw [Json.parseNumber?, htrim, if_pos ⟨hne, hall⟩, hread, Option.filter_some_pos (isFinite_of_floatValue? hvalue)]

end FlowTree
