import FlowTree.Json.Render
import FlowTree.Proofs.Text.Blank

/-! # What numbers look like

A number shows as figures: digits, with a minus before them and a point among them. What is not finite shows
as null. -/

namespace FlowTree

/-! ### Whole numbers -/

theorem ofDigits_digitChars (n : Nat) : Decimal.ofDigits (Decimal.digitChars n) = n := by
  have hcomm : (fun (n : Nat) (c : Char) => n * 10 + (c.toNat - '0'.toNat)) =
      fun n c => 10 * n + (c.toNat - '0'.toNat) := by
    funext n c
    rw [Nat.mul_comm]
  rw [Decimal.ofDigits, hcomm]
  exact Nat.ofDigitChars_toDigits (by decide) (by decide)

theorem isDigit_of_mem_digitChars {n : Nat} : ∀ c ∈ Decimal.digitChars n, c.isDigit = true := fun _ hc =>
  Nat.isDigit_of_mem_toDigits (by decide) (by decide) hc

theorem sign_digitChars (n : Nat) : Decimal.sign (Decimal.digitChars n) = (false, Decimal.digitChars n) := by
  have hdigits := @isDigit_of_mem_digitChars n
  cases hcs : Decimal.digitChars n with
  | nil => rfl
  | cons c cs =>
    rw [hcs] at hdigits
    exact Decimal.sign_of_isDigit (hdigits c List.mem_cons_self) cs

theorem toList_toString (n : Int) :
    (toString n).toList = (if n < 0 then ['-'] else []) ++ Decimal.digitChars n.natAbs := by
  rw [Int.toString_eq_repr, Int.repr_eq_if]
  split
  next h =>
    have habs : n.toNat = n.natAbs := by omega
    rw [if_neg (by omega), Nat.toList_repr, habs, List.nil_append, Decimal.digitChars]
  next h =>
    have habs : (-n).toNat = n.natAbs := by omega
    rw [if_pos (by omega), String.toList_append, Nat.toList_repr, habs]
    rfl

/-- The sign and the digits of a whole number are read back. -/
theorem sign_toString (n : Int) :
    Decimal.sign (toString n).toList = (decide (n < 0), Decimal.digitChars n.natAbs) := by
  rw [toList_toString]
  split
  next h => simp [Decimal.sign, h]
  next h => simp [sign_digitChars, h]

theorem toString_inj {n m : Int} : toString n = toString m ↔ n = m := by
  constructor
  · intro h
    have hsign := sign_toString n
    rw [h, sign_toString m] at hsign
    obtain ⟨hneg, hdigits⟩ := Prod.mk.inj hsign
    have habs := congrArg Decimal.ofDigits hdigits
    rw [ofDigits_digitChars, ofDigits_digitChars] at habs
    have hiff : m < 0 ↔ n < 0 := decide_eq_decide.mp hneg
    omega
  · exact congrArg toString

/-! ### Figures -/

/-- A character of a number: a digit, the minus or the point. -/
def IsFigure (c : Char) : Prop :=
  c.isDigit = true ∨ c = '-' ∨ c = '.'

theorem IsFigure.isBlank_eq_false {c : Char} (h : IsFigure c) : Text.isBlank c = false := by
  rcases h with hdigit | rfl | rfl
  · exact Text.isBlank_of_isDigit hdigit
  · decide
  · decide

theorem IsFigure.isNumeralChar {c : Char} (h : IsFigure c) : Json.isNumeralChar c = true := by
  rcases h with hdigit | rfl | rfl
  · simp [Json.isNumeralChar, hdigit]
  · decide
  · decide

theorem isFigure_of_mem_digitChars {n : Nat} : ∀ c ∈ Decimal.digitChars n, IsFigure c := fun c hc =>
  Or.inl (isDigit_of_mem_digitChars c hc)

theorem isFigure_of_mem_int (n : Int) : ∀ c ∈ (toString n).toList, IsFigure c := by
  intro c hc
  rw [toList_toString, List.mem_append] at hc
  rcases hc with hc | hc
  · split at hc
    next => exact Or.inr (Or.inl (by simpa using hc))
    next => cases hc
  · exact isFigure_of_mem_digitChars c hc

theorem isFigure_of_mem_write (d : Decimal) : ∀ c ∈ (Layout.plain.write d).toList, IsFigure c := by
  have hdigits : ∀ c ∈ Decimal.digitChars d.digits, IsFigure c := isFigure_of_mem_digitChars
  have hzero : IsFigure '0' := Or.inl rfl
  have hpoint : IsFigure '.' := Or.inr (Or.inr rfl)
  intro c hc
  simp only [Layout.write, Layout.plain, Option.any_none, Bool.or_self, Bool.false_eq_true, if_false] at hc
  split at hc
  · simp only [String.append_empty, String.toList_ofList, List.mem_append, List.mem_replicate] at hc
    rcases hc with hc | ⟨-, rfl⟩
    · exact hdigits c hc
    · exact hzero
  · split at hc
    · simp only [String.toList_ofList, List.mem_append, List.mem_singleton] at hc
      rcases hc with (hc | rfl) | hc
      · exact hdigits c (List.mem_of_mem_take hc)
      · exact hpoint
      · exact hdigits c (List.mem_of_mem_drop hc)
    · simp only [String.toList_ofList, List.mem_append, List.mem_cons, List.not_mem_nil, or_false, List.mem_replicate] at hc
      rcases hc with ((rfl | rfl) | ⟨-, rfl⟩) | hc
      · exact hzero
      · exact hpoint
      · exact hzero
      · exact hdigits c hc

theorem isFigure_of_float? {f : Float} {s : String} (h : Layout.plain.float? f = some s) : ∀ c ∈ s.toList, IsFigure c := by
  obtain ⟨d, -, rfl⟩ := Option.map_eq_some_iff.mp h
  have hmagnitude : ∀ c ∈ (if d.mantissa = 0 then "0" ++ Layout.plain.whole
      else Layout.plain.write (d.shortest Layout.plain.tie)).toList, IsFigure c := by
    split
    · intro c hc
      have hzero : ("0" ++ Layout.plain.whole).toList = ['0'] := rfl
      rw [hzero] at hc
      obtain rfl := List.mem_singleton.mp hc
      exact Or.inl rfl
    · exact isFigure_of_mem_write _
  intro c hc
  simp only at hc
  split at hc
  · rw [String.toList_append, List.mem_append] at hc
    rcases hc with hc | hc
    · exact Or.inr (Or.inl (by simpa using hc))
    · exact hmagnitude c hc
  · exact hmagnitude c hc

theorem Number.render_cases (n : Number) : n.render = "null" ∨ ∀ c ∈ n.render.toList, IsFigure c := by
  cases n with
  | int n => exact Or.inr (isFigure_of_mem_int n)
  | float f =>
    rw [render]
    split
    · split
      · exact Or.inr (isFigure_of_mem_int _)
      · cases h : Layout.plain.float? f with
        | none => exact Or.inl rfl
        | some s => exact Or.inr (isFigure_of_float? h)
    · exact Or.inl rfl

end FlowTree
