import FlowTree.Text.Case
import FlowTree.Proofs.Text.Blank
import FlowTree.Proofs.Text.Utf8

/-! # Lower case in ASCII

In lower case a letter of ASCII becomes another one and every other character of ASCII stays. So marks and blanks are
where they were, and trimming may come before or after. -/

namespace FlowTree.Text

variable {s : String} {c d : Char} {cs : List Char}

theorem toLower_cases (c : Char) :
    c.toLower = c ∨ (65 ≤ c.toNat ∧ c.toNat ≤ 90 ∧ c.toLower.toNat = c.toNat + 32) := by
  unfold Char.toLower
  split
  next h =>
    have hlow : 65 ≤ c.val.toNat := h.1
    have hhigh : c.val.toNat ≤ 90 := h.2
    refine Or.inr ⟨hlow, hhigh, ?_⟩
    show (c.val + 32).toNat = c.val.toNat + 32
    rw [UInt32.toNat_add]
    exact Nat.mod_eq_of_lt (by show c.val.toNat + 32 < 4294967296; omega)
  next => exact Or.inl rfl

/-- No letter becomes a mark. -/
theorem toLower_eq_iff (hd : d.toNat < 65) : c.toLower = d ↔ c = d := by
  rcases toLower_cases c with hc | ⟨hlow, -, hc⟩
  · rw [hc]
  · constructor
    · rintro rfl
      omega
    · rintro rfl
      omega

theorem isBlank_toLower (c : Char) : isBlank c.toLower = isBlank c := by
  rcases toLower_cases c with hc | ⟨hlow, hhigh, hc⟩
  · rw [hc]
  · have hletter {d : Char} (hlow : 65 ≤ d.toNat) (hhigh : d.toNat ≤ 122) : isBlank d = false := by
      simp only [isBlank, Bool.or_eq_false_iff, Bool.and_eq_false_iff, decide_eq_false_iff_not, beq_eq_false_iff_ne]
      omega
    rw [hletter (by omega) (by omega), hletter hlow (by omega)]

theorem trimChars_map_toLower (cs : List Char) :
    trimChars (cs.map Char.toLower) = (trimChars cs).map Char.toLower := by
  have hblank : isBlank ∘ Char.toLower = isBlank := funext isBlank_toLower
  simp only [trimChars, List.dropWhile_map, hblank, ← List.map_reverse]

/-- Within ASCII lower case is that of each character by itself. -/
theorem lowerFrom_ascii (h : IsAscii cs) (before : List Char) : lowerFrom before cs = cs.map Char.toLower := by
  induction cs generalizing before with
  | nil => rfl
  | cons c cs ih =>
    obtain ⟨hc, hcs⟩ := h.of_cons
    have hsigma : c ≠ 'Σ' := by
      rintro rfl
      exact absurd hc (by decide)
    rw [lowerFrom, if_neg hsigma, lowerChar, if_pos hc, ih hcs]
    rfl

theorem lower_ascii (h : IsAscii s.toList) : lower s = String.ofList (s.toList.map Char.toLower) := by
  rw [lower, lowerFrom_ascii h]

end FlowTree.Text
