import FlowTree.Text.Search
import Mathlib.Data.List.Infix

/-! # Pieces of a text

A search finds every occurrence. A delimiter of one character occurs where that character does. The first piece is
what stands before it, and the others are the pieces of what follows. -/

namespace FlowTree.Text

variable {d : Char} {p cs ds before rest : List Char} {s part : String}

/-! ### Occurrences -/

theorem after?_append (p rest : List Char) : after? p (p ++ rest) = some rest := by
  induction p with
  | nil => simp [after?]
  | cons c p ih => simpa [after?] using ih

theorem isSome_after?_iff : (after? p cs).isSome = true ↔ p <+: cs := by
  constructor
  · intro h
    obtain ⟨rest, hrest⟩ := Option.isSome_iff_exists.mp h
    exact ⟨rest, append_of_after? hrest⟩
  · rintro ⟨rest, rfl⟩
    rw [after?_append, Option.isSome_some]

theorem isSome_cut?_iff : (cut? p cs).isSome = true ↔ p <:+: cs := by
  induction cs with
  | nil => rw [cut?, Option.isSome_map, isSome_after?_iff, List.prefix_nil, List.infix_nil]
  | cons c cs ih =>
    rw [List.infix_cons_iff, ← isSome_after?_iff, ← ih, cut?]
    cases after? p (c :: cs) <;> simp

theorem startsWith_iff : startsWith s part = true ↔ part.toList <+: s.toList :=
  isSome_after?_iff

theorem endsWith_iff : endsWith s part = true ↔ part.toList <:+ s.toList :=
  isSome_after?_iff.trans List.reverse_prefix

theorem contains_iff : contains s part = true ↔ part.toList <:+: s.toList :=
  isSome_cut?_iff

/-! ### Delimiters -/

theorem splitChars_of_cut? (hp : p ≠ []) (h : cut? p cs = some (before, rest)) :
    splitChars p cs = before :: splitChars p rest := by
  rw [splitChars, dif_neg hp]
  split
  next hcut =>
    rw [h] at hcut
    cases hcut
    rfl
  next hcut =>
    rw [h] at hcut
    cases hcut

theorem splitChars_of_none (h : cut? p cs = none) : splitChars p cs = [cs] := by
  rw [splitChars]
  split
  next => rfl
  next =>
    split
    next hcut =>
      rw [h] at hcut
      cases hcut
    next => rfl

theorem cut?_eq_none (h : d ∉ cs) : cut? [d] cs = none := by
  induction cs with
  | nil => rfl
  | cons c cs ih =>
    rw [List.mem_cons, not_or] at h
    rw [cut?, after?, if_neg h.1]
    simp [ih h.2]

theorem cut?_append (h : d ∉ cs) : cut? [d] (cs ++ d :: ds) = some (cs, ds) := by
  induction cs with
  | nil => simp [cut?, after?]
  | cons c cs ih =>
    rw [List.mem_cons, not_or] at h
    rw [List.cons_append, cut?, after?, if_neg h.1]
    simp [ih h.2]

theorem splitChars_eq_singleton (h : d ∉ cs) : splitChars [d] cs = [cs] :=
  splitChars_of_none (cut?_eq_none h)

theorem splitChars_append (h : d ∉ cs) : splitChars [d] (cs ++ d :: ds) = cs :: splitChars [d] ds :=
  splitChars_of_cut? (List.cons_ne_nil _ _) (cut?_append h)

end FlowTree.Text
