import FlowTree.Proofs.Text.Search

/-! # Texts cut at a delimiter

A text is cut where the delimiter first occurs, and what follows is cut on. The parts with the delimiter between them
are the text again, and the delimiter occurs in none of them. Replacing puts another text between the same parts. -/

namespace FlowTree.Text

variable {d cs new part before rest : List Char} {parts : List (List Char)}

/-! ### The first occurrence -/

/-- The delimiter occurs in the text behind `before`, and nowhere further to the left. -/
structure FirstBehind (d before rest cs : List Char) : Prop where
  occurs : before ++ d ++ rest = cs
  first : ∀ ahead, ahead ++ d <+: cs → before.length ≤ ahead.length

theorem firstBehind_of_cut? (h : cut? d cs = some (before, rest)) : FirstBehind d before rest cs := by
  refine ⟨append_of_cut? h, ?_⟩
  fun_induction cut? d cs generalizing before with
  | case1 =>
    obtain ⟨r, -, heq⟩ := Option.map_eq_some_iff.mp h
    cases heq
    exact fun _ _ => Nat.zero_le _
  | case2 =>
    cases h
    exact fun _ _ => Nat.zero_le _
  | case3 c cs hnone ih =>
    obtain ⟨⟨b, r⟩, hcut, heq⟩ := Option.map_eq_some_iff.mp h
    cases heq
    intro ahead hahead
    cases ahead with
    | nil =>
      have hprefix := isSome_after?_iff.mpr hahead
      rw [List.nil_append, hnone] at hprefix
      cases hprefix
    | cons e ahead =>
      obtain ⟨-, hahead⟩ := List.cons_prefix_cons.mp hahead
      exact Nat.succ_le_succ (ih hcut ahead hahead)

/-- What stands before the first occurrence holds none. -/
theorem FirstBehind.not_occurs (h : FirstBehind d before rest cs) (hd : d ≠ []) : ¬d <:+: before := by
  rintro ⟨ahead, behind, rfl⟩
  have hprefix : ahead ++ d <+: cs := by
    rw [← h.occurs, List.append_assoc (ahead ++ d), List.append_assoc (ahead ++ d)]
    exact List.prefix_append _ _
  have hlength := h.first ahead hprefix
  have hpos := List.length_pos_iff.mpr hd
  simp only [List.length_append] at hlength
  omega

/-! ### Parts -/

/-- The parts of a text that is cut at a delimiter, from left to right. -/
inductive Parts (d : List Char) : List Char → List (List Char) → Prop
  | last {cs : List Char} (h : ¬d <:+: cs) : Parts d cs [cs]
  | cut {before rest cs : List Char} {parts : List (List Char)} (hfirst : FirstBehind d before rest cs)
      (h : Parts d rest parts) : Parts d cs (before :: parts)

theorem parts_splitChars (hd : d ≠ []) (cs : List Char) : Parts d cs (splitChars d cs) := by
  fun_induction splitChars d cs with
  | case1 => contradiction
  | case2 cs _ before rest hcut ih => exact .cut (firstBehind_of_cut? hcut) ih
  | case3 cs _ hnone =>
    refine .last fun hinfix => ?_
    rw [← isSome_cut?_iff, hnone] at hinfix
    cases hinfix

namespace Parts

theorem ne_nil (h : Parts d cs parts) : parts ≠ [] := by
  cases h <;> exact List.cons_ne_nil _ _

theorem intercalate_eq (h : Parts d cs parts) : d.intercalate parts = cs := by
  induction h with
  | last => exact List.intercalate_singleton
  | cut hfirst h ih => rw [List.intercalate_cons_of_ne_nil h.ne_nil, ih, hfirst.occurs]

theorem not_occurs (h : Parts d cs parts) (hd : d ≠ []) : ∀ part ∈ parts, ¬d <:+: part := by
  induction h with
  | last h =>
    intro part hpart
    obtain rfl := List.mem_singleton.mp hpart
    exact h
  | cut hfirst h ih =>
    intro part hpart
    rcases List.mem_cons.mp hpart with rfl | hpart
    · exact hfirst.not_occurs hd
    · exact ih part hpart

end Parts

/-! ### Texts -/

/-- Replacing puts the new text where the delimiter was. -/
theorem replaceChars_eq (hd : d ≠ []) (new cs : List Char) :
    replaceChars d new cs = new.intercalate (splitChars d cs) := by
  fun_induction replaceChars d new cs with
  | case1 => contradiction
  | case2 cs _ before rest hcut ih =>
    rw [splitChars_of_cut? hd hcut, List.intercalate_cons_of_ne_nil (parts_splitChars hd rest).ne_nil, ← ih]
  | case3 cs _ hnone => rw [splitChars_of_none hnone, List.intercalate_singleton]

variable {delimiter text : String}

theorem map_toList_split (delimiter text : String) :
    (split delimiter text).map String.toList = splitChars delimiter.toList text.toList := by
  simp [split, Function.comp_def]

theorem parts_split (h : delimiter ≠ "") (text : String) :
    Parts delimiter.toList text.toList ((split delimiter text).map String.toList) := by
  rw [map_toList_split]
  exact parts_splitChars (mt String.toList_eq_nil_iff.mp h) _

theorem intercalate_split (h : delimiter ≠ "") (text : String) : delimiter.intercalate (split delimiter text) = text := by
  rw [← String.toList_inj, String.toList_intercalate]
  exact (parts_split h text).intercalate_eq

theorem not_infix_of_mem_split (h : delimiter ≠ "") {part : String} (hpart : part ∈ split delimiter text) :
    ¬delimiter.toList <:+: part.toList :=
  (parts_split h text).not_occurs (mt String.toList_eq_nil_iff.mp h) _ (List.mem_map_of_mem hpart)

theorem replace_eq (h : delimiter ≠ "") (new text : String) :
    replace delimiter new text = new.intercalate (split delimiter text) := by
  rw [← String.toList_inj, String.toList_intercalate, map_toList_split, replace, String.toList_ofList,
    replaceChars_eq (mt String.toList_eq_nil_iff.mp h)]

end FlowTree.Text
