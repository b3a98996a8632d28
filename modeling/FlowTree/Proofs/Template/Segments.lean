import FlowTree.Template.Path
import FlowTree.Proofs.Text.Blank

/-! # Segments

The segments of a path are the texts between the dots of its expanded form. A text without dots, brackets
and blanks around it is a segment that stands for itself, and a path written with such segments has just
them. -/

namespace FlowTree.Path

open List (splitOn)

variable {cs ds : List Char}

/-! ### Dots -/

theorem splitDots_eq_splitOn (cs : List Char) : splitDots cs = splitOn '.' cs := by
  unfold splitOn
  induction cs with
  | nil => simp [splitDots]
  | cons c cs ih =>
    rw [splitDots, ih, List.splitOnP_cons_eq_if_modifyHead]
    by_cases hc : c = '.'
    · simp [hc]
    · cases h : List.splitOnP (· == '.') cs with
      | nil => exact absurd h (List.splitOnP_ne_nil _ _)
      | cons s rest => simp [hc]

theorem not_dot_of_mem_splitDots : ∀ s ∈ splitDots cs, '.' ∉ s := by
  induction cs with
  | nil => simp [splitDots]
  | cons c cs ih =>
    rw [splitDots]
    split
    · intro s hs
      rcases List.mem_cons.mp hs with rfl | hs
      · exact List.not_mem_nil
      · exact ih s hs
    next hc =>
      split
      next => simpa using Ne.symm hc
      next t rest hrest =>
        rw [hrest] at ih
        intro s hs
        rcases List.mem_cons.mp hs with rfl | hs
        · exact List.not_mem_cons_of_ne_of_not_mem (Ne.symm hc) (ih t List.mem_cons_self)
        · exact ih s (List.mem_cons_of_mem _ hs)

theorem splitDots_append (h : '.' ∉ cs) (ds : List Char) : splitDots (cs ++ '.' :: ds) = cs :: splitDots ds := by
  induction cs with
  | nil => rw [List.nil_append, splitDots, if_pos rfl]
  | cons c cs ih =>
    rw [List.cons_append, splitDots, if_neg (List.ne_of_not_mem_cons h).symm, ih (List.not_mem_of_not_mem_cons h)]

/-- The texts between the dots of a text. -/
def pieces (s : String) : List String :=
  (splitOn '.' s.toList).map String.ofList

theorem pieces_of_dotless {s : String} (h : '.' ∉ s.toList) : pieces s = [s] := by
  have hsplit : splitOn '.' (['.'].intercalate [s.toList]) = [s.toList] :=
    List.splitOn_intercalate '.' (by simpa using h) (by simp)
  rw [List.intercalate_singleton] at hsplit
  rw [pieces, hsplit, List.map_singleton, String.ofList_toList]

theorem segments_ne_nil (path : String) : segments path ≠ [] := by
  simp [segments, splitDots_eq_splitOn]

theorem segments_dotless (path : String) : ∀ s ∈ segments path, '.' ∉ s.toList := by
  intro s hs
  obtain ⟨t, ht, rfl⟩ := List.mem_map.mp hs
  rw [String.toList_ofList]
  exact not_dot_of_mem_splitDots t ht

theorem intercalate_segments (path : String) : ".".intercalate (segments path) = expand (Text.trim path) := by
  have hmap : (segments path).map String.toList = splitDots (expandChars (Text.trimChars path.toList)) := by
    simp [segments, Function.comp_def]
  rw [← String.toList_inj, String.toList_intercalate, hmap, splitDots_eq_splitOn, expand, Text.toList_trim]
  exact (List.intercalate_splitOn '.').trans String.toList_ofList.symm

theorem segments_trim (path : String) : segments (Text.trim path) = segments path := by
  simp [segments]

theorem resolve_congr {path other : String} (h : segments path = segments other) (a : Ambient) (c : Context)
    (defaults : Fields Json) : resolve a c defaults path = resolve a c defaults other := by
  simp only [resolve, h]

/-! ### Brackets -/

theorem expandChars_append (h : '[' ∉ cs) (ds : List Char) : expandChars (cs ++ ds) = cs ++ expandChars ds := by
  unfold expandChars
  induction cs with
  | nil => rfl
  | cons c cs ih =>
    rw [List.cons_append, expandFrom, if_neg (List.ne_of_not_mem_cons h).symm, ih (List.not_mem_of_not_mem_cons h),
      List.cons_append]

theorem expandChars_eq_self (h : '[' ∉ cs) : expandChars cs = cs := by
  have hnil : expandChars [] = [] := rfl
  have happend := expandChars_append h []
  rwa [List.append_nil, hnil, List.append_nil] at happend

theorem segments_of_trimmed {path : String} (h : Text.IsTrimmed path.toList) (hopen : '[' ∉ path.toList) :
    segments path = pieces path := by
  rw [segments, h.trimChars_eq_self, expandChars_eq_self hopen, splitDots_eq_splitOn]
  rfl

/-! ### Plain segments -/

/-- A text without dots, brackets and blanks around it. -/
structure IsPlain (s : String) : Prop where
  ne_empty : s ≠ ""
  dotless : '.' ∉ s.toList
  unbracketed : '[' ∉ s.toList ∧ ']' ∉ s.toList
  trimmed : Text.trim s = s

instance (s : String) : Decidable (IsPlain s) :=
  decidable_of_iff (s ≠ "" ∧ '.' ∉ s.toList ∧ ('[' ∉ s.toList ∧ ']' ∉ s.toList) ∧ Text.trim s = s)
    ⟨fun ⟨hne, hdot, hbracket, htrim⟩ => ⟨hne, hdot, hbracket, htrim⟩,
      fun h => ⟨h.ne_empty, h.dotless, h.unbracketed, h.trimmed⟩⟩

/-- What holds of dots and of the parts, and of two texts together, holds of the parts with dots between them. -/
theorem intercalate_dots {P : List Char → Prop} (nil : P []) (dot : P ['.'])
    (append : ∀ cs ds, P cs → P ds → P (cs ++ ds)) {parts : List String} (h : ∀ s ∈ parts, P s.toList) :
    P (['.'].intercalate (parts.map String.toList)) := by
  induction parts with
  | nil => exact nil
  | cons s parts ih =>
    have hs : P s.toList := h s List.mem_cons_self
    cases parts with
    | nil => simpa using hs
    | cons t parts =>
      rw [List.map_cons, List.map_cons, List.intercalate_cons_cons]
      exact append _ _ (append _ _ hs dot) (ih fun u hu => h u (List.mem_cons_of_mem _ hu))

theorem isTrimmed_intercalate {parts : List String} (h : ∀ s ∈ parts, IsPlain s) :
    Text.IsTrimmed (['.'].intercalate (parts.map String.toList)) :=
  intercalate_dots ⟨by simp, by simp⟩ (Text.trimChars_eq_self_iff.mp (by decide)) (fun _ _ => Text.IsTrimmed.append)
    fun s hs => Text.trim_eq_self_iff.mp (h s hs).trimmed

theorem not_bracket_intercalate {parts : List String} (h : ∀ s ∈ parts, IsPlain s) :
    '[' ∉ ['.'].intercalate (parts.map String.toList) :=
  intercalate_dots (P := ('[' ∉ ·)) (by simp) (by simp) (fun _ _ hcs hds => by simp [hcs, hds])
    fun s hs => (h s hs).unbracketed.1

/-- Plain segments with dots between them are the segments of what they make up. -/
theorem segments_intercalate {parts : List String} (hne : parts ≠ []) (h : ∀ s ∈ parts, IsPlain s) :
    segments (".".intercalate parts) = parts := by
  have hdots : ∀ cs ∈ parts.map String.toList, '.' ∉ cs := by
    intro cs hcs
    obtain ⟨s, hs, rfl⟩ := List.mem_map.mp hcs
    exact (h s hs).dotless
  have hexpand : expandChars (Text.trimChars (".".intercalate parts).toList) =
      ['.'].intercalate (parts.map String.toList) := by
    have htext : (".".intercalate parts).toList = ['.'].intercalate (parts.map String.toList) :=
      String.toList_intercalate
    rw [htext, (isTrimmed_intercalate h).trimChars_eq_self, expandChars_eq_self (not_bracket_intercalate h)]
  rw [segments, hexpand, splitDots_eq_splitOn, List.splitOn_intercalate '.' hdots (by simpa using hne)]
  simp [Function.comp_def]

/-! ### Behind a dot -/

/-- The segments of a text that stands behind a dot. Blanks before the text belong to the first of them. -/
def furtherSegments (path : String) : List String :=
  (splitDots (expandChars (path.toList.rdropWhile Text.isBlank))).map String.ofList

theorem furtherSegments_of_trimmed {path : String} (h : Text.trim path = path) :
    furtherSegments path = segments path := by
  have htrimmed := Text.trim_eq_self_iff.mp h
  rw [furtherSegments, htrimmed.rdropWhile_eq_self, segments, htrimmed.trimChars_eq_self]

theorem map_splitDots_dotted {s : String} (h : IsPlain s) (cs : List Char) :
    (splitDots (expandChars (s.toList ++ '.' :: cs))).map String.ofList =
      s :: (splitDots (expandChars cs)).map String.ofList := by
  have hopen : '[' ∉ ['.'] := by simp
  have hdot : expandChars ('.' :: cs) = '.' :: expandChars cs := expandChars_append hopen cs
  rw [expandChars_append h.unbracketed.1, hdot, splitDots_append h.dotless, List.map_cons, String.ofList_toList]

theorem toList_dotted (s path : String) : (s ++ "." ++ path).toList = s.toList ++ '.' :: path.toList := by
  simp

/-- A plain text before a dot is the first segment. -/
theorem segments_dotted {s : String} (h : IsPlain s) (path : String) :
    segments (s ++ "." ++ path) = s :: furtherSegments path := by
  rw [segments, toList_dotted, (Text.trim_eq_self_iff.mp h.trimmed).trimChars_append_cons (by decide),
    map_splitDots_dotted h]
  rfl

theorem furtherSegments_dotted {s : String} (h : IsPlain s) (path : String) :
    furtherSegments (s ++ "." ++ path) = s :: furtherSegments path := by
  rw [furtherSegments, toList_dotted, Text.rdropWhile_append_cons (by decide), map_splitDots_dotted h]
  rfl

end FlowTree.Path
