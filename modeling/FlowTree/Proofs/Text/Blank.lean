import FlowTree.Text.Blank
import Mathlib.Data.List.DropRight

/-! # Trimmed texts

A text is trimmed if it neither begins nor ends with a blank. Trimming makes a text so, and leaves one
that is so alone. Quotes around a text are taken off as a pair or not at all. -/

namespace FlowTree.Text

/-- Neither the first nor the last character is a blank. -/
structure IsTrimmed (cs : List Char) : Prop where
  head : ∀ c, cs.head? = some c → isBlank c = false
  last : ∀ c, cs.getLast? = some c → isBlank c = false

variable {cs ds : List Char}

/-! ### Blanks -/

theorem trimChars_eq (cs : List Char) : trimChars cs = (cs.dropWhile isBlank).rdropWhile isBlank := rfl

theorem isTrimmed_trimChars (cs : List Char) : IsTrimmed (trimChars cs) := by
  rw [trimChars_eq]
  constructor
  · intro c hc
    obtain ⟨tail, htail⟩ := List.rdropWhile_prefix isBlank (cs.dropWhile isBlank)
    have hdrop := List.head?_dropWhile_not isBlank cs
    rw [← htail, List.head?_append, hc] at hdrop
    exact hdrop
  · intro c hc
    have hne : (cs.dropWhile isBlank).rdropWhile isBlank ≠ [] := by
      intro hnil
      rw [hnil] at hc
      cases hc
    have hlast := List.rdropWhile_last_not isBlank (cs.dropWhile isBlank) hne
    rw [List.getLast?_eq_some_getLast hne] at hc
    rw [Option.some.inj hc] at hlast
    exact Bool.not_eq_true _ ▸ hlast

theorem IsTrimmed.dropWhile_eq_self (h : IsTrimmed cs) : cs.dropWhile isBlank = cs := by
  cases cs with
  | nil => rfl
  | cons c cs => simp [h.head c rfl]

theorem IsTrimmed.rdropWhile_eq_self (h : IsTrimmed cs) : cs.rdropWhile isBlank = cs := by
  rw [List.rdropWhile_eq_self_iff]
  intro hne
  simp [h.last _ (List.getLast?_eq_some_getLast hne)]

theorem IsTrimmed.trimChars_eq_self (h : IsTrimmed cs) : trimChars cs = cs := by
  rw [trimChars_eq, h.dropWhile_eq_self, h.rdropWhile_eq_self]

theorem trimChars_eq_self_iff : trimChars cs = cs ↔ IsTrimmed cs :=
  ⟨fun h => h ▸ isTrimmed_trimChars cs, IsTrimmed.trimChars_eq_self⟩

@[simp] theorem trimChars_trimChars (cs : List Char) : trimChars (trimChars cs) = trimChars cs :=
  (isTrimmed_trimChars cs).trimChars_eq_self

/-- What follows a trimmed text may end it, and what it follows may begin it. -/
theorem IsTrimmed.append (h : IsTrimmed cs) (h' : IsTrimmed ds) : IsTrimmed (cs ++ ds) where
  head c hc := by
    cases cs with
    | nil => exact h'.head c hc
    | cons d cs => exact h.head c hc
  last c hc := by
    rw [List.getLast?_append] at hc
    cases hlast : ds.getLast? with
    | none => exact h.last c (by simpa [hlast] using hc)
    | some d => exact h'.last c (by simpa [hlast] using hc)

/-- A text that begins and ends with trimmed texts is trimmed, whatever stands between them. -/
theorem IsTrimmed.around (h : IsTrimmed cs) (h' : IsTrimmed ds) (hne : cs ≠ []) (hne' : ds ≠ []) (es : List Char) :
    IsTrimmed (cs ++ es ++ ds) where
  head c hc := by
    rw [List.append_assoc, List.head?_append_of_ne_nil _ hne] at hc
    exact h.head c hc
  last c hc := by
    rw [List.getLast?_append_of_ne_nil _ hne'] at hc
    exact h'.last c hc

/-- The blanks at the end are those behind the last character that is none. -/
theorem rdropWhile_append_cons {d : Char} (hd : isBlank d = false) (cs ds : List Char) :
    (cs ++ d :: ds).rdropWhile isBlank = cs ++ d :: ds.rdropWhile isBlank := by
  induction ds using List.reverseRecOn with
  | nil => rw [List.rdropWhile_concat_neg _ _ _ (by simp [hd]), List.rdropWhile_nil]
  | append_singleton ds e ih =>
    rw [← List.cons_append, ← List.append_assoc, List.rdropWhile_concat, List.rdropWhile_concat]
    split
    · exact ih
    · rw [List.append_assoc, List.cons_append]

theorem IsTrimmed.trimChars_append_cons (h : IsTrimmed cs) {d : Char} (hd : isBlank d = false) (ds : List Char) :
    trimChars (cs ++ d :: ds) = cs ++ d :: ds.rdropWhile isBlank := by
  have hdrop : (cs ++ d :: ds).dropWhile isBlank = cs ++ d :: ds := by
    cases cs with
    | nil => simp [hd]
    | cons c cs => simp [h.head c rfl]
  rw [trimChars_eq, hdrop, rdropWhile_append_cons hd]

@[simp] theorem toList_trim (s : String) : (trim s).toList = trimChars s.toList := String.toList_ofList

@[simp] theorem trim_trim (s : String) : trim (trim s) = trim s := by
  rw [trim, toList_trim, trimChars_trimChars, trim]

theorem trim_eq_self_iff {s : String} : trim s = s ↔ IsTrimmed s.toList := by
  rw [← trimChars_eq_self_iff, ← toList_trim, String.toList_inj]

theorem mem_of_mem_trimChars {c : Char} (h : c ∈ trimChars cs) : c ∈ cs := by
  rw [trimChars_eq] at h
  exact (List.dropWhile_suffix _).mem ((List.rdropWhile_prefix _ _).mem h)

theorem isBlank_of_isDigit {c : Char} (h : c.isDigit = true) : isBlank c = false := by
  have hrange : 48 ≤ c.toNat ∧ c.toNat ≤ 57 := Char.isDigit_iff_toNat.mp h
  simp [isBlank]
  omega

/-- A text without blanks is trimmed. -/
theorem isTrimmed_of_forall (h : ∀ c ∈ cs, isBlank c = false) : IsTrimmed cs where
  head c hc := h c (List.mem_of_head? hc)
  last c hc := h c (List.mem_of_getLast? hc)

/-! ### Words -/

theorem wordsFrom_append {current : List Char} (h : ∀ c ∈ cs, isBlank c = false) :
    wordsFrom current (cs ++ ds) = wordsFrom (current ++ cs) ds := by
  induction cs generalizing current with
  | nil => rw [List.nil_append, List.append_nil]
  | cons c cs ih =>
    rw [List.cons_append, wordsFrom, if_neg (by simp [h c List.mem_cons_self]),
      ih fun d hd => h d (List.mem_cons_of_mem _ hd), List.append_assoc, List.singleton_append]

/-- Words with blanks between them are the words of what they make up. -/
theorem words_intercalate {parts : List String} (h : ∀ s ∈ parts, s ≠ "" ∧ ∀ c ∈ s.toList, isBlank c = false) :
    words (" ".intercalate parts) = parts := by
  have hwords : wordsFrom [] ([' '].intercalate (parts.map String.toList)) = parts.map String.toList := by
    induction parts with
    | nil => rfl
    | cons s parts ih =>
      obtain ⟨hne, hblank⟩ := h s List.mem_cons_self
      have hempty : s.toList.isEmpty = false := by simpa using hne
      have ih := ih fun t ht => h t (List.mem_cons_of_mem _ ht)
      cases parts with
      | nil =>
        have happend : wordsFrom [] (s.toList ++ []) = wordsFrom ([] ++ s.toList) [] := wordsFrom_append hblank
        simpa [wordsFrom, hne] using happend
      | cons t parts =>
        rw [List.map_cons] at ih ⊢
        rw [List.map_cons, List.intercalate_cons_cons, List.append_assoc, wordsFrom_append hblank, List.nil_append,
          List.singleton_append, wordsFrom, if_pos (by decide), if_neg (by simp [hempty])]
        exact congrArg (s.toList :: ·) ih
  have htext : (" ".intercalate parts).toList = [' '].intercalate (parts.map String.toList) := String.toList_intercalate
  rw [words, htext, hwords]
  simp [Function.comp_def]

theorem of_mem_wordsFrom {current word : List Char} (hcurrent : ∀ c ∈ current, isBlank c = false)
    (h : word ∈ wordsFrom current cs) : word ≠ [] ∧ ∀ c ∈ word, isBlank c = false := by
  induction cs generalizing current with
  | nil =>
    rw [wordsFrom] at h
    split at h
    next => cases h
    next hne =>
      obtain rfl := List.mem_singleton.mp h
      exact ⟨by simpa using hne, hcurrent⟩
  | cons c cs ih =>
    rw [wordsFrom] at h
    split at h
    next =>
      split at h
      next => exact ih (by simp) h
      next hne =>
        rcases List.mem_cons.mp h with rfl | h
        · exact ⟨by simpa using hne, hcurrent⟩
        · exact ih (by simp) h
    next hc =>
      refine ih (fun d hd => ?_) h
      rcases List.mem_append.mp hd with hd | hd
      · exact hcurrent d hd
      · obtain rfl := List.mem_singleton.mp hd
        exact Bool.not_eq_true _ ▸ hc

theorem of_mem_words {s word : String} (h : word ∈ words s) : word ≠ "" ∧ ∀ c ∈ word.toList, isBlank c = false := by
  obtain ⟨cs, hcs, rfl⟩ := List.mem_map.mp h
  obtain ⟨hne, hblank⟩ := of_mem_wordsFrom (by simp) hcs
  rw [String.toList_ofList]
  exact ⟨mt String.ofList_eq_empty_iff.mp hne, hblank⟩

/-! ### Quotes -/

def IsQuote (q : Char) : Prop :=
  q = '"' ∨ q = '\''

/-- The text inside one pair of equal quotes, or the text itself if it is not in quotes. -/
inductive Unquoted : List Char → List Char → Prop where
  | quoted {q : Char} {inner : List Char} (h : IsQuote q) : Unquoted (q :: inner ++ [q]) inner
  | bare {cs : List Char} (h : ∀ q inner, IsQuote q → cs ≠ q :: inner ++ [q]) : Unquoted cs cs

theorem Unquoted.mem (h : Unquoted cs ds) : ∀ c ∈ ds, c ∈ cs := by
  cases h with
  | quoted => exact fun c hc => List.mem_append_left _ (List.mem_cons_of_mem _ hc)
  | bare => exact fun c hc => hc

theorem stripQuoteChars_eq_some_iff :
    stripQuoteChars cs = some ds ↔ ∃ q, IsQuote q ∧ cs = q :: ds ++ [q] := by
  constructor
  · intro h
    unfold stripQuoteChars at h
    split at h
    next q c rest =>
      split at h
      next hq =>
        refine ⟨q, hq.1, ?_⟩
        rw [← Option.some.inj h, List.cons_append]
        exact congrArg (q :: ·) (by rw [← List.dropLast_concat_getLast (l := c :: rest) (by simp), hq.2]; simp)
      next => cases h
    next => cases h
  · rintro ⟨q, hq, rfl⟩
    cases ds with
    | nil => exact if_pos ⟨hq, rfl⟩
    | cons c ds =>
      have hlast : (c :: ds ++ [q]).getLast (by simp) = q := List.getLast_concat
      have hdrop : (c :: ds ++ [q]).dropLast = c :: ds := List.dropLast_concat
      exact (if_pos ⟨hq, hlast⟩).trans (congrArg some hdrop)

theorem stripQuoteChars_eq_none_iff :
    stripQuoteChars cs = none ↔ ∀ q inner, IsQuote q → cs ≠ q :: inner ++ [q] := by
  rw [Option.eq_none_iff_forall_ne_some]
  simp only [ne_eq, stripQuoteChars_eq_some_iff, not_exists, not_and]
  exact forall_comm

theorem unquoted_iff : Unquoted cs ds ↔ (stripQuoteChars cs).getD cs = ds := by
  constructor
  · rintro (⟨hq⟩ | ⟨hbare⟩)
    · rw [stripQuoteChars_eq_some_iff.mpr ⟨_, hq, rfl⟩, Option.getD_some]
    · rw [stripQuoteChars_eq_none_iff.mpr hbare, Option.getD_none]
  · rintro rfl
    cases hstrip : stripQuoteChars cs with
    | none => exact .bare (stripQuoteChars_eq_none_iff.mp hstrip)
    | some inner =>
      obtain ⟨q, hq, rfl⟩ := stripQuoteChars_eq_some_iff.mp hstrip
      exact .quoted hq

theorem stripQuotes_eq_none_iff {s : String} :
    stripQuotes s = none ↔ ∀ q inner, IsQuote q → s.toList ≠ q :: inner ++ [q] := by
  rw [stripQuotes, Option.map_eq_none_iff, stripQuoteChars_eq_none_iff]

theorem unquoted_text_iff {s t : String} : Unquoted s.toList t.toList ↔ (stripQuotes s).getD s = t := by
  rw [unquoted_iff, stripQuotes, ← String.toList_inj]
  cases stripQuoteChars s.toList <;> simp

end FlowTree.Text
