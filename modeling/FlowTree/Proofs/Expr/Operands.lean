import FlowTree.Proofs.Expr.Reading
import FlowTree.Proofs.Expr.Values
import FlowTree.Proofs.Text.Blank

/-! # Operands

A number or a text in quotes is read in two ways: as a literal of an expression, and as an operand of a
comparison. Both find the same number and the same text, but for two cases. An operand keeps the backslashes
that a literal reads as escapes, and it is no number when the number is beyond the range of doubles. -/

namespace FlowTree

/-- Not a number beyond the range of doubles. -/
def Literal.IsFinite : Literal → Prop
  | number f => f.isFinite = true
  | _ => True

namespace Grammar

variable {token left right sign cs mid rest : List Char} {l r : Literal} {typed typed' : Json} {op : BinaryOp}
  {e : Expr} {x : Extent} {k n m : Nat}

/-- The whole text is a number or a string of the language. `l` is its literal, `typed` the number or the text
    between its quotes as it is written, and `n` of its characters count for the limit. -/
inductive Operand : List Char → Literal → Json → Nat → Prop
  | number {token f} (h : Numeral token) (hf : Decimal.readFloat? token = some f) :
      Operand token (.number f) (Json.ofFloat f) token.length
  | string {q body s} (hq : Text.IsQuote q) (h : Contents q body s) :
      Operand (q :: body ++ [q]) (.string (String.ofList s)) (.str (String.ofList body)) 1

/-- An operator with blanks around it. -/
inductive Spaced (op : BinaryOp) : List Char → Prop
  | mk {before after} (hbefore : ∀ c ∈ before, c ∈ blanks) (hafter : ∀ c ∈ after, c ∈ blanks) :
      Spaced op (before ++ (binarySign op ++ after))

theorem spaced_symbol (op : BinaryOp) : Spaced op (" " ++ String.ofList op.symbol ++ " ").toList := by
  have hblank : ∀ ch ∈ [' '], ch ∈ blanks := by simp [blanks]
  simpa [symbol_eq] using (Spaced.mk hblank hblank : Spaced op _)

/-! ### As literals -/

theorem Operand.literalAt (h : Operand token l typed n) (rest : List Char) : LiteralAt (token ++ rest) l n rest := by
  cases h with
  | number h hf => exact .number h hf
  | @string q body s hq h =>
    have htext : q :: body ++ [q] ++ rest = q :: (body ++ q :: rest) := by simp
    exact htext ▸ .string hq.symm h

theorem Operand.of_number? {f : Float} (h : number? token = some (f, [])) :
    Operand token (.number f) (Json.ofFloat f) token.length := by
  obtain ⟨token', hnumeral, hread, htext⟩ := number?_sound h
  rw [List.append_nil] at htext
  exact htext ▸ .number hnumeral hread

/-- The reader of string literals tells the contents that end at a quote from all others. -/
theorem stringBody?_iff {q : Char} {body s : List Char} (hq : q ≠ '\\') (rest : List Char) :
    stringBody? q (body ++ q :: rest) = some (s, rest) ↔ Contents q body s := by
  constructor
  · intro h
    obtain ⟨body', hcontents, hsplit⟩ := stringBody?_sound h
    exact List.append_cancel_right hsplit ▸ hcontents
  · exact fun h => stringBody?_append hq h rest

theorem Operand.of_body {q : Char} {s : List Char} (hq : Text.IsQuote q) (body : List Char)
    (h : stringBody? q (body ++ [q]) = some (s, [])) :
    Operand (q :: body ++ [q]) (.string (String.ofList s)) (.str (String.ofList body)) 1 := by
  have hne : q ≠ '\\' := by rcases hq with rfl | rfl <;> decide
  exact .string hq ((stringBody?_iff hne []).mp h)

theorem blanks_append {gap : List Char} (h : ∀ c ∈ gap, c ∈ blanks) (rest : List Char) :
    Blanks gap.length (gap ++ rest) rest := by
  induction gap with
  | nil => exact .none
  | cons c gap ih => exact .more (h c List.mem_cons_self) (ih fun c' hc' => h c' (List.mem_cons_of_mem _ hc'))

/-- A literal is a phrase of every level. -/
theorem derives_literal (hb : Blanks k cs mid) (hl : LiteralAt mid l n rest) (ls : List (List BinaryOp)) :
    Derives (.levels ls) cs (.literal l) { length := k + n } rest := by
  induction ls with
  | nil =>
    have h := Derives.chain .nil (.literal hb hl)
    simpa [Extent.lead, Extent.widen] using h
  | cons ops ls ih => exact .operand ih

/-- A phrase of a level is one of every looser level. -/
theorem Derives.loosen {ls ls' : List (List BinaryOp)} (h : Derives (.levels ls) cs e x rest) (hl : ls <:+ ls') :
    Derives (.levels ls') cs e x rest := by
  obtain ⟨looser, rfl⟩ := hl
  induction looser with
  | nil => exact h
  | cons ops looser ih => exact .operand ih

theorem exists_level (op : BinaryOp) : ∃ ops ls, (ops :: ls) <:+ precedence ∧ op ∈ ops := by
  have hlevel : ∃ ops ∈ precedence, op ∈ ops := by cases op <;> decide
  obtain ⟨ops, hops, hop⟩ := hlevel
  obtain ⟨looser, tighter, hsplit⟩ := List.append_of_mem hops
  exact ⟨ops, tighter, ⟨looser, hsplit.symm⟩, hop⟩

/-- An operand alone is a sentence, whose tree is its literal. -/
theorem sentence_of_operand (h : Operand token l typed n) : Sentence token (.literal l) { length := n } := by
  have hderives := derives_literal .none (List.append_nil token ▸ h.literalAt []) precedence
  exact ⟨0, _, [], hderives, .none, by simp [Extent.widen]⟩

theorem parse_of_operand (h : Operand token l typed n) (hlength : n ≤ Expr.maxLength) :
    Expr.parse (String.ofList token) = .ok (.literal l) := by
  rw [parse_eq_ok_iff, String.toList_ofList]
  exact ⟨_, sentence_of_operand h, Nat.zero_le _, Nat.zero_le _, hlength⟩

/-- Two operands with an operator between them are a sentence, whose tree is this operator on their literals. -/
theorem sentence_of_operands (hl : Operand left l typed n) (hr : Operand right r typed' m) (hs : Spaced op sign) :
    Sentence (left ++ (sign ++ right)) (.binary (.literal l) op (.literal r)) { length := n + (sign.length + m) } := by
  cases hs with
  | @mk before after hbefore hafter =>
    obtain ⟨ops, ls, hlevel, hop⟩ := exists_level op
    have hleft := derives_literal .none (hl.literalAt (before ++ (binarySign op ++ (after ++ right)))) (ops :: ls)
    have hright := derives_literal (blanks_append hafter _) (List.append_nil right ▸ hr.literalAt []) ls
    have h := (Derives.binary hleft hop (blanks_append hbefore _) hright).loosen hlevel
    refine ⟨0, _, [], by simpa using h, .none, ?_⟩
    simp [Extent.join, Extent.widen]
    omega

/-- Within the limit on its length, a comparison of two operands is read as such. -/
theorem parse_of_operands (hl : Operand left l typed n) (hr : Operand right r typed' m) (hs : Spaced op sign)
    (hlength : n + (sign.length + m) ≤ Expr.maxLength) :
    Expr.parse (String.ofList (left ++ (sign ++ right))) = .ok (.binary (.literal l) op (.literal r)) := by
  rw [parse_eq_ok_iff, String.toList_ofList]
  exact ⟨_, sentence_of_operands hl hr hs, Nat.zero_le _, Nat.zero_le _, hlength⟩

/-- No text is read that counts more characters than the limit allows. -/
theorem Sentence.parse_ne_ok (h : Sentence cs e x) (hlength : Expr.maxLength < x.length) (e' : Expr) :
    Expr.parse (String.ofList cs) ≠ .ok e' := by
  rw [Expr.parse, String.toList_ofList]
  intro hparse
  have hlimits := h.checkLimits_iff.mp (parseChars_eq_ok_iff.mp hparse).1
  exact absurd hlimits.2 (by omega)

/-! ### As operands -/

theorem Numeral.not_isBlank (h : Numeral token) : ∀ c ∈ token, Text.isBlank c = false :=
  h.forall (fun _ hc => Text.isBlank_of_isDigit hc) (by simp [Text.isBlank])

theorem Numeral.isNumeralChar (h : Numeral token) : token.all Json.isNumeralChar = true := by
  refine List.all_eq_true.mpr (h.forall (fun c hc => ?_) (by simp [Json.isNumeralChar]))
  simp [Json.isNumeralChar, hc]

theorem Operand.ne_nil (h : Operand token l typed n) : token ≠ [] := by
  obtain ⟨c, t, ht, -⟩ := (h.literalAt []).begins
  rw [List.append_nil] at ht
  simp [ht]

theorem Operand.isTrimmed (h : Operand token l typed n) : Text.IsTrimmed token := by
  cases h with
  | number h _ => exact Text.isTrimmed_of_forall h.not_isBlank
  | @string q body s hq _ =>
    have hblank : Text.isBlank q = false := by rcases hq with rfl | rfl <;> decide
    constructor
    · intro c hc
      cases hc
      exact hblank
    · intro c hc
      rw [List.getLast?_concat] at hc
      cases hc
      exact hblank

theorem Contents.eq_of_plain {q : Char} {body s : List Char} (h : Contents q body s) (hplain : '\\' ∉ body) :
    s = body := by
  induction h with
  | nil => rfl
  | plain _ _ _ ih => rw [ih (List.not_mem_of_not_mem_cons hplain)]
  | escaped => exact absurd List.mem_cons_self hplain

theorem contents_of_plain {q : Char} {body : List Char} (hplain : '\\' ∉ body) (hq : q ∉ body) :
    Contents q body body := by
  induction body with
  | nil => exact .nil
  | cons c body ih =>
    exact .plain (List.ne_of_not_mem_cons hplain).symm (List.ne_of_not_mem_cons hq).symm
      (ih (List.not_mem_of_not_mem_cons hplain) (List.not_mem_of_not_mem_cons hq))

/-- Without a backslash, what is written in an operand is the value of its literal. -/
theorem Operand.typed_eq_value (h : Operand token l typed n) (hplain : '\\' ∉ token) : typed = l.value := by
  cases h with
  | number => rfl
  | string hq h =>
    have hbody : '\\' ∉ _ := fun hmem => hplain (List.mem_append_left _ (List.mem_cons_of_mem _ hmem))
    rw [h.eq_of_plain hbody]
    rfl

/-- An operand is taken as it is written. -/
theorem Operand.ofOperand_eq (h : Operand token l typed n) (hfinite : l.IsFinite) :
    Json.ofOperand (String.ofList token) = typed := by
  have htrim : Text.trim (String.ofList token) = String.ofList token :=
    Text.trim_eq_self_iff.mpr (String.toList_ofList ▸ h.isTrimmed)
  have htrimChars : Text.trimChars token = token := h.isTrimmed.trimChars_eq_self
  cases h with
  | @number token f hn hf =>
    have hne : token ≠ [] := by
      rintro rfl
      cases hf
    have hparse : Json.parseNumber? (String.ofList token) = some f := by
      rw [Json.parseNumber?, String.toList_ofList, htrimChars]
      have hfin : f.isFinite = true := hfinite
      simp [hne, hn.isNumeralChar, hf, hfin]
    simp only [Json.ofOperand, htrim, hparse]
  | @string q body s hq _ =>
    have hparse : Json.parseNumber? (String.ofList (q :: body ++ [q])) = none := by
      have hnot : Json.isNumeralChar q = false := by rcases hq with rfl | rfl <;> decide
      rw [Json.parseNumber?, String.toList_ofList, htrimChars]
      simp [hnot]
    have hstrip : Text.stripQuotes (String.ofList (q :: body ++ [q])) = some (String.ofList body) := by
      rw [Text.stripQuotes, String.toList_ofList, Text.stripQuoteChars_eq_some_iff.mpr ⟨q, hq, rfl⟩]
      rfl
    simp only [Json.ofOperand, htrim, hparse, hstrip]

end Grammar

end FlowTree
