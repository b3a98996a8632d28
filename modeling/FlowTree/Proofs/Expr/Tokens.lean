import FlowTree.Proofs.Expr.Numerals

/-! # Tokens

The readers of blanks, literals, prefix operators and binary operators take exactly the tokens of the
language. -/

namespace FlowTree.Grammar

/-! ### Blanks -/

theorem isBlank_iff {c : Char} : isBlank c = true ↔ c ∈ blanks := by
  simp [isBlank, blanks, or_assoc]

theorem Blanks.skip {n : Nat} {cs rest : List Char} (h : Blanks n cs rest) : skipBlanks cs = skipBlanks rest := by
  induction h with
  | none => rfl
  | more hc _ ih =>
    rw [← ih]
    simp [skipBlanks, isBlank_iff.mpr hc]

theorem exists_blanks_skipBlanks (cs : List Char) : ∃ n, Blanks n cs (skipBlanks cs) := by
  induction cs with
  | nil => exact ⟨0, .none⟩
  | cons c cs ih =>
    by_cases hc : isBlank c = true
    · obtain ⟨n, hn⟩ := ih
      have : skipBlanks (c :: cs) = skipBlanks cs := by simp [skipBlanks, hc]
      exact ⟨n + 1, this ▸ .more (isBlank_iff.mp hc) hn⟩
    · have : skipBlanks (c :: cs) = c :: cs := by simp [skipBlanks, hc]
      rw [this]
      exact ⟨0, .none⟩

@[simp] theorem skipBlanks_cons_of_not {c : Char} {cs : List Char} (hc : isBlank c = false) :
    skipBlanks (c :: cs) = c :: cs := by
  simp [skipBlanks, hc]

@[simp] theorem skipBlanks_skipBlanks (cs : List Char) : skipBlanks (skipBlanks cs) = skipBlanks cs := by
  induction cs with
  | nil => rfl
  | cons c cs ih =>
    cases hc : isBlank c
    · simp [hc]
    · have : skipBlanks (c :: cs) = skipBlanks cs := by simp [skipBlanks, hc]
      rw [this, ih]

theorem length_skipBlanks_le (cs : List Char) : (skipBlanks cs).length ≤ cs.length :=
  (List.dropWhile_sublist _).length_le

theorem Blanks.trans {n m : Nat} {cs mid rest : List Char} (h : Blanks n cs mid) (h' : Blanks m mid rest) :
    Blanks (n + m) cs rest := by
  induction h with
  | none => simpa using h'
  | @more n c cs rest hc _ ih =>
    have : n + 1 + m = n + m + 1 := by omega
    exact this ▸ .more hc (ih h')

/-- What follows the blanks of a text is found by skipping, if it does not begin with one. -/
theorem Blanks.skip_cons {n : Nat} {c : Char} {cs rest : List Char} (h : Blanks n cs (c :: rest))
    (hc : isBlank c = false) : skipBlanks cs = c :: rest := by
  rw [h.skip, skipBlanks_cons_of_not hc]

/-! ### Literals -/

theorem escape_iff {c d : Char} : Escape c d ↔ d = unescape c := by
  constructor
  · rintro (_ | _ | _ | ⟨hn, ht, hr⟩)
    · rfl
    · rfl
    · rfl
    · simp [unescape, hn, ht, hr]
  · rintro rfl
    unfold unescape
    split
    · next h => exact h ▸ .newline
    · split
      · next h => exact h ▸ .tab
      · split
        · next h => exact h ▸ .return
        · next hn ht hr => exact .other ⟨hn, ht, hr⟩

theorem continuesWord_iff {cs : List Char} : ContinuesWord cs ↔ cs.head?.any isWordChar = true := by
  cases cs <;> simp [ContinuesWord, isWordChar]

theorem stringBody?_append {q : Char} {body s : List Char} (hq : q ≠ '\\') (h : Contents q body s)
    (rest : List Char) : stringBody? q (body ++ q :: rest) = some (s, rest) := by
  induction h with
  | nil =>
    rw [List.nil_append, stringBody?.eq_def]
    split <;> simp_all
  | plain hb hc _ ih =>
    rw [List.cons_append, stringBody?.eq_def]
    split <;> simp_all
  | escaped hd _ ih => simp [stringBody?, ih, escape_iff.mp hd]

theorem stringBody?_sound {q : Char} {cs rest s : List Char} (h : stringBody? q cs = some (s, rest)) :
    ∃ body, Contents q body s ∧ cs = body ++ q :: rest := by
  fun_induction stringBody? q cs generalizing s rest with
  | case1 => cases h
  | case2 c cs ih =>
    obtain ⟨⟨s', rest'⟩, hr, he⟩ := Option.map_eq_some_iff.mp h
    cases he
    obtain ⟨body, hbody, rfl⟩ := ih hr
    exact ⟨'\\' :: c :: body, .escaped (escape_iff.mpr rfl) hbody, rfl⟩
  | case3 => cases h
  | case4 cs _ =>
    cases h
    exact ⟨[], .nil, rfl⟩
  | case5 c cs _ hb hq ih =>
    obtain ⟨⟨s', rest'⟩, hr, he⟩ := Option.map_eq_some_iff.mp h
    cases he
    obtain ⟨body, hbody, rfl⟩ := ih hr
    exact ⟨c :: body, .plain hb hq hbody, rfl⟩

theorem keyword?_append {word rest : List Char} {l : Literal} (h : (word, l) ∈ words)
    (hr : ¬ContinuesWord rest) : keyword? (word ++ rest) = some (l, rest) := by
  rw [continuesWord_iff, Bool.not_eq_true] at hr
  simp only [words, List.mem_cons, Prod.mk.injEq, List.not_mem_nil, or_false] at h
  rcases h with ⟨rfl, rfl⟩ | ⟨rfl, rfl⟩ | ⟨rfl, rfl⟩ | ⟨rfl, rfl⟩ <;>
    simp [keyword?, keywords, Text.after?, hr]

theorem keyword?_sound {cs rest : List Char} {l : Literal} (h : keyword? cs = some (l, rest)) :
    ∃ word, (word, l) ∈ words ∧ ¬ContinuesWord rest ∧ cs = word ++ rest := by
  obtain ⟨⟨word, value⟩, hmem, hw⟩ := List.exists_of_findSome?_eq_some h
  dsimp only at hw
  split at hw
  · next tail htail =>
    split at hw
    · cases hw
    · next hr =>
      cases hw
      exact ⟨word, hmem, fun h => hr (continuesWord_iff.mp h), (Text.append_of_after? htail).symm⟩
  · cases hw

theorem number?_cons_eq_none {c : Char} {cs : List Char} (hd : c.isDigit = false) (hp : c ≠ '.') :
    number? (c :: cs) = none := by
  simp [number?, mantissa?, hd, hp]

theorem string?_cons_eq_none {c : Char} {cs : List Char} (hc : ¬(c = '\'' ∨ c = '"')) :
    string? (c :: cs) = none := by
  simp [string?, hc]

/-- A literal is read up to what follows it. -/
theorem literal?_of_literalAt {cs rest : List Char} {l : Literal} {n : Nat} (h : LiteralAt cs l n rest)
    (hr : Delimited rest) : literal? cs = some (l, rest) := by
  cases h with
  | number h hf => rw [literal?, number?_append h hf hr]
  | @string q body s _ hq h =>
    have hnum : number? (q :: (body ++ q :: rest)) = none := by
      rcases hq with rfl | rfl <;> exact number?_cons_eq_none (by decide) (by decide)
    have hb : q ≠ '\\' := by rcases hq with rfl | rfl <;> decide
    simp [literal?, hnum, string?, hq, stringBody?_append hb h]
  | @word word _ _ hmem hw =>
    have hword := keyword?_append hmem hw
    simp only [words, List.mem_cons, Prod.mk.injEq, List.not_mem_nil, or_false] at hmem
    have hnone : number? (word ++ rest) = none ∧ string? (word ++ rest) = none := by
      rcases hmem with ⟨rfl, -⟩ | ⟨rfl, -⟩ | ⟨rfl, -⟩ | ⟨rfl, -⟩ <;>
        exact ⟨number?_cons_eq_none (by decide) (by decide), string?_cons_eq_none (by decide)⟩
    rw [literal?, hnone.1, hnone.2]
    exact hword

/-- What is read as a literal is one. -/
theorem literal?_sound {cs rest : List Char} {l : Literal} (h : literal? cs = some (l, rest)) :
    ∃ n, LiteralAt cs l n rest := by
  unfold literal? at h
  split at h
  · next f mid hnum =>
    cases h
    obtain ⟨token, htoken, hf, rfl⟩ := number?_sound hnum
    exact ⟨_, .number htoken hf⟩
  · split at h
    · next s mid hstr =>
      cases h
      cases cs with
      | nil => cases hstr
      | cons q cs =>
        simp only [string?, Option.ite_none_right_eq_some, Option.map_eq_some_iff] at hstr
        obtain ⟨hq, ⟨body, mid⟩, hbody, he⟩ := hstr
        cases he
        obtain ⟨text, htext, rfl⟩ := stringBody?_sound hbody
        exact ⟨_, .string hq htext⟩
    · obtain ⟨word, hmem, hw, rfl⟩ := keyword?_sound h
      exact ⟨_, .word hmem hw⟩

theorem literal?_paren (cs : List Char) : literal? ('(' :: cs) = none := by
  rw [literal?, number?_cons_eq_none (by decide) (by decide), string?_cons_eq_none (by decide)]
  simp [keyword?, keywords, Text.after?]

/-! ### Operators -/

/-- The character begins an operand: it is no blank, and no operator begins with it. -/
structure BeginsOperand (c : Char) : Prop where
  notBlank : isBlank c = false
  noPrefix : PrefixOp.ofChar? c = none
  notEqual : c ≠ '='

theorem beginsOperand_of_isDigit {c : Char} (hc : c.isDigit = true) : BeginsOperand c := by
  have ne : ∀ d : Char, d.isDigit = false → c ≠ d := fun _ => ne_of_isDigit hc
  refine ⟨?_, ?_, ne '=' (by decide)⟩
  · simp [isBlank, ne ' ' (by decide), ne '\t' (by decide), ne '\r' (by decide), ne '\n' (by decide)]
  · simp [PrefixOp.ofChar?, PrefixOp.symbol, (ne '!' (by decide)).symm, (ne '-' (by decide)).symm,
      (ne '+' (by decide)).symm]

theorem Mantissa.begins {m : List Char} (h : Mantissa m) : ∃ c t, m = c :: t ∧ BeginsOperand c := by
  have digits : ∀ {ds : List Char}, IsDigits ds → ∃ c t, ds = c :: t ∧ BeginsOperand c := fun {ds} hd => by
    obtain ⟨d, ds', rfl⟩ := List.exists_cons_of_ne_nil hd.1
    exact ⟨d, ds', rfl, beginsOperand_of_isDigit (hd.2 d (by simp))⟩
  cases h with
  | whole hd => exact digits hd
  | point hd hf =>
    obtain ⟨c, t, rfl, hc⟩ := digits hd
    exact ⟨c, _, rfl, hc⟩
  | fraction hf => exact ⟨'.', _, rfl, by decide, by decide, by decide⟩

theorem LiteralAt.begins {cs rest : List Char} {l : Literal} {n : Nat} (h : LiteralAt cs l n rest) :
    ∃ c t, cs = c :: t ∧ BeginsOperand c := by
  cases h with
  | number h hf =>
    obtain ⟨m, x, hm, -, rfl⟩ := h
    obtain ⟨c, t, rfl, hc⟩ := hm.begins
    exact ⟨c, _, rfl, hc⟩
  | string hq h =>
    refine ⟨_, _, rfl, ?_⟩
    rcases hq with rfl | rfl
    · exact ⟨by decide, by decide, by decide⟩
    · exact ⟨by decide, by decide, by decide⟩
  | word hmem hw =>
    simp only [words, List.mem_cons, Prod.mk.injEq, List.not_mem_nil, or_false] at hmem
    rcases hmem with ⟨rfl, -⟩ | ⟨rfl, -⟩ | ⟨rfl, -⟩ | ⟨rfl, -⟩ <;>
      exact ⟨_, _, rfl, by decide, by decide, by decide⟩

theorem isBlank_prefixSign (op : PrefixOp) : isBlank (prefixSign op) = false := by cases op <;> decide

theorem ofChar?_prefixSign (op : PrefixOp) : PrefixOp.ofChar? (prefixSign op) = some op := by
  cases op <;> decide

theorem prefixSign_of_ofChar? {c : Char} {op : PrefixOp} (h : PrefixOp.ofChar? c = some op) : prefixSign op = c := by
  have hc : op.symbol = c := by simpa using List.find?_some h
  rw [← hc]
  cases op <;> rfl

theorem Blanks.prefixOps {n : Nat} {cs rest : List Char} (h : Blanks n cs rest) :
    prefixOps cs = Grammar.prefixOps rest := by
  induction h with
  | none => rfl
  | more hc _ ih => rw [Grammar.prefixOps, if_pos (isBlank_iff.mpr hc), ih]

@[simp] theorem prefixOps_skipBlanks (cs : List Char) : prefixOps (skipBlanks cs) = prefixOps cs := by
  obtain ⟨n, hn⟩ := exists_blanks_skipBlanks cs
  exact hn.prefixOps.symm

/-- A chain of prefix operators is read up to its operand. -/
theorem prefixOps_append {ops : List PrefixOp} {n : Nat} {cs mid t : List Char} {c : Char}
    (h : Prefixes ops n cs mid) (hmid : skipBlanks mid = c :: t) (hc : BeginsOperand c) :
    prefixOps cs = (ops, c :: t) := by
  induction h with
  | nil =>
    rw [← prefixOps_skipBlanks, hmid]
    simp [prefixOps, hc.notBlank, hc.noPrefix]
  | cons hb _ ih =>
    rw [hb.prefixOps]
    simp [prefixOps, isBlank_prefixSign, ofChar?_prefixSign, ih hmid]

theorem Prefixes.widen {ops : List PrefixOp} {n m : Nat} {cs mid rest : List Char} (hb : Blanks n cs mid)
    (h : Prefixes ops m mid rest) :
    ∃ k rest', Prefixes ops k cs rest' ∧ skipBlanks rest' = skipBlanks rest := by
  cases h with
  | nil => exact ⟨0, cs, .nil, hb.skip⟩
  | cons hb' h' => exact ⟨_, _, .cons (hb.trans hb') h', rfl⟩

/-- What is read as a chain of prefix operators is one. -/
theorem prefixOps_sound (cs : List Char) :
    ∃ n rest, Prefixes (prefixOps cs).1 n cs rest ∧ (prefixOps cs).2 = skipBlanks rest := by
  induction cs with
  | nil => exact ⟨0, [], .nil, rfl⟩
  | cons c cs ih =>
    obtain ⟨n, rest, hp, hrest⟩ := ih
    cases hc : isBlank c
    · rcases hop : PrefixOp.ofChar? c with _ | op
      · exact ⟨0, c :: cs, by simpa [prefixOps, hc, hop] using .nil, by simp [prefixOps, hc, hop]⟩
      · obtain rfl := prefixSign_of_ofChar? hop
        refine ⟨0 + 1 + n, rest, ?_, ?_⟩
        · simpa [prefixOps, hc, hop] using Prefixes.cons (Blanks.none : Blanks 0 (prefixSign op :: cs) _) hp
        · simpa [prefixOps, hc, hop] using hrest
    · have hb : Blanks 1 (c :: cs) cs := .more (isBlank_iff.mp hc) .none
      rw [hb.prefixOps, hrest]
      obtain ⟨k, rest', hp', hrest'⟩ := hp.widen hb
      exact ⟨k, rest', hp', hrest'.symm⟩

theorem symbol_eq (op : BinaryOp) : op.symbol = binarySign op := by cases op <;> rfl

theorem binarySign_ne_nil (op : BinaryOp) : binarySign op ≠ [] := by cases op <;> simp [binarySign]

theorem operator?_sound {ops : List BinaryOp} {cs rest : List Char} {op : BinaryOp}
    (h : operator? ops cs = some (op, rest)) : op ∈ ops ∧ cs = binarySign op ++ rest := by
  obtain ⟨op', hmem, hop⟩ := List.exists_of_findSome?_eq_some h
  obtain ⟨rest', hrest, he⟩ := Option.map_eq_some_iff.mp hop
  cases he
  exact ⟨hmem, symbol_eq op ▸ (Text.append_of_after? hrest).symm⟩

/-- An operator of a level is read in front of an operand: the operators that go on with `=` are tried
    before those they go on from. -/
theorem operator?_binarySign {ops : List BinaryOp} {op : BinaryOp} {rest : List Char} (hl : ops ∈ precedence)
    (hop : op ∈ ops) (hr : rest.head? ≠ some '=') : operator? ops (binarySign op ++ rest) = some (op, rest) := by
  have hnone : ∀ p, Text.after? ('=' :: p) rest = none := fun p => by
    cases rest with
    | nil => rfl
    | cons c t =>
      have hc : '=' ≠ c := fun h => hr (by rw [h]; rfl)
      simp [Text.after?, hc]
  simp only [precedence, List.mem_cons, List.not_mem_nil, or_false] at hl
  rcases hl with rfl | rfl | rfl | rfl | rfl | rfl <;>
    simp only [List.mem_cons, List.not_mem_nil, or_false] at hop <;>
    rcases hop with rfl | rfl | rfl | rfl <;>
    simp [operator?, binarySign, BinaryOp.symbol, Text.after?, hnone]

theorem operator?_eq_none {ops : List BinaryOp} {cs : List Char}
    (h : ∀ op ∈ ops, (binarySign op).head? ≠ cs.head?) : operator? ops cs = none := by
  rw [operator?, List.findSome?_eq_none_iff]
  intro op hop
  have hne := h op hop
  obtain ⟨c, t, hc⟩ := List.exists_cons_of_ne_nil (binarySign_ne_nil op)
  rw [symbol_eq, hc]
  rw [hc] at hne
  cases cs with
  | nil => rfl
  | cons d cs =>
    have : c ≠ d := fun h => hne (by rw [h]; rfl)
    simp [Text.after?, this]

end FlowTree.Grammar
