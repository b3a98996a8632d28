import FlowTree.Proofs.Expr.LimitScan

/-! # Reading sentences

Reading is sound: what a reader takes is a phrase of the language, with the tree that it gives. It is
complete: a phrase is read to its end, as long as its chains of prefix operators and its parentheses keep
the limits and what follows cannot continue it. Both hold level by level, because operators of different
levels begin with different characters. -/

namespace FlowTree.Grammar
open FlowTree.Expr (maxDepth)

/-- The reader of a part of the grammar; `inner` reads what a parenthesis holds. -/
def readerOf (inner : Reader) : Part → Reader
  | .levels ls => ls.foldr chain (unary inner)
  | .primary => primary inner

theorem expression_succ (depth : Nat) (cs : List Char) :
    expression (depth + 1) cs = readerOf (expression depth) (.levels precedence) (skipBlanks cs) := rfl

/-! ### Soundness -/

/-- The text begins with the part, in chains that keep the limit, and `rest` is left after the blanks that
    follow it. -/
def ReadsAs (part : Part) (cs : List Char) (e : Expr) (rest : List Char) : Prop :=
  ∃ x mid, Derives part cs e x mid ∧ skipBlanks mid = rest ∧ x.chain ≤ maxDepth

/-- What the reader takes after the blanks of a text is the part. -/
def Sound (part : Part) (reader : Reader) : Prop :=
  ∀ cs e rest, reader (skipBlanks cs) = .ok (e, rest) → ReadsAs part cs e rest

theorem sound_primary {inner : Reader} (hi : Sound (.levels precedence) inner) :
    Sound .primary (primary inner) := by
  intro cs e rest h
  obtain ⟨n, hb⟩ := exists_blanks_skipBlanks cs
  simp only [primary, skipBlanks_skipBlanks] at h
  split at h
  · next l mid hl =>
    cases h
    obtain ⟨k, hlit⟩ := literal?_sound hl
    exact ⟨_, mid, .literal hb hlit, rfl, Nat.zero_le _⟩
  · split at h
    · next inside hopen =>
      split at h
      · next e' mid hin =>
        split at h
        · next rest' hclose =>
          cases h
          obtain ⟨x, mid', hd, rfl, hx⟩ := hi _ _ _ hin
          rw [skipBlanks_skipBlanks] at hclose
          obtain ⟨m, hm⟩ := exists_blanks_skipBlanks mid'
          exact ⟨_, rest', .parens (hopen ▸ hb) hd (hclose ▸ hm), rfl, hx⟩
        · cases h
      · cases h
    · cases h

theorem sound_unary {inner : Reader} (hi : Sound .primary (primary inner)) : Sound (.levels []) (unary inner) := by
  intro cs e rest h
  obtain ⟨n, mid, hp, hmid⟩ := prefixOps_sound cs
  simp only [unary, prefixOps_skipBlanks, hmid] at h
  split at h
  · cases h
  · next hlimit =>
    split at h
    · next operand rest' hop =>
      cases h
      obtain ⟨x, mid', hd, hrest, hx⟩ := hi _ _ _ hop
      exact ⟨_, mid', .chain hp hd, hrest, Nat.max_le.mpr ⟨Nat.not_lt.mp hlimit, hx⟩⟩
    · cases h

theorem chainFrom_sound {operand : Reader} {ops : List BinaryOp} {ls : List (List BinaryOp)}
    (ho : Sound (.levels ls) operand) {start : List Char} {fuel : Nat} {left e : Expr} {cs rest : List Char}
    (hleft : ReadsAs (.levels (ops :: ls)) start left cs) (h : chainFrom operand ops fuel left cs = .ok (e, rest)) :
    ReadsAs (.levels (ops :: ls)) start e rest := by
  induction fuel generalizing left cs with
  | zero =>
    cases h
    exact hleft
  | succ fuel ih =>
    obtain ⟨x, mid, hd, rfl, hx⟩ := hleft
    rw [chainFrom, skipBlanks_skipBlanks] at h
    split at h
    · cases h
      exact ⟨x, mid, hd, rfl, hx⟩
    · next op after hop =>
      obtain ⟨hmem, htext⟩ := operator?_sound hop
      obtain ⟨n, hb⟩ := exists_blanks_skipBlanks mid
      split at h
      · next right rest' hr =>
        obtain ⟨y, mid', hd', hrest, hy⟩ := ho _ _ _ hr
        exact ih ⟨_, mid', .binary hd hmem (htext ▸ hb) hd', hrest, Nat.max_le.mpr ⟨hx, hy⟩⟩ h
      · cases h
        exact ⟨x, mid, hd, rfl, hx⟩
      · cases h

theorem sound_chain {operand : Reader} {ops : List BinaryOp} {ls : List (List BinaryOp)}
    (ho : Sound (.levels ls) operand) : Sound (.levels (ops :: ls)) (chain ops operand) := by
  intro cs e rest h
  rw [chain] at h
  split at h
  · next first mid hfirst =>
    obtain ⟨x, mid', hd, hmid, hx⟩ := ho _ _ _ hfirst
    exact chainFrom_sound ho ⟨x, mid', .operand hd, hmid, hx⟩ h
  · cases h

theorem sound_readerOf {inner : Reader} (hi : Sound (.levels precedence) inner) (part : Part) :
    Sound part (readerOf inner part) := by
  cases part with
  | primary => exact sound_primary hi
  | levels ls =>
    induction ls with
    | nil => exact sound_unary (sound_primary hi)
    | cons ops ls ih => exact sound_chain ih

/-- What is read as an expression is one. -/
theorem sound_expression (depth : Nat) : Sound (.levels precedence) (expression depth) := by
  induction depth with
  | zero => exact fun _ _ _ h => by cases h
  | succ depth ih =>
    intro cs e rest h
    rw [expression_succ, skipBlanks_skipBlanks] at h
    exact sound_readerOf ih _ _ _ _ h

/-! ### What a phrase leaves -/

theorem Blanks.suffix {n : Nat} {cs rest : List Char} (h : Blanks n cs rest) : rest <:+ cs := by
  induction h with
  | none => exact List.suffix_refl _
  | more _ _ ih => exact ih.trans (List.suffix_cons ..)

theorem Prefixes.suffix {ops : List PrefixOp} {n : Nat} {cs rest : List Char} (h : Prefixes ops n cs rest) :
    rest <:+ cs := by
  induction h with
  | nil => exact List.suffix_refl _
  | cons hb _ ih => exact ih.trans ((List.suffix_cons ..).trans hb.suffix)

theorem LiteralAt.suffix {cs rest : List Char} {l : Literal} {n : Nat} (h : LiteralAt cs l n rest) :
    rest <:+ cs := by
  cases h with
  | number _ _ => exact List.suffix_append ..
  | string _ _ => exact (List.suffix_cons ..).trans ((List.suffix_append ..).trans (List.suffix_cons ..))
  | word _ _ => exact List.suffix_append ..

theorem Derives.suffix {part : Part} {cs rest : List Char} {e : Expr} {x : Extent} (h : Derives part cs e x rest) :
    rest <:+ cs := by
  induction h with
  | literal hb hl => exact hl.suffix.trans hb.suffix
  | parens hopen _ hclose ih =>
    have hmid := (List.suffix_cons ..).trans hclose.suffix
    exact hmid.trans (ih.trans ((List.suffix_cons ..).trans hopen.suffix))
  | chain hp _ ih => exact ih.trans hp.suffix
  | operand _ ih => exact ih
  | binary _ _ hb _ ih ihr => exact ihr.trans ((List.suffix_append ..).trans (hb.suffix.trans ih))

theorem ReadsAs.length_le {part : Part} {cs rest : List Char} {e : Expr} (h : ReadsAs part cs e rest) :
    rest.length ≤ cs.length := by
  obtain ⟨x, mid, hd, rfl, -⟩ := h
  exact Nat.le_trans (length_skipBlanks_le mid) hd.suffix.length_le

/-! ### Chains without fuel -/

section Fuel
variable {operand : Reader} {ops : List BinaryOp} {ls : List (List BinaryOp)} (ho : Sound (.levels ls) operand)
include ho

/-- An operator and its operand take something of the text. -/
theorem length_lt_of_operator {right : Expr} {op : BinaryOp} {cs after rest : List Char}
    (hop : operator? ops (skipBlanks cs) = some (op, after)) (hr : operand (skipBlanks after) = .ok (right, rest)) :
    rest.length < cs.length := by
  have hrest := (ho _ _ _ hr).length_le
  have htext := congrArg List.length (operator?_sound hop).2
  have hsign := List.length_pos_iff.mpr (binarySign_ne_nil op)
  have hskip := length_skipBlanks_le cs
  rw [List.length_append] at htext
  omega

/-- Two amounts of fuel that are enough for the text give the same. -/
theorem chainFrom_fuel {n m : Nat} {left : Expr} {cs : List Char} (hn : cs.length ≤ n) (hm : cs.length ≤ m) :
    chainFrom operand ops n left cs = chainFrom operand ops m left cs := by
  have hnil : ∀ k left, chainFrom operand ops k left [] = .ok (left, []) := fun k left => by
    have hop : operator? ops [] = none := operator?_eq_none fun op _ h => by
      obtain ⟨c, t, hc⟩ := List.exists_cons_of_ne_nil (binarySign_ne_nil op)
      rw [hc] at h
      cases h
    cases k with
    | zero => rfl
    | succ k => simp [chainFrom, skipBlanks, hop]
  induction n generalizing m left cs with
  | zero =>
    obtain rfl := List.length_eq_zero_iff.mp (Nat.le_zero.mp hn)
    rw [hnil, hnil]
  | succ n ih =>
    cases m with
    | zero =>
      obtain rfl := List.length_eq_zero_iff.mp (Nat.le_zero.mp hm)
      rw [hnil, hnil]
    | succ m =>
      rw [chainFrom, chainFrom]
      cases hop : operator? ops (skipBlanks cs) with
      | none => rfl
      | some r =>
        obtain ⟨op, after⟩ := r
        cases hr : operand (skipBlanks after) with
        | error stop => cases stop <;> simp only [hr]
        | ok r =>
          obtain ⟨right, rest⟩ := r
          have hlt := length_lt_of_operator ho hop hr
          simp only [hr]
          exact ih (by omega) (by omega)

/-- A chain goes on with an operator of its level and an operand. -/
theorem chainFrom_operator {fuel : Nat} {left right : Expr} {op : BinaryOp} {cs after rest : List Char}
    (hn : cs.length ≤ fuel) (hop : operator? ops (skipBlanks cs) = some (op, after))
    (hr : operand (skipBlanks after) = .ok (right, rest)) :
    chainFrom operand ops fuel left cs = chainFrom operand ops rest.length (.binary left op right) rest := by
  have hlt := length_lt_of_operator ho hop hr
  cases fuel with
  | zero => omega
  | succ fuel =>
    rw [chainFrom, hop]
    simp only [hr]
    exact chainFrom_fuel ho (by omega) (Nat.le_refl _)

end Fuel

/-- A chain ends where no operator of its level follows. -/
theorem chainFrom_of_none {operand : Reader} {ops : List BinaryOp} {fuel : Nat} {left : Expr} {cs : List Char}
    (h : operator? ops (skipBlanks cs) = none) : chainFrom operand ops fuel left cs = .ok (left, cs) := by
  cases fuel with
  | zero => rfl
  | succ fuel => rw [chainFrom, h]

/-! ### Completeness -/

/-- No operator of the levels follows. -/
def Stops (ls : List (List BinaryOp)) (cs : List Char) : Prop :=
  ∀ ops ∈ ls, ∀ op ∈ ops, (binarySign op).head? ≠ (skipBlanks cs).head?

/-- Operators of different levels begin with different characters. -/
theorem levels_pairwise : precedence.Pairwise fun ops ops' =>
    ∀ op ∈ ops, ∀ op' ∈ ops', (binarySign op').head? ≠ (binarySign op).head? := by decide

theorem not_isDigit_of_mem_blanks : ∀ c ∈ blanks, c.isDigit = false ∧ c ≠ '.' ∧ c ≠ 'e' ∧ c ≠ 'E' := by
  simp [blanks, Char.isDigit]

/-- What begins with blanks is delimited if the text after them is. -/
theorem Blanks.delimited {n : Nat} {cs rest : List Char} (h : Blanks n cs rest) (hr : Delimited rest) :
    Delimited cs := by
  cases h with
  | none => exact hr
  | more hc _ => exact fun c' hc' => Option.some.inj hc' ▸ not_isDigit_of_mem_blanks _ hc

theorem delimited_binarySign (op : BinaryOp) (cs : List Char) : Delimited (binarySign op ++ cs) := fun c hc => by
  cases op <;> cases hc <;> decide

theorem delimited_paren (cs : List Char) : Delimited (')' :: cs) := fun c hc => by
  cases hc
  decide

theorem stops_paren {n : Nat} {cs rest : List Char} (h : Blanks n cs (')' :: rest)) (ls : List (List BinaryOp)) :
    Stops ls cs := fun _ _ op _ hop => by
  rw [h.skip_cons (by decide)] at hop
  cases op <;> cases hop

theorem stops_nil {n : Nat} {cs : List Char} (h : Blanks n cs []) (ls : List (List BinaryOp)) : Stops ls cs :=
  fun _ _ op _ hop => by
    rw [h.skip] at hop
    cases op <;> cases hop

theorem skipBlanks_binarySign (op : BinaryOp) (cs : List Char) : skipBlanks (binarySign op ++ cs) = binarySign op ++ cs := by
  cases op <;> rfl

/-- An operator of a level leaves tighter levels no operator to read. -/
theorem stops_of_operator {n : Nat} {cs after : List Char} {op : BinaryOp} {ops : List BinaryOp}
    {ls : List (List BinaryOp)} (hl : (ops :: ls) <:+ precedence) (hop : op ∈ ops)
    (h : Blanks n cs (binarySign op ++ after)) : Stops ls cs := by
  intro ops' hops' op' hop'
  have hne := (List.pairwise_cons.mp (levels_pairwise.sublist hl.sublist)).1 ops' hops' op hop op' hop'
  obtain ⟨c, t, hc⟩ := List.exists_cons_of_ne_nil (binarySign_ne_nil op)
  rw [h.skip, skipBlanks_binarySign, hc]
  rwa [hc] at hne

/-- A phrase does not begin with `=`, so that no operator goes on into it. -/
theorem Derives.head_ne {part : Part} {cs rest : List Char} {e : Expr} {x : Extent} (h : Derives part cs e x rest) :
    cs.head? ≠ some '=' := by
  have blanks : ∀ {n cs c t}, Blanks n cs (c :: t) → c ≠ '=' → cs.head? ≠ some '=' := by
    intro n cs c t hb hc h
    cases hb with
    | none => exact hc (Option.some.inj h)
    | more hc' _ =>
      rw [Option.some.inj h] at hc'
      exact absurd hc' (by decide)
  induction h with
  | literal hb hl =>
    obtain ⟨c, t, rfl, hc⟩ := hl.begins
    exact blanks hb hc.notEqual
  | parens hopen _ _ _ => exact blanks hopen (by decide)
  | chain hp _ ih =>
    cases hp with
    | nil => exact ih
    | @cons op ops n m cs mid rest hb _ => exact blanks hb (by cases op <;> decide)
  | operand _ ih => exact ih
  | binary _ _ _ _ ih _ => exact ih

/-- A literal or a parenthesis begins with a character that no operator before it takes. -/
theorem Derives.begins {cs rest : List Char} {e : Expr} {x : Extent} (h : Derives .primary cs e x rest) :
    ∃ c t, skipBlanks cs = c :: t ∧ BeginsOperand c := by
  cases h with
  | literal hb hl =>
    obtain ⟨c, t, rfl, hc⟩ := hl.begins
    exact ⟨c, t, hb.skip_cons hc.notBlank, hc⟩
  | parens hopen _ _ => exact ⟨'(', _, hopen.skip_cons (by decide), by decide, by decide, by decide⟩

theorem primary_literal {inner : Reader} {cs rest : List Char} {l : Literal}
    (h : literal? (skipBlanks cs) = some (l, rest)) : primary inner cs = .ok (.literal l, skipBlanks rest) := by
  simp only [primary, h]

theorem primary_parens {inner : Reader} {cs inside mid rest : List Char} {e : Expr}
    (hopen : skipBlanks cs = '(' :: inside) (h : inner (skipBlanks inside) = .ok (e, mid))
    (hclose : skipBlanks mid = ')' :: rest) : primary inner cs = .ok (e, skipBlanks rest) := by
  simp only [primary, hopen, literal?_paren, h, hclose]

/-- The reader of the part comes from `cs` to `rest`. At a level it has then read a first part of a chain,
    which goes on if an operator of the level follows. -/
def Comes (depth : Nat) : Part → List Char → Expr → List Char → Prop
  | .primary, cs, e, rest => primary (expression depth) (skipBlanks cs) = .ok (e, skipBlanks rest)
  | .levels [], cs, e, rest => unary (expression depth) (skipBlanks cs) = .ok (e, skipBlanks rest)
  | .levels (ops :: ls), cs, e, rest => (ops :: ls) <:+ precedence → Stops ls rest →
      chain ops (readerOf (expression depth) (.levels ls)) (skipBlanks cs) =
        chainFrom (readerOf (expression depth) (.levels ls)) ops (skipBlanks rest).length e (skipBlanks rest)

theorem Comes.read {depth : Nat} {ls : List (List BinaryOp)} {cs rest : List Char} {e : Expr}
    (h : Comes depth (.levels ls) cs e rest) (hl : ls <:+ precedence) (hs : Stops ls rest) :
    readerOf (expression depth) (.levels ls) (skipBlanks cs) = .ok (e, skipBlanks rest) := by
  cases ls with
  | nil => exact h
  | cons ops ls =>
    have hchain := h hl fun ops' hops' => hs ops' (List.mem_cons_of_mem _ hops')
    have hnone : operator? ops (skipBlanks (skipBlanks rest)) = none := by
      rw [skipBlanks_skipBlanks]
      exact operator?_eq_none (hs ops List.mem_cons_self)
    exact hchain.trans (chainFrom_of_none hnone)

/-- A phrase within the limits is read, whatever cannot continue it follows. -/
theorem Derives.comes {part : Part} {cs rest : List Char} {e : Expr} {x : Extent} (h : Derives part cs e x rest)
    (hx : x.chain ≤ maxDepth) {depth : Nat} (hd : x.depth ≤ depth) (hr : Delimited rest) :
    Comes depth part cs e rest := by
  induction h generalizing depth with
  | @literal n k cs mid l rest hb hl =>
    have hskip : skipBlanks cs = mid := by
      obtain ⟨c, t, rfl, hc⟩ := hl.begins
      exact hb.skip_cons hc.notBlank
    have hlit := literal?_of_literalAt hl hr
    rw [← hskip, ← skipBlanks_skipBlanks] at hlit
    exact primary_literal hlit
  | @parens n m cs inside e x mid rest hopen hin hclose ih =>
    cases depth with
    | zero => exact absurd hd (Nat.not_succ_le_zero _)
    | succ depth =>
      have hskip : skipBlanks (skipBlanks cs) = '(' :: inside := by
        rw [skipBlanks_skipBlanks]
        exact hopen.skip_cons (by decide)
      have hread := (ih hx (Nat.le_of_succ_le_succ hd) (hclose.delimited (delimited_paren rest))).read
        (List.suffix_refl _) (stops_paren hclose _)
      have hmid : skipBlanks (skipBlanks mid) = ')' :: rest := by
        rw [skipBlanks_skipBlanks]
        exact hclose.skip_cons (by decide)
      refine primary_parens hskip ?_ hmid
      rw [expression_succ, skipBlanks_skipBlanks]
      exact hread
  | @chain ops n cs mid e x rest hp hop ih =>
    obtain ⟨c, t, hmid, hc⟩ := hop.begins
    have hops := prefixOps_append hp hmid hc
    have hread := ih (Nat.le_trans (Nat.le_max_right ..) hx) hd hr
    have hlen : ¬ maxDepth < ops.length := Nat.not_lt.mpr (Nat.le_trans (Nat.le_max_left ..) hx)
    simp only [Comes] at hread ⊢
    rw [hmid] at hread
    simp only [unary, prefixOps_skipBlanks, hops, hlen, ↓reduceIte, hread]
  | @operand ops ls cs e x rest h ih =>
    intro hl hs
    have hread := (ih hx hd hr).read ((List.suffix_cons ..).trans hl) hs
    simp only [Grammar.chain, hread]
  | @binary ops ls op n cs left x mid after right y rest h hop hb h' ih ih' =>
    intro hl hs
    have hls : ls <:+ precedence := (List.suffix_cons ..).trans hl
    have hsound := sound_readerOf (sound_expression depth) (.levels ls)
    obtain ⟨hxl, hxr⟩ := Nat.max_le.mp hx
    obtain ⟨hdl, hdr⟩ := Nat.max_le.mp hd
    -- The operand on the left is read by the same level, which leaves the operator to the chain that it began.
    have hleft := ih hxl hdl (hb.delimited (delimited_binarySign op after)) hl (stops_of_operator hl hop hb)
    have hright := (ih' hxr hdr hr).read hls hs
    have hmid : operator? ops (skipBlanks (skipBlanks mid)) = some (op, after) := by
      rw [skipBlanks_skipBlanks, hb.skip, skipBlanks_binarySign]
      exact operator?_binarySign (hl.subset List.mem_cons_self) hop h'.head_ne
    exact hleft.trans (chainFrom_operator hsound (Nat.le_refl _) hmid hright)

/-! ### Parsing -/

theorem blanks_of_skipBlanks_eq_nil {cs : List Char} (h : skipBlanks cs = []) : ∃ n, Blanks n cs [] :=
  h ▸ exists_blanks_skipBlanks cs

theorem parseChars_eq_ok_iff {cs : List Char} {e : Expr} : Expr.parseChars cs = .ok e ↔
    Expr.checkLimits cs = .ok () ∧ expression (maxDepth + 1) cs = .ok (e, []) := by
  unfold Expr.parseChars
  split
  · next err herr => simp [herr]
  · next hok =>
    rw [hok]
    split <;> simp_all

/-- A sentence within the limits is read to its end. -/
theorem Sentence.expression {cs : List Char} {e : Expr} {x : Extent} (h : Sentence cs e x) (hx : x.WithinLimits) :
    expression (maxDepth + 1) cs = .ok (e, []) := by
  obtain ⟨n, y, rest, h, hb, rfl⟩ := h
  obtain ⟨hdepth, hchain, -⟩ := hx
  have hcomes : Comes maxDepth (.levels precedence) cs e rest := h.comes hchain hdepth (hb.delimited delimited_nil)
  rw [expression_succ, hcomes.read (List.suffix_refl _) (stops_nil hb _), hb.skip]
  rfl

/-- A text that is read to its end is a sentence, whose chains keep the limit. -/
theorem sentence_of_expression {cs : List Char} {e : Expr} {depth : Nat} (h : Grammar.expression depth cs = .ok (e, [])) :
    ∃ x, Sentence cs e x ∧ x.chain ≤ maxDepth := by
  cases depth with
  | zero => cases h
  | succ depth =>
    rw [expression_succ] at h
    obtain ⟨x, mid, hd, hmid, hx⟩ := sound_readerOf (sound_expression depth) _ _ _ _ h
    obtain ⟨n, hb⟩ := blanks_of_skipBlanks_eq_nil hmid
    exact ⟨_, ⟨n, x, mid, hd, hb, rfl⟩, hx⟩

/-- Parsing gives a tree if and only if the text is a sentence with this tree that keeps the limits. -/
theorem parse_eq_ok_iff (source : String) (e : Expr) :
    Expr.parse source = .ok e ↔ ∃ x, Sentence source.toList e x ∧ x.WithinLimits := by
  rw [Expr.parse, parseChars_eq_ok_iff]
  constructor
  · rintro ⟨hlimits, hread⟩
    obtain ⟨x, hs, hchain⟩ := sentence_of_expression hread
    obtain ⟨hdepth, hlength⟩ := hs.checkLimits_iff.mp hlimits
    exact ⟨x, hs, hdepth, hchain, hlength⟩
  · rintro ⟨x, hs, hx⟩
    exact ⟨hs.checkLimits_iff.mpr ⟨hx.1, hx.2.2⟩, hs.expression hx⟩

end FlowTree.Grammar
