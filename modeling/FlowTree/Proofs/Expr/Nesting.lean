import FlowTree.Proofs.Expr.Reading

/-! # Nested parentheses

Where the grammar calls itself, on texts that it accepts and on texts that it refuses. A reader goes into
a parenthesis only from a place to which it has read, so the scan of the limits is outside of string
literals there (`Admits`) and has counted at least the parentheses that the grammar has open. What the
scan lets pass therefore never exhausts the recursion. -/

namespace FlowTree.Grammar
open FlowTree.Expr (maxDepth maxLength)
open FlowTree.Expr.Scan

/-! ### Calls of the grammar to itself -/

/-- `rest` is left of `start` after operands of one level, joined by its operators. -/
inductive Chained (operand : Reader) (ops : List BinaryOp) (start : List Char) : List Char → Prop
  | first {e rest} (h : operand start = .ok (e, rest)) : Chained operand ops start rest
  | more {mid op after e rest} (h : Chained operand ops start mid)
      (hop : operator? ops (skipBlanks mid) = some (op, after)) (hr : operand (skipBlanks after) = .ok (e, rest)) :
      Chained operand ops start rest

/-- Reading `cs` at the levels `ls` calls `inner`, which reads what a parenthesis holds, on `inside`. -/
inductive Opens (inner : Reader) : List (List BinaryOp) → List Char → List Char → Prop
  | paren {cs inside} (hops : (prefixOps cs).1.length ≤ maxDepth)
      (hopen : skipBlanks (prefixOps cs).2 = '(' :: inside) : Opens inner [] cs (skipBlanks inside)
  | first {ops ls cs inside} (h : Opens inner ls cs inside) : Opens inner (ops :: ls) cs inside
  | next {ops ls cs mid op after inside} (hc : Chained (readerOf inner (.levels ls)) ops cs mid)
      (hop : operator? ops (skipBlanks mid) = some (op, after)) (h : Opens inner ls (skipBlanks after) inside) :
      Opens inner (ops :: ls) cs inside

/-- Reading `cs` as an expression, with parentheses at most `fuel` deep, the grammar comes to read an
    expression at `inside` when `opened` parentheses are open. -/
inductive Enters : (fuel : Nat) → List Char → (opened : Nat) → List Char → Prop
  | here {fuel cs} : Enters fuel cs 0 cs
  | paren {fuel cs mid opened inside} (h : Opens (expression fuel) precedence (skipBlanks cs) mid)
      (hin : Enters fuel mid opened inside) : Enters (fuel + 1) cs (opened + 1) inside

theorem unary_congr {inner inner' : Reader} {cs : List Char}
    (h : ∀ inside, Opens inner [] cs inside → inner inside = inner' inside) : unary inner cs = unary inner' cs := by
  unfold unary
  dsimp only
  split
  · rfl
  · next hops =>
    have hprimary : primary inner (prefixOps cs).2 = primary inner' (prefixOps cs).2 := by
      unfold primary
      dsimp only
      split
      · rfl
      · split
        · next inside hopen => rw [h _ (.paren (Nat.not_lt.mp hops) hopen)]
        · rfl
    rw [hprimary]

theorem chainFrom_congr {operand operand' : Reader} {ops : List BinaryOp} {start cs : List Char} {fuel : Nat}
    {left : Expr} (hc : Chained operand ops start cs)
    (h : ∀ mid op after, Chained operand ops start mid → operator? ops (skipBlanks mid) = some (op, after) →
      operand (skipBlanks after) = operand' (skipBlanks after)) :
    chainFrom operand ops fuel left cs = chainFrom operand' ops fuel left cs := by
  induction fuel generalizing left cs with
  | zero => rfl
  | succ fuel ih =>
    rw [chainFrom, chainFrom]
    cases hop : operator? ops (skipBlanks cs) with
    | none => rfl
    | some r =>
      obtain ⟨op, after⟩ := r
      dsimp only
      rw [← h cs op after hc hop]
      cases hr : operand (skipBlanks after) with
      | error stop => cases stop <;> rfl
      | ok r => exact ih (hc.more hop hr)

/-- A reader depends on the reader of parentheses only where it calls it. -/
theorem readerOf_congr {inner inner' : Reader} {ls : List (List BinaryOp)} {cs : List Char}
    (h : ∀ inside, Opens inner ls cs inside → inner inside = inner' inside) :
    readerOf inner (.levels ls) cs = readerOf inner' (.levels ls) cs := by
  induction ls generalizing cs with
  | nil => exact unary_congr h
  | cons ops ls ih =>
    have hfirst : readerOf inner (.levels ls) cs = readerOf inner' (.levels ls) cs :=
      ih fun inside ho => h inside (.first ho)
    change chain ops (readerOf inner (.levels ls)) cs = chain ops (readerOf inner' (.levels ls)) cs
    rw [chain, chain, ← hfirst]
    cases hr : readerOf inner (.levels ls) cs with
    | error stop => rfl
    | ok r =>
      refine chainFrom_congr (.first hr) fun mid op after hc hop => ?_
      exact ih fun inside ho => h inside (.next hc hop ho)

/-! ### What the scan has seen there -/

/-- With `depth` parentheses open and outside of string literals, the scan lets the text pass. -/
def Admits (depth : Nat) (cs : List Char) : Prop :=
  depth ≤ maxDepth ∧ ∃ length ≤ maxLength, (outside depth length).Passes cs

theorem Costs.admits {depth k n : Nat} {cs rest : List Char} (h : Costs k n cs rest) (ha : Admits depth cs) :
    Admits depth rest := by
  obtain ⟨hd, l, hl, hp⟩ := ha
  obtain ⟨-, hn, hrest⟩ := (h depth l hd hl).mp hp
  exact ⟨hd, l + n, hn, hrest⟩

theorem Admits.skipBlanks {depth : Nat} {cs : List Char} (h : Admits depth cs) : Admits depth (skipBlanks cs) := by
  obtain ⟨n, hb⟩ := exists_blanks_skipBlanks cs
  exact hb.costs.admits h

theorem Admits.paren {depth : Nat} {cs : List Char} (h : Admits depth ('(' :: cs)) : Admits (depth + 1) cs := by
  obtain ⟨-, l, -, hp⟩ := h
  obtain ⟨hlimits, hcs⟩ := hp
  obtain ⟨hd, hl⟩ := exceeded?_eq_none_iff.mp hlimits
  exact ⟨hd, l + 1, hl, hcs⟩

theorem Admits.operator {depth : Nat} {ops : List BinaryOp} {op : BinaryOp} {cs after : List Char}
    (h : Admits depth cs) (hop : operator? ops (Grammar.skipBlanks cs) = some (op, after)) :
    Admits depth (Grammar.skipBlanks after) := by
  have hsign := (operator?_sound hop).2 ▸ h.skipBlanks
  exact ((costs_plain (isPlain_binarySign op) after).admits hsign).skipBlanks

theorem Admits.read {depth : Nat} {part : Part} {cs rest : List Char} {e : Expr} (h : Admits depth cs)
    (hr : ReadsAs part cs e rest) : Admits depth rest := by
  obtain ⟨x, mid, hd, rfl, -⟩ := hr
  exact (hd.costs.admits h).skipBlanks

theorem Admits.chained {operand : Reader} {ls : List (List BinaryOp)} {ops : List BinaryOp} {depth : Nat}
    {start rest : List Char} (ho : Sound (.levels ls) operand) (hc : Chained operand ops start rest)
    (hstart : Grammar.skipBlanks start = start) (h : Admits depth start) : Admits depth rest := by
  induction hc with
  | first hr => exact h.read (ho _ _ _ (hstart.symm ▸ hr))
  | more _ hop hr ih =>
    have hafter := ih.operator hop
    exact hafter.read (ho _ _ _ ((skipBlanks_skipBlanks _).symm ▸ hr))

theorem Opens.admits {inner : Reader} (hi : Sound (.levels precedence) inner) {ls : List (List BinaryOp)}
    {depth : Nat} {cs inside : List Char} (h : Opens inner ls cs inside) (hcs : skipBlanks cs = cs)
    (ha : Admits depth cs) : Admits (depth + 1) inside := by
  induction h with
  | @paren cs inside hops hopen =>
    obtain ⟨n, mid, hp, hmid⟩ := prefixOps_sound cs
    have hparen := (hp.costs.admits ha).skipBlanks
    rw [← skipBlanks_skipBlanks, ← hmid, hopen] at hparen
    exact hparen.paren.skipBlanks
  | first _ ih => exact ih hcs ha
  | next hc hop _ ih =>
    -- Where the next operand begins the grammar has already read, and the scan is outside of texts there.
    exact ih (skipBlanks_skipBlanks _) ((ha.chained (sound_readerOf hi _) hc hcs).operator hop)

/-- Every parenthesis that the grammar has open is one that the scan has open. -/
theorem Enters.admits {fuel depth opened : Nat} {cs inside : List Char} (h : Enters fuel cs opened inside)
    (ha : Admits depth cs) : Admits (depth + opened) inside := by
  induction h generalizing depth with
  | here => exact ha
  | paren ho _ ih =>
    have hmid := ho.admits (sound_expression _) (skipBlanks_skipBlanks _) ha.skipBlanks
    rw [Nat.add_comm _ 1, ← Nat.add_assoc]
    exact ih hmid

/-! ### Recursion that is never exhausted -/

theorem expression_add_one {fuel depth : Nat} {cs : List Char} (ha : Admits depth cs)
    (hfuel : maxDepth + 1 ≤ depth + fuel) : expression fuel cs = expression (fuel + 1) cs := by
  induction fuel generalizing depth cs with
  | zero =>
    -- No recursion is left only if more parentheses are open than the scan lets pass.
    have hdepth := ha.1
    omega
  | succ fuel ih =>
    rw [expression_succ, expression_succ]
    refine readerOf_congr fun inside ho => ?_
    exact ih (ho.admits (sound_expression fuel) (skipBlanks_skipBlanks cs) ha.skipBlanks) (by omega)

/-- More recursion than one level for each parenthesis that may be open changes nothing. -/
theorem expression_of_admits {fuel : Nat} {cs : List Char} (ha : Admits 0 cs) (hfuel : maxDepth + 1 ≤ fuel) :
    expression fuel cs = expression (maxDepth + 1) cs := by
  induction hfuel with
  | refl => rfl
  | @step fuel hle ih =>
    have hle : maxDepth + 1 ≤ 0 + fuel := by rwa [Nat.zero_add]
    exact (expression_add_one ha hle).symm.trans ih

theorem admits_of_checkLimits {cs : List Char} (h : Expr.checkLimits cs = .ok ()) : Admits 0 cs :=
  ⟨Nat.zero_le _, 0, Nat.zero_le _, check_eq_ok_iff.mp h⟩

/-! ### Chains of prefix operators -/

theorem length_prefixOps_le {inner : Reader} {cs rest : List Char} {e : Expr} (h : unary inner cs = .ok (e, rest)) :
    (prefixOps cs).1.length ≤ maxDepth := by
  simp only [unary] at h
  split at h
  · cases h
  · next hops => exact Nat.not_lt.mp hops

end FlowTree.Grammar
