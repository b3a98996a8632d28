import FlowTree.Expr.Eval
import FlowTree.Proofs.Expr.Nesting

/-! # The size of what is read

Every node of a tree has a token of its own, and the scan of the limits counts a character of every token.
So a text that passes the scan has a small tree, whose evaluation calls itself no deeper than that. -/

namespace FlowTree

namespace Expr

/-! ### Trees -/

def size : Expr → Nat
  | literal _ => 1
  | unary _ operand => operand.size + 1
  | binary left _ right => left.size + right.size + 1

/-- The number of nodes on the longest way down. -/
def height : Expr → Nat
  | literal _ => 1
  | unary _ operand => operand.height + 1
  | binary left _ right => max left.height right.height + 1

theorem height_le_size (e : Expr) : e.height ≤ e.size := by
  induction e with
  | literal => exact Nat.le_refl _
  | unary op operand ih => exact Nat.succ_le_succ ih
  | binary left op right ihl ihr =>
    rw [height, size]
    omega

theorem size_foldr_unary (ops : List PrefixOp) (e : Expr) : (ops.foldr unary e).size = ops.length + e.size := by
  induction ops with
  | nil => simp
  | cons op ops ih =>
    rw [List.foldr_cons, size, ih, List.length_cons]
    omega

/-- Evaluation whose calls to itself are nested `fuel` deep, the call for the whole tree among them, and no
    deeper. It has no result if that is not enough. -/
def evalWithin : (fuel : Nat) → Expr → Option (Except EvalError Json)
  | 0, _ => none
  | _ + 1, literal l => some (.ok l.value)
  | fuel + 1, unary op operand =>
    match evalWithin fuel operand with
    | none => none
    | some (.ok value) => some (op.apply value)
    | some (.error e) => some (.error e)
  | fuel + 1, binary left op right =>
    match evalWithin fuel left with
    | none => none
    | some (.error e) => some (.error e)
    | some (.ok l) =>
      if op = .and ∧ l.isTruthy = false ∨ op = .or ∧ l.isTruthy = true then some (.ok l)
      else
        match evalWithin fuel right with
        | none => none
        | some (.error e) => some (.error e)
        | some (.ok r) => some (if op = .and ∨ op = .or then .ok r else op.apply l r)

theorem evalWithin_eq {fuel : Nat} {e : Expr} (h : e.height ≤ fuel) : evalWithin fuel e = some e.eval := by
  induction fuel generalizing e with
  | zero => cases e <;> cases h
  | succ fuel ih =>
    cases e with
    | literal l => rfl
    | unary op operand =>
      rw [evalWithin, ih (Nat.le_of_succ_le_succ h), eval]
      cases operand.eval <;> rfl
    | binary left op right =>
      obtain ⟨hl, hr⟩ := Nat.max_le.mp (Nat.le_of_succ_le_succ h)
      rw [evalWithin, ih hl, ih hr, eval]
      cases left.eval with
      | error e => rfl
      | ok l =>
        dsimp only
        split
        · rfl
        · cases right.eval <;> rfl

/-! ### Characters that the scan counts -/

namespace Scan

def steps (s : Scan) (cs : List Char) : Scan :=
  cs.foldl step s

/-- The scan after `k` more characters that count. -/
def shift (k : Nat) (s : Scan) : Scan :=
  { s with length := k + s.length }

theorem step_shift (k : Nat) (s : Scan) (c : Char) : (s.shift k).step c = (s.step c).shift k := by
  unfold step shift
  dsimp only
  split
  · split
    · rfl
    · split
      · rfl
      · split <;> rfl
  · split
    · rfl
    · split
      · rfl
      · split <;> rfl

theorem length_le_step (s : Scan) (c : Char) : s.length ≤ (s.step c).length := by
  unfold step
  split
  · split
    · exact Nat.le_refl _
    · split
      · exact Nat.le_refl _
      · split <;> exact Nat.le_refl _
  · dsimp only
    split
    · exact Nat.le_succ _
    · split
      · exact Nat.le_succ _
      · split <;> exact Nat.le_succ _

theorem length_le_steps (s : Scan) (cs : List Char) : s.length ≤ (s.steps cs).length := by
  induction cs generalizing s with
  | nil => exact Nat.le_refl _
  | cons c cs ih => exact Nat.le_trans (length_le_step s c) (ih (s.step c))

theorem Passes.length_steps_le {s : Scan} {cs : List Char} (h : s.Passes cs) (hs : s.length ≤ maxLength) :
    (s.steps cs).length ≤ maxLength := by
  induction cs generalizing s with
  | nil => exact hs
  | cons c cs ih => exact ih h.2 (exceeded?_eq_none_iff.mp h.1).2

/-- A text passes also after characters that count, as long as they all fit. -/
theorem Passes.shift {k : Nat} {s : Scan} {cs : List Char} (h : s.Passes cs)
    (hk : k + (s.steps cs).length ≤ maxLength) : (s.shift k).Passes cs := by
  induction cs generalizing s with
  | nil => trivial
  | cons c cs ih =>
    obtain ⟨hc, hcs⟩ := h
    have hlength : (s.step c).length ≤ ((s.step c).steps cs).length := length_le_steps _ _
    have hfits : k + ((s.step c).steps cs).length ≤ maxLength := hk
    rw [Passes, step_shift]
    refine ⟨exceeded?_eq_none_iff.mpr ⟨(exceeded?_eq_none_iff.mp hc).1, ?_⟩, ih hcs hfits⟩
    change k + (s.step c).length ≤ maxLength
    omega

end Scan

/-- How many characters of a text the limits count: those outside of string literals, and the quote that
    opens a literal. -/
def counted (cs : List Char) : Nat :=
  (({} : Scan).steps cs).length

theorem counted_le {cs : List Char} (h : checkLimits cs = .ok ()) : counted cs ≤ maxLength :=
  (Scan.check_eq_ok_iff.mp h).length_steps_le (Nat.zero_le _)

end Expr

namespace Grammar
open FlowTree.Expr (maxDepth maxLength)

/-! ### Tokens and nodes -/

theorem Prefixes.length_le {ops : List PrefixOp} {n : Nat} {cs rest : List Char} (h : Prefixes ops n cs rest) :
    ops.length ≤ n := by
  induction h with
  | nil => exact Nat.le_refl _
  | cons _ _ ih =>
    rw [List.length_cons]
    omega

theorem LiteralAt.length_pos {cs rest : List Char} {l : Literal} {n : Nat} (h : LiteralAt cs l n rest) : 0 < n := by
  cases h with
  | @number token f rest h hf =>
    obtain ⟨m, x, hm, -, rfl⟩ := h
    obtain ⟨c, t, rfl, -⟩ := hm.begins
    exact Nat.succ_pos _
  | string => exact Nat.one_pos
  | word hmem _ =>
    simp only [words, List.mem_cons, Prod.mk.injEq, List.not_mem_nil, or_false] at hmem
    rcases hmem with ⟨rfl, -⟩ | ⟨rfl, -⟩ | ⟨rfl, -⟩ | ⟨rfl, -⟩ <;> exact Nat.succ_pos _

/-- Every node takes a character that counts. -/
theorem Derives.size_le {part : Part} {cs rest : List Char} {e : Expr} {x : Extent} (h : Derives part cs e x rest) :
    e.size ≤ x.length := by
  -- Blanks only widen an extent; a literal, a prefix operator and a sign bring the characters for their node.
  induction h with
  | literal _ hl =>
    have hpos := hl.length_pos
    simp only [Expr.size]
    omega
  | parens _ _ _ ih =>
    simp only [Extent.widen, Extent.enclose]
    omega
  | chain hp _ ih =>
    have hops := hp.length_le
    rw [Expr.size_foldr_unary]
    simp only [Extent.widen, Extent.lead]
    omega
  | operand _ ih => exact ih
  | @binary ops ls op n cs left x mid after right y rest _ _ _ _ ihl ihr =>
    have hsign := List.length_pos_iff.mpr (binarySign_ne_nil op)
    simp only [Expr.size, Extent.join, Extent.widen]
    omega

theorem Sentence.size_le {cs : List Char} {e : Expr} {x : Extent} (h : Sentence cs e x) : e.size ≤ x.length := by
  obtain ⟨n, y, rest, hd, -, rfl⟩ := h
  exact Nat.le_trans hd.size_le (Nat.le_add_left ..)

theorem Sentence.length_le {cs : List Char} {e : Expr} {x : Extent} (h : Sentence cs e x)
    (hlimits : Expr.checkLimits cs = .ok ()) : x.length ≤ Expr.counted cs := by
  obtain ⟨n, y, rest, hd, hb, rfl⟩ := h
  have hfits := Expr.counted_le hlimits
  -- As many characters before the text as still fit leave it passing, and so does what its extent says.
  have hpasses := (Expr.Scan.check_eq_ok_iff.mp hlimits).shift
    (Nat.le_of_eq (Nat.sub_add_cancel hfits) : maxLength - Expr.counted cs + Expr.counted cs ≤ maxLength)
  have hcosts := ((hd.costs.trans hb.costs) 0 (maxLength - Expr.counted cs) (Nat.zero_le _) (Nat.sub_le ..)).mp hpasses
  obtain ⟨-, hlength, -⟩ := hcosts
  simp only [Extent.widen]
  omega

theorem size_le_counted {source : String} {e : Expr} (h : Expr.parse source = .ok e) :
    e.size ≤ Expr.counted source.toList := by
  obtain ⟨hlimits, hread⟩ := parseChars_eq_ok_iff.mp h
  obtain ⟨x, hs, -⟩ := sentence_of_expression hread
  exact Nat.le_trans hs.size_le (hs.length_le hlimits)

/-! ### Texts within the limits -/

/-- What the limits bound when a text is read and its tree evaluated. -/
structure Bounded (source : String) : Prop where
  /-- On the way to where the grammar reads an expression it has at most 64 parentheses open. -/
  opened : ∀ fuel opened inside, Enters fuel source.toList opened inside → opened ≤ 64
  /-- Recursion for 64 levels of parentheses gives what any more gives, also when the text is refused. -/
  recursion : ∀ fuel, 65 ≤ fuel → expression fuel source.toList = expression 65 source.toList
  /-- A reader that gives a tree has read at most 64 prefix operators before its operand. -/
  prefixes : ∀ inner cs e rest, unary inner cs = .ok (e, rest) → (prefixOps cs).1.length ≤ 64
  /-- No part of a tree has a longer chain in the text it is read from. -/
  chains : ∀ fuel part cs e rest, readerOf (expression fuel) part (skipBlanks cs) = .ok (e, rest) →
    ∃ x mid, Derives part cs e x mid ∧ skipBlanks mid = rest ∧ x.chain ≤ 64
  counted : Expr.counted source.toList ≤ 2048
  nodes : ∀ e, Expr.parse source = .ok e → e.size ≤ Expr.counted source.toList
  evaluation : ∀ e, Expr.parse source = .ok e → e.evalWithin 2048 = some e.eval

theorem bounded_of_checkLimits (source : String) (h : Expr.checkLimits source.toList = .ok ()) : Bounded source := by
  have hadmits := admits_of_checkLimits h
  constructor
  case opened =>
    intro fuel opened inside henters
    have hdepth := (henters.admits hadmits).1
    rwa [Nat.zero_add] at hdepth
  case recursion => exact fun fuel hfuel => expression_of_admits hadmits hfuel
  case prefixes => exact fun inner cs e rest hread => length_prefixOps_le hread
  case chains => exact fun fuel part cs e rest hread => sound_readerOf (sound_expression fuel) part cs e rest hread
  case counted => exact Expr.counted_le h
  case nodes => exact fun e he => size_le_counted he
  case evaluation =>
    intro e he
    refine Expr.evalWithin_eq ?_
    exact Nat.le_trans e.height_le_size (Nat.le_trans (size_le_counted he) (Expr.counted_le h))

theorem bounded_unclosed :
    Expr.checkLimits "!((')(' - (".toList = .ok () ∧ Bounded "!((')(' - (" :=
  ⟨rfl, bounded_of_checkLimits _ rfl⟩

end Grammar

end FlowTree
