import FlowTree.Proofs.Expr.Values
import FlowTree.Proofs.Number.Whole

/-! # Numbers beyond the range of doubles

A tree computes doubles: those of its literals, and those of its arithmetic operators. A finite double is kept as a
number, all others are lost: they become null, which stands for zero. In a tree that does not write null there is no
other null, neither as its value nor as an operand of anything in it. -/

namespace FlowTree

/-! ### Doubles as values -/

namespace Json

variable {f : Float} {q : ℚ}

theorem ofFloat_eq_null_iff : ofFloat f = .null ↔ floatValue? f = none := by
  rw [← value_ofFloat?, Option.map_eq_none_iff, ofFloat]
  cases Dyadic.ofFloat? f with
  | none => simp
  | some d =>
    simp only [reduceCtorEq, iff_false]
    split <;> exact Json.noConfusion

/-- A finite double is kept as a number with its value. -/
theorem exists_num_of_floatValue? (h : floatValue? f = some q) : ∃ n, ofFloat f = .num n ∧ n.value? = some q := by
  rw [← value_ofFloat?] at h
  obtain ⟨d, hd, rfl⟩ := Option.map_eq_some_iff.mp h
  rw [ofFloat, hd]
  simp only
  split
  next hwhole =>
    have hint : d.value = (d.toInt : ℚ) := Dyadic.value_eq_iff.mpr ⟨((Bool.and_eq_true _ _).mp hwhole).1, rfl⟩
    exact ⟨.int d.toInt, rfl, congrArg some hint.symm⟩
  next => exact ⟨.float f, rfl, by rw [Number.value?, ← value_ofFloat?, hd, Option.map_some]⟩

end Json

/-! ### Operators -/

namespace PrefixOp

/-- What an arithmetic prefix operator does to a number. -/
def function? : PrefixOp → Option (Float → Float)
  | not => none
  | neg => some (- ·)
  | plus => some id

variable {op : PrefixOp} {g : Float → Float} {value : Json} {n : Float}

theorem apply_of_function? (hg : op.function? = some g) (hn : value.toNumber? = some n) :
    op.apply value = .ok (.ofFloat (g n)) := by
  cases op with
  | not => cases hg
  | neg | plus =>
    obtain rfl := Option.some.inj hg
    simp only [apply, hn]

theorem exists_function_of_apply (h : op.apply value = .ok .null) :
    ∃ g n, op.function? = some g ∧ value.toNumber? = some n ∧ floatValue? (g n) = none := by
  cases op with
  | not => cases h
  | neg | plus =>
    simp only [apply] at h
    cases hn : value.toNumber? with
    | none => simp [hn] at h
    | some n =>
      rw [hn] at h
      exact ⟨_, n, rfl, rfl, Json.ofFloat_eq_null_iff.mp (Except.ok.inj h)⟩

end PrefixOp

namespace BinaryOp

open Json (operands divide)

/-- What an arithmetic operator does to two numbers. -/
def function? : BinaryOp → Option (Float → Float → Float)
  | add => some (· + ·)
  | sub => some (· - ·)
  | mul => some (· * ·)
  | div => some (· / ·)
  | rem => some floatRem
  | _ => none

/-- The operator computes a double from its operands: both stand for numbers, none is a text that would be joined, and
nothing is divided by zero. -/
inductive Computes (op : BinaryOp) (left right : Json) : Float → Prop
  | mk {g : Float → Float → Float} {a b : Float} (hg : op.function? = some g) (ha : left.toNumber? = some a)
      (hb : right.toNumber? = some b) (htext : op = add → left.isString = false ∧ right.isString = false)
      (hzero : op = div ∨ op = rem → (b == 0.0) = false) : Computes op left right (g a b)

/-- The left operand of a logical operator decides its value. -/
def Decides (op : BinaryOp) (left : Json) : Prop :=
  op = and ∧ left.isTruthy = false ∨ op = or ∧ left.isTruthy = true

variable {op : BinaryOp} {left right : Json} {symbol : String} {a b f : Float}

theorem operands_eq_ok_iff :
    operands left right symbol = .ok (a, b) ↔ left.toNumber? = some a ∧ right.toNumber? = some b := by
  unfold operands
  cases left.toNumber? <;> cases right.toNumber? <;> simp

theorem Computes.apply_eq (h : Computes op left right f) : op.apply left right = .ok (.ofFloat f) := by
  obtain ⟨hg, ha, hb, htext, hzero⟩ := h
  have hoperands : ∀ symbol, operands left right symbol = .ok (_, _) := fun _ => operands_eq_ok_iff.mpr ⟨ha, hb⟩
  cases op with
  | add =>
    obtain ⟨hl, hr⟩ := htext rfl
    obtain rfl := Option.some.inj hg
    simp [apply, Json.add, hl, hr, hoperands, Except.map]
  | sub | mul =>
    obtain rfl := Option.some.inj hg
    simp [apply, Json.sub, Json.mul, hoperands, Except.map]
  | div | rem =>
    obtain rfl := Option.some.inj hg
    simp [apply, divide, hoperands, hzero]
  | _ => cases hg

theorem Computes.not_logical (h : Computes op left right f) : op ≠ and ∧ op ≠ or := by
  obtain ⟨hg, -⟩ := h
  constructor <;> rintro rfl <;> cases hg

theorem exists_operands_of_map {g : Float → Float → Float}
    (h : ((operands left right symbol).map fun p => Json.ofFloat (g p.1 p.2)) = .ok .null) :
    ∃ a b, left.toNumber? = some a ∧ right.toNumber? = some b ∧ floatValue? (g a b) = none := by
  cases hoperands : operands left right symbol with
  | error e => simp [hoperands, Except.map] at h
  | ok p =>
    rw [hoperands] at h
    obtain ⟨ha, hb⟩ := operands_eq_ok_iff.mp hoperands
    exact ⟨p.1, p.2, ha, hb, Json.ofFloat_eq_null_iff.mp (Except.ok.inj h)⟩

theorem exists_operands_of_divide {g : Float → Float → Float} (h : divide symbol g left right = .ok .null) :
    ∃ a b, left.toNumber? = some a ∧ right.toNumber? = some b ∧ (b == 0.0) = false ∧ floatValue? (g a b) = none := by
  unfold divide at h
  cases hoperands : operands left right symbol with
  | error e => simp [hoperands] at h
  | ok p =>
    obtain ⟨ha, hb⟩ := operands_eq_ok_iff.mp hoperands
    simp only [hoperands] at h
    split at h
    next => cases h
    next hzero => exact ⟨p.1, p.2, ha, hb, Bool.not_eq_true _ ▸ hzero, Json.ofFloat_eq_null_iff.mp (Except.ok.inj h)⟩

/-- An operator that is not logical gives null only for a double that is lost. -/
theorem exists_computes_of_apply (h : op.apply left right = .ok .null) :
    ∃ f, Computes op left right f ∧ floatValue? f = none := by
  cases op with
  | add =>
    simp only [apply, Json.add] at h
    split at h
    next => cases h
    next htext =>
      rw [Bool.or_eq_true, not_or, Bool.not_eq_true, Bool.not_eq_true] at htext
      obtain ⟨a, b, ha, hb, hf⟩ := exists_operands_of_map h
      exact ⟨_, .mk rfl ha hb (fun _ => htext) (by simp), hf⟩
  | sub | mul =>
    obtain ⟨a, b, ha, hb, hf⟩ := exists_operands_of_map h
    exact ⟨_, .mk rfl ha hb (by simp) (by simp), hf⟩
  | div | rem =>
    obtain ⟨a, b, ha, hb, hzero, hf⟩ := exists_operands_of_divide h
    exact ⟨_, .mk rfl ha hb (by simp) (fun _ => hzero), hf⟩
  | equal | notEqual | strictEqual | strictNotEqual | less | lessOrEqual | greater | greaterOrEqual | and | or => cases h

end BinaryOp

/-! ### Trees -/

namespace Expr

/-- The tree computes a double at its root. -/
inductive Computes : Expr → Float → Prop
  | literal (f : Float) : Computes (literal (.number f)) f
  | unary {op : PrefixOp} {g : Float → Float} {operand : Expr} {value : Json} {n : Float} (hg : op.function? = some g)
      (hvalue : operand.eval = .ok value) (hn : value.toNumber? = some n) : Computes (unary op operand) (g n)
  | binary {left right : Expr} {op : BinaryOp} {l r : Json} {f : Float} (hl : left.eval = .ok l)
      (hr : right.eval = .ok r) (h : op.Computes l r f) : Computes (binary left op right) f

/-- A part of the tree that its evaluation comes to: the right operand of a logical operator only if the left one does
not decide. -/
inductive Reaches : Expr → Expr → Prop
  | root (e : Expr) : Reaches e e
  | operand {op : PrefixOp} {operand part : Expr} (h : Reaches operand part) : Reaches (unary op operand) part
  | left {left right part : Expr} {op : BinaryOp} (h : Reaches left part) : Reaches (binary left op right) part
  | right {left right part : Expr} {op : BinaryOp} {l : Json} (hl : left.eval = .ok l) (hopen : ¬op.Decides l)
      (h : Reaches right part) : Reaches (binary left op right) part

variable {e part inner left right operand : Expr} {op : BinaryOp} {f : Float} {value : Json}

theorem eval_unary_eq_ok_iff {op : PrefixOp} : (unary op operand).eval = .ok value ↔
    ∃ v, operand.eval = .ok v ∧ op.apply v = .ok value := by
  rw [eval]
  cases operand.eval <;> simp

theorem eval_binary_eq_ok_iff : (binary left op right).eval = .ok value ↔ ∃ l, left.eval = .ok l ∧
    (op.Decides l ∧ l = value ∨ ¬op.Decides l ∧ ∃ r, right.eval = .ok r ∧
      (if op = .and ∨ op = .or then r = value else op.apply l r = .ok value)) := by
  rw [eval]
  cases left.eval with
  | error e => simp
  | ok l =>
    by_cases hdecides : op.Decides l
    · simp [show op = .and ∧ l.isTruthy = false ∨ op = .or ∧ l.isTruthy = true from hdecides, hdecides]
    · have hopen : ¬(op = .and ∧ l.isTruthy = false ∨ op = .or ∧ l.isTruthy = true) := hdecides
      cases right.eval with
      | error e => simp [hopen, hdecides]
      | ok r =>
        simp only [hopen, if_false]
        by_cases hlogical : op = .and ∨ op = .or <;> simp [hlogical, hdecides]

theorem Computes.eval_eq (h : e.Computes f) : e.eval = .ok (.ofFloat f) := by
  cases h with
  | literal f => rfl
  | unary hg hvalue hn => exact eval_unary_eq_ok_iff.mpr ⟨_, hvalue, PrefixOp.apply_of_function? hg hn⟩
  | binary hl hr h =>
    obtain ⟨hand, hor⟩ := h.not_logical
    refine eval_binary_eq_ok_iff.mpr ⟨_, hl, Or.inr ⟨by simp [BinaryOp.Decides, hand, hor], _, hr, ?_⟩⟩
    rw [if_neg (not_or.mpr ⟨hand, hor⟩)]
    exact h.apply_eq

theorem Reaches.trans (h : e.Reaches part) (h' : part.Reaches inner) : e.Reaches inner := by
  induction h with
  | root => exact h'
  | operand _ ih => exact .operand (ih h')
  | left _ ih => exact .left (ih h')
  | right hl hopen _ ih => exact .right hl hopen (ih h')

theorem Reaches.literals_subset (h : e.Reaches part) : part.literals ⊆ e.literals := by
  induction h with
  | root => exact List.Subset.refl _
  | operand _ ih => exact ih
  | left _ ih => exact List.Subset.trans ih (List.subset_append_left _ _)
  | right _ _ _ ih => exact List.Subset.trans ih (List.subset_append_right _ _)

/-- A value of null goes back to a double that was lost. -/
theorem exists_lost_of_eval (hnull : .null ∉ e.literals) (h : e.eval = .ok .null) :
    ∃ part f, e.Reaches part ∧ part.Computes f ∧ floatValue? f = none := by
  induction e with
  | literal l =>
    have hvalue : l.value = .null := Except.ok.inj h
    cases l with
    | number f => exact ⟨_, f, .root _, .literal f, Json.ofFloat_eq_null_iff.mp hvalue⟩
    | string | bool => cases hvalue
    | null => exact absurd (List.mem_singleton_self _) hnull
  | unary op operand ih =>
    obtain ⟨v, hv, happly⟩ := eval_unary_eq_ok_iff.mp h
    obtain ⟨g, n, hg, hn, hlost⟩ := PrefixOp.exists_function_of_apply happly
    exact ⟨_, _, .root _, .unary hg hv hn, hlost⟩
  | binary left op right ihl ihr =>
    rw [literals, List.mem_append, not_or] at hnull
    obtain ⟨l, hl, ⟨hdecides, rfl⟩ | ⟨hopen, r, hr, hvalue⟩⟩ := eval_binary_eq_ok_iff.mp h
    · -- The left operand is the value.
      obtain ⟨part, f, hpart, hlost⟩ := ihl hnull.1 hl
      exact ⟨part, f, .left hpart, hlost⟩
    · split at hvalue
      next =>
        obtain ⟨part, f, hpart, hlost⟩ := ihr hnull.2 (hvalue ▸ hr)
        exact ⟨part, f, .right hl hopen hpart, hlost⟩
      next =>
        obtain ⟨f, hf, hlost⟩ := BinaryOp.exists_computes_of_apply hvalue
        exact ⟨_, f, .root _, .binary hl hr hf, hlost⟩

/-- What becomes of the doubles that the evaluation of a tree computes. -/
structure KeepsNumbers (e : Expr) : Prop where
  kept : ∀ part f q, e.Reaches part → part.Computes f → floatValue? f = some q →
    ∃ n : Number, part.eval = .ok (.num n) ∧ n.value? = some q
  lost : ∀ part f, e.Reaches part → part.Computes f → floatValue? f = none → part.eval = .ok .null
  /-- The value of the tree and the operands in it are null only where a double was lost. -/
  null_iff : (∃ part, e.Reaches part ∧ part.eval = .ok .null) ↔
    ∃ part f, e.Reaches part ∧ part.Computes f ∧ floatValue? f = none

theorem eval_keepsNumbers (hnull : .null ∉ e.literals) : KeepsNumbers e where
  kept part f q _ hf hq := by
    obtain ⟨n, hn, hvalue⟩ := Json.exists_num_of_floatValue? hq
    exact ⟨n, hn ▸ hf.eval_eq, hvalue⟩
  lost part f _ hf hlost := Json.ofFloat_eq_null_iff.mpr hlost ▸ hf.eval_eq
  null_iff := by
    constructor
    · rintro ⟨part, hpart, heval⟩
      obtain ⟨inner, f, hinner, hlost⟩ := exists_lost_of_eval (fun hmem => hnull (hpart.literals_subset hmem)) heval
      exact ⟨inner, f, hpart.trans hinner, hlost⟩
    · rintro ⟨part, f, hpart, hf, hlost⟩
      exact ⟨part, hpart, Json.ofFloat_eq_null_iff.mpr hlost ▸ hf.eval_eq⟩

/-- The tree of `1e999 < 5`. -/
def exceeding : Expr :=
  .binary (.literal (.number 1e999)) .less (.literal (.number 5))

/-- What is lost counts as zero. -/
theorem exceeding_lost : exceeding.eval = .ok (.bool true) ∧ ∃ part, exceeding.Reaches part ∧ part.eval = .ok .null := by
  have hlost : floatValue? 1e999 = none := by decide +kernel
  have hkeeps := eval_keepsNumbers (e := exceeding) (by simp [exceeding, literals])
  have hreached : exceeding.Reaches (.literal (.number 1e999)) := .left (.root _)
  refine ⟨?compared, hkeeps.null_iff.mpr ⟨_, _, hreached, .literal _, hlost⟩⟩
  case compared =>
    have hless : (Json.compare? .null (.ofFloat 5)).any (·.isLT) = true := by decide +kernel
    refine eval_binary_eq_ok_iff.mpr ⟨.null, hkeeps.lost _ _ hreached (.literal _) hlost, Or.inr ⟨?_, .ofFloat 5, rfl, ?_⟩⟩
    · simp [BinaryOp.Decides]
    · simp [BinaryOp.apply, hless]

end Expr

end FlowTree
