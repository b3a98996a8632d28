import FlowTree.Expr.Eval

/-! # What expressions come to

An operator gives a scalar, or fails in one of two ways; `apply_cases` says when it does which. What a tree comes to
follows by one induction (`eval_lands`): what its literals have and its operators keep, its value has, and it fails only
as its operators do. -/

namespace FlowTree

/-- The result is a value of the one kind, or a failure of the other. -/
def Lands (P : Json → Prop) (E : EvalError → Prop) : Except EvalError Json → Prop
  | .ok value => P value
  | .error e => E e

/-! ### Values -/

namespace Json

/-- Neither an array nor an object. -/
def IsScalar : Json → Prop
  | arr _ | obj _ => False
  | _ => True

/-- A scalar that is no text. -/
def IsTextless : Json → Prop
  | str _ => False
  | j => j.IsScalar

theorem IsTextless.isScalar {j : Json} (h : j.IsTextless) : j.IsScalar := by
  cases j <;> trivial

theorem IsTextless.isString {j : Json} (h : j.IsTextless) : j.isString = false := by
  cases j with
  | str => exact h.elim
  | _ => rfl

theorem isTextless_bool (b : Bool) : (bool b).IsTextless := trivial

theorem isTextless_ofFloat (f : Float) : (ofFloat f).IsTextless := by
  unfold ofFloat
  split
  · trivial
  · split <;> trivial

/-- Null, booleans and numbers stand for numbers. -/
theorem IsTextless.exists_toNumber? {j : Json} (h : j.IsTextless) : ∃ f, j.toNumber? = some f := by
  cases j with
  | null | bool | num => exact ⟨_, rfl⟩
  | str | arr | obj => exact h.elim

/-- The operands stand for numbers, or the complaint is about one that does not. -/
theorem operands_cases (left right : Json) (symbol : String) :
    (∃ a b, operands left right symbol = .ok (a, b)) ∨
    ∃ expected actual, (left.toNumber? = none ∨ right.toNumber? = none) ∧
      operands left right symbol = .error (.type expected actual) := by
  unfold operands
  cases hl : left.toNumber? with
  | none => exact Or.inr ⟨_, _, Or.inl rfl, rfl⟩
  | some a =>
    cases hr : right.toNumber? with
    | none => exact Or.inr ⟨_, _, Or.inr rfl, rfl⟩
    | some b => exact Or.inl ⟨a, b, rfl⟩

end Json

namespace Literal

theorem isScalar_value (l : Literal) : l.value.IsScalar := by
  cases l with
  | number f => exact (Json.isTextless_ofFloat f).isScalar
  | _ => trivial

theorem isTextless_value {l : Literal} (h : ∀ s, l ≠ string s) : l.value.IsTextless := by
  cases l with
  | number f => exact Json.isTextless_ofFloat f
  | string s => exact absurd rfl (h s)
  | bool | null => trivial

end Literal

/-! ### Operators -/

open Json

theorem PrefixOp.apply_cases (op : PrefixOp) (value : Json) :
    (∃ v, v.IsTextless ∧ op.apply value = .ok v) ∨
    ∃ expected actual, value.toNumber? = none ∧ op.apply value = .error (.type expected actual) := by
  cases op with
  | not => exact Or.inl ⟨_, isTextless_bool _, rfl⟩
  | neg | plus =>
    simp only [PrefixOp.apply]
    cases value.toNumber? with
    | none => exact Or.inr ⟨_, _, rfl, rfl⟩
    | some n => exact Or.inl ⟨_, isTextless_ofFloat _, rfl⟩

namespace BinaryOp

/-- The ways in which a binary operator can end. -/
inductive Ends (op : BinaryOp) (left right : Json) : Except EvalError Json → Prop
  | text (s : String) (hop : op = add) (htext : left.isString = true ∨ right.isString = true) :
      Ends op left right (.ok (.str s))
  | textless {v : Json} (hv : v.IsTextless) : Ends op left right (.ok v)
  | mismatch (expected actual : String) (hnone : left.toNumber? = none ∨ right.toNumber? = none) :
      Ends op left right (.error (.type expected actual))
  | zero (hop : op = div ∨ op = rem) : Ends op left right (.error .divisionByZero)

variable {op : BinaryOp} {left right : Json}

theorem ends_map {symbol : String} (f : Float × Float → Float) :
    Ends op left right ((operands left right symbol).map fun p => ofFloat (f p)) := by
  rcases operands_cases left right symbol with ⟨a, b, h⟩ | ⟨expected, actual, hnone, h⟩
  · rw [h]
    exact .textless (isTextless_ofFloat _)
  · rw [h]
    exact .mismatch expected actual hnone

theorem ends_divide {symbol : String} (f : Float → Float → Float) (hop : op = div ∨ op = rem) :
    Ends op left right (divide symbol f left right) := by
  unfold divide
  rcases operands_cases left right symbol with ⟨a, b, h⟩ | ⟨expected, actual, hnone, h⟩
  · rw [h]
    simp only
    split
    · exact .zero hop
    · exact .textless (isTextless_ofFloat _)
  · rw [h]
    exact .mismatch expected actual hnone

/-- Only the logical operators have to be kept from their operands. -/
theorem ends_apply (hand : op ≠ and) (hor : op ≠ or) (left right : Json) :
    Ends op left right (op.apply left right) := by
  cases op with
  | and => exact absurd rfl hand
  | or => exact absurd rfl hor
  | add =>
    simp only [apply, Json.add]
    split
    · next h => exact .text _ rfl (by simpa using h)
    · exact ends_map fun p => p.1 + p.2
  | sub => exact ends_map fun p => p.1 - p.2
  | mul => exact ends_map fun p => p.1 * p.2
  | div => exact ends_divide _ (Or.inl rfl)
  | rem => exact ends_divide _ (Or.inr rfl)
  | equal | notEqual | strictEqual | strictNotEqual | less | lessOrEqual | greater | greaterOrEqual =>
    exact .textless (isTextless_bool _)

end BinaryOp

/-! ### Trees -/

namespace Expr

def literals : Expr → List Literal
  | literal l => [l]
  | unary _ operand => operand.literals
  | binary left _ right => left.literals ++ right.literals

def operators : Expr → List BinaryOp
  | literal _ => []
  | unary _ operand => operand.operators
  | binary left op right => left.operators ++ op :: right.operators

variable {P : Json → Prop} {E : EvalError → Prop}

/-- What holds of the literals of a tree and is kept by its operators holds of its value. The logical operators give
one of their operands, so they need nothing kept. -/
theorem eval_lands {e : Expr} (hliteral : ∀ l ∈ e.literals, P l.value)
    (hunary : ∀ (op : PrefixOp) value, P value → Lands P E (op.apply value))
    (hbinary : ∀ op ∈ e.operators, op ≠ .and → op ≠ .or → ∀ left right, P left → P right →
      Lands P E (op.apply left right)) :
    Lands P E e.eval := by
  induction e with
  | literal l => exact hliteral l (List.mem_singleton_self l)
  | unary op operand ih =>
    have hoperand := ih hliteral hbinary
    rw [eval]
    cases hvalue : operand.eval with
    | error e =>
      rw [hvalue] at hoperand
      exact hoperand
    | ok value =>
      rw [hvalue] at hoperand
      exact hunary op value hoperand
  | binary left op right ihl ihr =>
    have hleft := ihl (fun l hl => hliteral l (List.mem_append_left _ hl)) fun op' hop' =>
      hbinary op' (List.mem_append_left _ hop')
    have hright := ihr (fun l hl => hliteral l (List.mem_append_right _ hl)) fun op' hop' =>
      hbinary op' (List.mem_append_right _ (List.mem_cons_of_mem _ hop'))
    rw [eval]
    cases hl : left.eval with
    | error e =>
      rw [hl] at hleft
      exact hleft
    | ok l =>
      rw [hl] at hleft
      simp only
      split
      · exact hleft
      · cases hr : right.eval with
        | error e =>
          rw [hr] at hright
          exact hright
        | ok r =>
          rw [hr] at hright
          simp only
          split
          · exact hright
          · next hlogical =>
            obtain ⟨hand, hor⟩ := not_or.mp hlogical
            exact hbinary op (List.mem_append_right _ List.mem_cons_self) hand hor l r hleft hright

theorem lands_scalar (e : Expr) :
    Lands IsScalar (fun err => (∃ expected actual, err = .type expected actual) ∨ err = .divisionByZero) e.eval := by
  refine eval_lands (fun l _ => l.isScalar_value) (fun op value _ => ?_) fun op _ hand hor left right _ _ => ?_
  · rcases op.apply_cases value with ⟨v, hv, h⟩ | ⟨expected, actual, -, h⟩
    · rw [h]
      exact hv.isScalar
    · rw [h]
      exact Or.inl ⟨expected, actual, rfl⟩
  · have hends := BinaryOp.ends_apply hand hor left right
    generalize op.apply left right = result at hends
    cases hends with
    | text => trivial
    | textless hv => exact hv.isScalar
    | mismatch expected actual => exact Or.inl ⟨expected, actual, rfl⟩
    | zero => exact Or.inr rfl

theorem lands_textless {e : Expr} (h : ∀ s, .string s ∉ e.literals) :
    Lands IsTextless (· = .divisionByZero) e.eval := by
  refine eval_lands (fun l hl => ?_) (fun op value hvalue => ?_) fun op _ hand hor left right hleft hright => ?_
  · exact Literal.isTextless_value fun s hs => h s (hs ▸ hl)
  · obtain ⟨f, hf⟩ := hvalue.exists_toNumber?
    rcases op.apply_cases value with ⟨v, hv, happly⟩ | ⟨expected, actual, hnone, -⟩
    · rw [happly]
      exact hv
    · rw [hf] at hnone
      cases hnone
  · -- Both operands stand for numbers, so nothing is joined as text and nothing is complained about.
    obtain ⟨f, hf⟩ := hleft.exists_toNumber?
    obtain ⟨g, hg⟩ := hright.exists_toNumber?
    have hends := BinaryOp.ends_apply hand hor left right
    generalize op.apply left right = result at hends
    cases hends with
    | text s _ htext => simp [hleft.isString, hright.isString] at htext
    | textless hv => exact hv
    | mismatch _ _ hnone => simp [hf, hg] at hnone
    | zero => rfl

theorem lands_undivided {e : Expr} (hdiv : .div ∉ e.operators) (hrem : .rem ∉ e.operators) :
    Lands (fun _ => True) (· ≠ .divisionByZero) e.eval := by
  refine eval_lands (fun _ _ => trivial) (fun op value _ => ?_) fun op hop hand hor left right _ _ => ?_
  · rcases op.apply_cases value with ⟨v, -, h⟩ | ⟨expected, actual, -, h⟩
    · rw [h]
      trivial
    · rw [h]
      exact EvalError.noConfusion
  · have hends := BinaryOp.ends_apply hand hor left right
    generalize op.apply left right = result at hends
    cases hends with
    | text | textless => trivial
    | mismatch => exact EvalError.noConfusion
    | zero hzero =>
      rcases hzero with rfl | rfl
      · exact absurd hop hdiv
      · exact absurd hop hrem

/-- A conjunction fails if its left operand does, or if that is truthy and the right one fails. -/
theorem eval_and_eq_error_iff {left right : Expr} {err : EvalError} : (binary left .and right).eval = .error err ↔
    left.eval = .error err ∨ ∃ l, left.eval = .ok l ∧ l.isTruthy = true ∧ right.eval = .error err := by
  rw [eval]
  cases left.eval with
  | error e => simp
  | ok l =>
    cases hl : l.isTruthy with
    | false => simp [hl]
    | true => cases right.eval <;> simp [hl]

theorem eval_or_eq_error_iff {left right : Expr} {err : EvalError} : (binary left .or right).eval = .error err ↔
    left.eval = .error err ∨ ∃ l, left.eval = .ok l ∧ l.isTruthy = false ∧ right.eval = .error err := by
  rw [eval]
  cases left.eval with
  | error e => simp
  | ok l =>
    cases hl : l.isTruthy with
    | true => simp [hl]
    | false => cases right.eval <;> simp [hl]

theorem value?_eq_some_iff {source : String} {value : Json} :
    value? source = some value ↔ ∃ e, parse source = .ok e ∧ e.eval = .ok value := by
  unfold value? evalText
  cases parse source with
  | error => simp [Except.toOption]
  | ok e => cases h : e.eval <;> simp [Except.toOption, h]

theorem value?_eq_none_iff {source : String} :
    value? source = none ↔ ∀ e value, parse source = .ok e → e.eval ≠ .ok value := by
  rw [Option.eq_none_iff_forall_ne_some]
  simp only [ne_eq, value?_eq_some_iff, not_exists, not_and]
  exact forall_comm

/-- What the evaluation of a tree can come to. -/
structure ComesOut (e : Expr) : Prop where
  result : (∃ value, e.eval = .ok value ∧ value.IsScalar) ∨
    (∃ expected actual, e.eval = .error (.type expected actual)) ∨ e.eval = .error .divisionByZero
  /-- Without texts there is no text to complain about. -/
  textless : (∀ s, .string s ∉ e.literals) →
    (∃ value, e.eval = .ok value ∧ value.IsTextless) ∨ e.eval = .error .divisionByZero
  undivided : .div ∉ e.operators → .rem ∉ e.operators → e.eval ≠ .error .divisionByZero
  /-- The right operand of a logical operator matters only if the left one does not decide. -/
  and_fails : ∀ left right err, e = binary left .and right → (e.eval = .error err ↔
    left.eval = .error err ∨ ∃ l, left.eval = .ok l ∧ l.isTruthy = true ∧ right.eval = .error err)
  or_fails : ∀ left right err, e = binary left .or right → (e.eval = .error err ↔
    left.eval = .error err ∨ ∃ l, left.eval = .ok l ∧ l.isTruthy = false ∧ right.eval = .error err)

theorem eval_comesOut (e : Expr) : ComesOut e := by
  constructor
  case result =>
    have h := lands_scalar e
    generalize e.eval = result at h
    rcases result with err | value
    · rcases h with ⟨expected, actual, rfl⟩ | rfl
      · exact Or.inr (Or.inl ⟨expected, actual, rfl⟩)
      · exact Or.inr (Or.inr rfl)
    · exact Or.inl ⟨value, rfl, h⟩
  case textless =>
    intro htext
    have h := lands_textless htext
    generalize e.eval = result at h
    rcases result with err | value
    · exact Or.inr (congrArg Except.error h)
    · exact Or.inl ⟨value, rfl, h⟩
  case undivided =>
    intro hdiv hrem herr
    have h := lands_undivided hdiv hrem
    rw [herr] at h
    exact h rfl
  case and_fails =>
    rintro left right err rfl
    exact eval_and_eq_error_iff
  case or_fails =>
    rintro left right err rfl
    exact eval_or_eq_error_iff

end Expr

end FlowTree
