import FlowTree.Expr.Syntax
import FlowTree.Json.Render

/-! # Operators on values

Arithmetic takes the numbers that its operands stand for: null and blank text are zero. Text on either
side of `+` makes it join texts. Comparisons never fail. -/

namespace FlowTree

/-- Why an expression has no value. -/
inductive EvalError where
  | type (expected actual : String)
  | divisionByZero
  /-- A logical operator was given both operands, although the right one is evaluated only on demand. -/
  | lazyOperator

def EvalError.message : EvalError → String
  | .type expected actual => "Type error: expected " ++ expected ++ ", got " ++ actual
  | .divisionByZero => "Division by zero"
  | .lazyOperator => "Evaluation error: logical operators are evaluated lazily"

namespace Json

/-- The number that a value stands for in arithmetic. -/
def toNumber? : Json → Option Float
  | .null => some 0.0
  | .str s => if Text.isBlankText s then some 0.0 else parseNumber? s
  | value => asNumber? value

/-- The numbers that two operands stand for, or the complaint about them. -/
def operands (left right : Json) (symbol : String) : Except EvalError (Float × Float) :=
  match toNumber? left, toNumber? right with
  | some a, some b => .ok (a, b)
  | _, _ => .error (.type ("numbers for " ++ symbol) (kindName left ++ " and " ++ kindName right))

/-- The sum of two numbers, or two texts joined. -/
def add (left right : Json) : Except EvalError Json :=
  if left.isString || right.isString then .ok (.str (render left ++ render right))
  else (operands left right "+").map fun (a, b) => ofFloat (a + b)

def sub (left right : Json) : Except EvalError Json :=
  (operands left right "-").map fun (a, b) => ofFloat (a - b)

def mul (left right : Json) : Except EvalError Json :=
  (operands left right "*").map fun (a, b) => ofFloat (a * b)

/-- The result of a division, which zero does not divide. -/
def divide (symbol : String) (f : Float → Float → Float) (left right : Json) : Except EvalError Json :=
  match operands left right symbol with
  | .ok (a, b) => if b == 0.0 then .error .divisionByZero else .ok (ofFloat (f a b))
  | .error e => .error e

/-- Equal values of one kind. Numbers are compared by value. -/
def strictEquals : Json → Json → Bool
  | .num a, .num b => a.toFloat == b.toFloat
  | left, right => same left right

/-- Values that are equal, stand for the same number, or, when one stands for none, show the same text.
    Null equals only itself. -/
def looseEquals (left right : Json) : Bool :=
  match left, right with
  | .null, .null => true
  | .null, _ | _, .null => false
  | .str a, .str b => a == b
  | .num _, .num _ => strictEquals left right
  | _, _ =>
    match toNumber? left, toNumber? right with
    | some a, some b => a == b
    | _, _ => render left == render right

/-- The order of two texts, by code points. -/
def compareTexts (a b : String) : Ordering :=
  if a < b then .lt else if a = b then .eq else .gt

/-- The order of two numbers; none if one is no number. -/
def compareFloats? (a b : Float) : Option Ordering :=
  if a < b then some .lt else if a == b then some .eq else if b < a then some .gt else none

/-- The order of two values: texts as texts, all others as numbers. -/
def compare? (left right : Json) : Option Ordering :=
  match left, right with
  | .str a, .str b => some (compareTexts a b)
  | _, _ =>
    match toNumber? left, toNumber? right with
    | some a, some b => compareFloats? a b
    | _, _ => none

end Json

namespace BinaryOp

open Json

/-- The value of an operator on two values. -/
def apply (op : BinaryOp) (left right : Json) : Except EvalError Json :=
  let holds (p : Ordering → Bool) : Except EvalError Json := .ok (.bool ((compare? left right).any p))
  match op with
  | add => Json.add left right
  | sub => Json.sub left right
  | mul => Json.mul left right
  | div => divide "/" (· / ·) left right
  | rem => divide "%" floatRem left right
  | equal => .ok (.bool (looseEquals left right))
  | notEqual => .ok (.bool (!looseEquals left right))
  | strictEqual => .ok (.bool (strictEquals left right))
  | strictNotEqual => .ok (.bool (!strictEquals left right))
  | less => holds (·.isLT)
  | lessOrEqual => holds (·.isLE)
  | greater => holds (·.isGT)
  | greaterOrEqual => holds (·.isGE)
  | and | or => .error .lazyOperator

end BinaryOp

/-- The value of a prefix operator on a value. -/
def PrefixOp.apply (op : PrefixOp) (value : Json) : Except EvalError Json :=
  let numeric (f : Float → Float) : Except EvalError Json :=
    match value.toNumber? with
    | some n => .ok (Json.ofFloat (f n))
    | none => .error (.type "number" value.kindName)
  match op with
  | not => .ok (.bool (!value.isTruthy))
  | neg => numeric (- ·)
  | plus => numeric id

end FlowTree
