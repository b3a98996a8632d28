import FlowTree.Json.Fields
import FlowTree.Number.Dyadic

/-! # JSON values

The values that flows compute with. A number is a whole number within 64 bits, signed or unsigned, or a
double: `2` and `2.0` are different values that render alike. -/

namespace FlowTree

/-- A number: whole, or a double. -/
inductive Number where
  | int (n : Int)
  | float (f : Float)
  deriving Inhabited

/-- A JSON value. Objects keep the order of their fields. -/
inductive Json where
  | null
  | bool (b : Bool)
  | num (n : Number)
  | str (s : String)
  | arr (items : List Json)
  | obj (fields : List (String × Json))
  deriving Inhabited

namespace Number

/-- The double nearest to a number. -/
def toFloat : Number → Float
  | int n => Float.ofInt n
  | float f => f

/-- The same number in the same form. -/
def same : Number → Number → Bool
  | int a, int b => a == b
  | float a, float b => a == b
  | _, _ => false

end Number

namespace Json

/-- A whole number. -/
def ofInt (n : Int) : Json := .num (.int n)

/-- A natural number. -/
def ofNat (n : Nat) : Json := .num (.int n)

/-- The value of a double: a whole number below 2⁵³ is stored as one, and what is not finite is null. -/
def ofFloat (f : Float) : Json :=
  match Dyadic.ofFloat? f with
  | none => .null
  | some d => if d.isWhole && d.truncated < Nat.pow 2 53 then ofInt d.toInt else .num (.float f)

/-- The field of an object. None for other values. -/
def get? : Json → String → Option Json
  | .obj fields, name => Fields.get? fields name
  | _, _ => none

/-- The text of a string value. -/
def string? : Json → Option String
  | .str s => some s
  | _ => none

def isNull : Json → Bool
  | .null => true
  | _ => false

def isString : Json → Bool
  | .str _ => true
  | _ => false

mutual

/-- Equal values: objects regardless of the order of their fields, numbers only in the same form. -/
def same : Json → Json → Bool
  | .null, .null => true
  | .bool a, .bool b => a == b
  | .num a, .num b => a.same b
  | .str a, .str b => a == b
  | .arr xs, .arr ys => sameItems xs ys
  | .obj xs, .obj ys => xs.length == ys.length && fieldsIn xs ys
  | _, _ => false
termination_by structural a => a

def sameItems : List Json → List Json → Bool
  | [], [] => true
  | x :: xs, y :: ys => same x y && sameItems xs ys
  | _, _ => false
termination_by structural xs => xs

/-- Every field of the first object is a field of the second, with an equal value. -/
def fieldsIn : List (String × Json) → List (String × Json) → Bool
  | [], _ => true
  | (k, v) :: xs, ys =>
    (match Fields.get? ys k with
      | some w => same v w
      | none => false) && fieldsIn xs ys
termination_by structural xs => xs

end

end Json

end FlowTree
