import FlowTree.Json.Printer
import FlowTree.Number.Decimal
import FlowTree.Text.Blank

/-! # Values as text and as conditions

How values show in a text, which of them count as true, and which texts stand for numbers. -/

namespace FlowTree

/-- A number in a text. A double shows its digits without exponent, and a whole one below 10²¹ shows as
    the signed 64-bit number nearest to it. -/
def Number.render : Number → String
  | int n => toString n
  | float f =>
    match Dyadic.ofFloat? f with
    | some d =>
      if d.isWhole && d.truncated < Nat.pow 10 21 then toString (clamp64 d.toInt)
      else (Layout.plain.float? f).getD "null"
    | none => "null"

namespace Json

/-- The name of a value's kind. -/
def kindName : Json → String
  | .null => "null"
  | .bool _ => "bool"
  | .num _ => "number"
  | .str _ => "string"
  | .arr _ => "array"
  | .obj _ => "object"

/-- A value that counts as true: all but null, `false`, zero and the empty string. -/
def isTruthy : Json → Bool
  | .null => false
  | .bool b => b
  | .num n => n.toFloat != 0.0 && !n.toFloat.isNaN
  | .str s => !s.isEmpty
  | .arr _ | .obj _ => true

/-- Null or the empty string. -/
def isNullish : Json → Bool
  | .null => true
  | .str s => s.isEmpty
  | _ => false

/-- An item of an array in a text: arrays and objects are written as JSON. -/
def renderItem : Json → String
  | .null => ""
  | .bool b => if b then "true" else "false"
  | .num n => n.render
  | .str s => s
  | .arr items => compact (.arr items)
  | .obj fields => compact (.obj fields)

/-- A value in a text: null shows nothing, a string itself, an array its items with commas between them,
    an object its JSON. -/
def render : Json → String
  | .arr items => ",".intercalate (items.map renderItem)
  | value => renderItem value

/-- A character that occurs in numerals. -/
def isNumeralChar (c : Char) : Bool :=
  c.isDigit || c = '.' || c = '-' || c = '+' || c = 'e' || c = 'E'

/-- The finite number that a text writes, blanks around it aside. -/
def parseNumber? (s : String) : Option Float :=
  let cs := Text.trimChars s.toList
  if cs ≠ [] ∧ cs.all isNumeralChar then
    (Decimal.readFloat? cs).filter Float.isFinite
  else none

/-- The number that a value stands for: a number, a boolean as 0 or 1, or a text that writes one. -/
def asNumber? : Json → Option Float
  | .num n => some n.toFloat
  | .bool b => some (if b then 1.0 else 0.0)
  | .str s => parseNumber? s
  | _ => none

/-- The value that an operand text stands for: a number, the inside of a quoted text, or the text
    itself with its blanks. -/
def ofOperand (s : String) : Json :=
  let trimmed := Text.trim s
  match parseNumber? trimmed with
  | some f => ofFloat f
  | none =>
    match Text.stripQuotes trimmed with
    | some inner => .str inner
    | none => .str s

end Json

end FlowTree
