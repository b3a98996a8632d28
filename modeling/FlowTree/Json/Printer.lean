import FlowTree.Json.Basic
import FlowTree.Number.Layout

/-! # Writing JSON

Compact text has no blanks; pretty text has one entry a line, each level two blanks further in, and empty
arrays and objects on one line. -/

namespace FlowTree

/-- A number as JSON text. A double that is not finite has no numeral and is written `null`. -/
def Number.text : Number → String
  | int n => toString n
  | float f => (Layout.json.float? f).getD "null"

namespace Json

/-- A character inside a JSON string: quotes, backslashes and control characters are escaped. -/
def escapeChar (c : Char) : List Char :=
  if c = '"' then ['\\', '"']
  else if c = '\\' then ['\\', '\\']
  else if c = '\n' then ['\\', 'n']
  else if c = '\r' then ['\\', 'r']
  else if c = '\t' then ['\\', 't']
  else if c = '\x08' then ['\\', 'b']
  else if c = '\x0c' then ['\\', 'f']
  else if c.toNat < 0x20 then
    ['\\', 'u', '0', '0', Nat.digitChar (c.toNat / 16), Nat.digitChar (c.toNat % 16)]
  else [c]

/-- A text as a JSON string. -/
def quote (s : String) : String :=
  String.ofList ('"' :: s.toList.flatMap escapeChar ++ ['"'])

mutual

/-- The text of a value without blanks. -/
def compact : Json → String
  | .null => "null"
  | .bool b => if b then "true" else "false"
  | .num n => n.text
  | .str s => quote s
  | .arr items => "[" ++ ",".intercalate (compactItems items) ++ "]"
  | .obj fields => "\x7b" ++ ",".intercalate (compactFields fields) ++ "\x7d"
termination_by structural j => j

def compactItems : List Json → List String
  | [] => []
  | item :: items => compact item :: compactItems items
termination_by structural items => items

def compactFields : List (String × Json) → List String
  | [] => []
  | (k, v) :: fields => (quote k ++ ":" ++ compact v) :: compactFields fields
termination_by structural fields => fields

end

/-- Entries between brackets, one a line, at the given depth of indentation. -/
def block (opening closing : String) (depth : Nat) (entries : List String) : String :=
  let margin (n : Nat) := "\n" ++ "".pushn ' ' (2 * n)
  if entries.isEmpty then opening ++ closing
  else
    opening ++ margin (depth + 1) ++ ("," ++ margin (depth + 1)).intercalate entries ++ margin depth ++
      closing

mutual

/-- The text of a value with one entry a line, inside `depth` brackets. -/
def prettyAt : Json → Nat → String
  | .arr items, depth => block "[" "]" depth (prettyItems items (depth + 1))
  | .obj fields, depth => block "\x7b" "\x7d" depth (prettyFields fields (depth + 1))
  | .null, _ => "null"
  | .bool b, _ => if b then "true" else "false"
  | .num n, _ => n.text
  | .str s, _ => quote s
termination_by structural j => j

def prettyItems : List Json → Nat → List String
  | [], _ => []
  | item :: items, depth => prettyAt item depth :: prettyItems items depth
termination_by structural items => items

def prettyFields : List (String × Json) → Nat → List String
  | [], _ => []
  | (k, v) :: fields, depth => (quote k ++ ": " ++ prettyAt v depth) :: prettyFields fields depth
termination_by structural fields => fields

end

/-- The text of a value with one entry a line. -/
def pretty (j : Json) : String :=
  prettyAt j 0

end Json

end FlowTree
