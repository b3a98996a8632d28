import FlowTree.Json.Basic
import FlowTree.Number.Decimal

/-! # Reading JSON

The reader takes one value with blanks around it. Arrays and objects may be nested `maxDepth` deep. Of
fields with one name, the last value counts, in the place of the first.

A numeral without point and exponent that fits 64 bits is a whole number. All others are doubles: as many
digits as fit 64 bits are rounded to a double, which is then scaled by a power of ten. A value beyond the
range of doubles is refused. -/

namespace FlowTree

namespace Json

/-- Why a text is no JSON. -/
inductive ReadError where
  | endOfText
  | unexpected (c : Char)
  | trailing (c : Char)
  | badEscape
  | controlCharacter
  | outOfRange
  | tooDeep

def ReadError.message : ReadError → String
  | endOfText => "the text ends inside a value"
  | unexpected c => "unexpected character " ++ c.toString
  | trailing c => "unexpected character after the value: " ++ c.toString
  | badEscape => "invalid escape in a string"
  | controlCharacter => "control character in a string"
  | outOfRange => "number out of range"
  | tooDeep => "nested too deeply"

/-- The deepest nesting of arrays and objects. -/
def maxDepth : Nat := 127

/-- Space, tab and line breaks. -/
def isSpace (c : Char) : Bool :=
  c = ' ' || c = '\t' || c = '\n' || c = '\r'

def skipSpaces (cs : List Char) : List Char :=
  cs.dropWhile isSpace

/-- The error for a text that does not go on as it should. -/
def stopAt {α : Type} : List Char → Except ReadError (α × List Char)
  | [] => .error .endOfText
  | c :: _ => .error (.unexpected c)

/-- The value of a hexadecimal digit. -/
def hexDigit? (c : Char) : Option Nat :=
  if '0' ≤ c ∧ c ≤ '9' then some (c.toNat - '0'.toNat)
  else if 'a' ≤ c ∧ c ≤ 'f' then some (c.toNat - 'a'.toNat + 10)
  else if 'A' ≤ c ∧ c ≤ 'F' then some (c.toNat - 'A'.toNat + 10)
  else none

/-- The number that four hexadecimal digits write. -/
def hex4? (a b c d : Char) : Option Nat := do
  return ((← hexDigit? a) * 16 + (← hexDigit? b)) * 256 + (← hexDigit? c) * 16 + (← hexDigit? d)

/-- The character of an escape of one letter. -/
def escape? (c : Char) : Option Char :=
  match c with
  | '"' => some '"'
  | '\\' => some '\\'
  | '/' => some '/'
  | 'b' => some '\x08'
  | 'f' => some '\x0c'
  | 'n' => some '\n'
  | 'r' => some '\r'
  | 't' => some '\t'
  | _ => none

/-- The characters of a string after its opening quote. `read` holds those read so far, in reverse. A code
    unit of a surrogate pair counts only with its partner. -/
def stringFrom (read : List Char) : List Char → Except ReadError (List Char × List Char)
  | [] => .error .endOfText
  | '"' :: rest => .ok (read.reverse, rest)
  | '\\' :: 'u' :: a :: b :: c :: d :: rest =>
    match hex4? a b c d with
    | none => .error .badEscape
    | some n =>
      if 0xD800 ≤ n ∧ n ≤ 0xDBFF then
        match rest with
        | '\\' :: 'u' :: e :: f :: g :: h :: rest =>
          match hex4? e f g h with
          | some m =>
            if 0xDC00 ≤ m ∧ m ≤ 0xDFFF then
              stringFrom (Char.ofNat (0x10000 + (n - 0xD800) * 0x400 + (m - 0xDC00)) :: read) rest
            else .error .badEscape
          | none => .error .badEscape
        | _ => .error .badEscape
      else if 0xDC00 ≤ n ∧ n ≤ 0xDFFF then .error .badEscape
      else stringFrom (Char.ofNat n :: read) rest
  | '\\' :: c :: rest =>
    match escape? c with
    | some e => stringFrom (e :: read) rest
    | none => .error .badEscape
  | c :: rest => if c.toNat < 0x20 then .error .controlCharacter else stringFrom (c :: read) rest

/-- As many digits as fit 64 bits, read on from `n`, and how many there are. -/
def significand (n : Nat) : List Char → Nat × Nat
  | [] => (n, 0)
  | c :: cs =>
    let next := n * 10 + (c.toNat - '0'.toNat)
    if next ≤ greatestUnsigned64 then ((significand next cs).1, (significand next cs).2 + 1) else (n, 0)

/-- The power of ten as a double. -/
def tenTo (n : Nat) : Float :=
  Float.ofScientific 1 false n

/-- Divides by a power of ten, by at most `10 ^ 308` at a time. A significand is zero after four
    divisions. -/
def scaleDown : (steps : Nat) → Float → Nat → Float
  | 0, f, _ => f * 0.0
  | steps + 1, f, places =>
    if places ≤ 308 then f / tenTo places else scaleDown steps (f / tenTo 308) (places - 308)

/-- A significand scaled by a power of ten. None beyond the range of doubles. -/
def scale? (significand : Nat) (exponent : Int) : Option Float :=
  let f := Float.ofNat significand
  if significand = 0 then some f
  else if exponent < 0 then some (scaleDown 5 f exponent.natAbs)
  else if 308 < exponent then none
  else
    let g := f * tenTo exponent.toNat
    if g.isInf then none else some g

/-- An optional exponent: a mark, a sign, and at least one digit. -/
def exponentPart : List Char → Except ReadError (Int × List Char)
  | [] => .ok (0, [])
  | c :: cs =>
    if c = 'e' ∨ c = 'E' then
      let (negative, rest) := Decimal.sign cs
      let digits := rest.takeWhile Char.isDigit
      if digits = [] then stopAt rest
      else
        let n : Int := Decimal.ofDigits digits
        .ok (if negative then -n else n, rest.dropWhile Char.isDigit)
    else .ok (0, c :: cs)

/-- An optional fraction: a point and at least one digit. -/
def fractionPart : List Char → Except ReadError (List Char × List Char)
  | '.' :: rest =>
    let digits := rest.takeWhile Char.isDigit
    if digits = [] then stopAt rest else .ok (digits, rest.dropWhile Char.isDigit)
  | rest => .ok ([], rest)

/-- The digits before the point: no zero leads another digit. -/
def wholePart (cs : List Char) : Except ReadError (List Char × List Char) :=
  match cs.takeWhile Char.isDigit, cs.dropWhile Char.isDigit with
  | [], rest => stopAt rest
  | '0' :: d :: _, _ => .error (.unexpected d)
  | digits, rest => .ok (digits, rest)

/-- The number with the given parts. `marked` tells whether it has a point or an exponent. -/
def assemble (negative marked : Bool) (whole fraction : List Char) (exponent : Int) : Option Number :=
  let n := Decimal.ofDigits whole
  if !marked && !negative && n ≤ greatestUnsigned64 then some (.int n)
  else if !marked && negative && 0 < n && least64 ≤ -(n : Int) then some (.int (-(n : Int)))
  else
    let (head, taken) := significand 0 whole
    let dropped := whole.length - taken
    let (digits, places) := significand head fraction
    (scale? digits (exponent + dropped - places)).map fun f => .float (if negative then -f else f)

/-- A number. -/
def number (cs : List Char) : Except ReadError (Number × List Char) := do
  let (negative, cs) := match cs with
    | '-' :: rest => (true, rest)
    | rest => (false, rest)
  let (whole, afterWhole) ← wholePart cs
  let (fraction, afterFraction) ← fractionPart afterWhole
  let (exponent, rest) ← exponentPart afterFraction
  match assemble negative (rest.length < afterWhole.length) whole fraction exponent with
  | some n => return (n, rest)
  | none => .error .outOfRange

/-- A value that is one of three words. -/
def word (w : String) (value : Json) (cs : List Char) : Except ReadError (Json × List Char) :=
  let letters := w.toList
  if cs.take letters.length = letters then .ok (value, cs.drop letters.length) else stopAt cs

/-- The items of an array after its first item begins. `fuel` bounds their number. -/
def itemsFrom (value : List Char → Except ReadError (Json × List Char)) :
    (fuel : Nat) → List Char → Except ReadError (List Json × List Char)
  | 0, _ => .error .endOfText
  | fuel + 1, cs => do
    let (item, rest) ← value cs
    match skipSpaces rest with
    | ',' :: rest =>
      let (items, rest) ← itemsFrom value fuel rest
      return (item :: items, rest)
    | ']' :: rest => return ([item], rest)
    | rest => stopAt rest

/-- The fields of an object after its first field begins, each name once for every time it is written.
    `fuel` bounds their number. -/
def fieldsFrom (value : List Char → Except ReadError (Json × List Char)) :
    (fuel : Nat) → List Char → Except ReadError (List (String × Json) × List Char)
  | 0, _ => .error .endOfText
  | fuel + 1, cs =>
    match skipSpaces cs with
    | '"' :: cs => do
      let (name, rest) ← stringFrom [] cs
      match skipSpaces rest with
      | ':' :: rest =>
        let (item, rest) ← value rest
        match skipSpaces rest with
        | ',' :: rest =>
          let (fields, rest) ← fieldsFrom value fuel rest
          return ((String.ofList name, item) :: fields, rest)
        | '}' :: rest => return ([(String.ofList name, item)], rest)
        | rest => stopAt rest
      | rest => stopAt rest
    | rest => stopAt rest

/-- A value with blanks before it, in which arrays and objects are nested at most `depth` deep. -/
def value : (depth : Nat) → List Char → Except ReadError (Json × List Char)
  | depth, cs =>
    match skipSpaces cs with
    | [] => .error .endOfText
    | '"' :: rest => do
      let (s, rest) ← stringFrom [] rest
      return (.str (String.ofList s), rest)
    | '[' :: rest =>
      match depth with
      | 0 => .error .tooDeep
      | depth + 1 =>
        match skipSpaces rest with
        | ']' :: rest => .ok (.arr [], rest)
        | rest => do
          let (items, rest) ← itemsFrom (value depth) rest.length rest
          return (.arr items, rest)
    | '{' :: rest =>
      match depth with
      | 0 => .error .tooDeep
      | depth + 1 =>
        match skipSpaces rest with
        | '}' :: rest => .ok (.obj [], rest)
        | rest => do
          let (fields, rest) ← fieldsFrom (value depth) rest.length rest
          return (.obj (Fields.insertAll [] fields), rest)
    | 'n' :: rest => word "null" .null ('n' :: rest)
    | 't' :: rest => word "true" (.bool true) ('t' :: rest)
    | 'f' :: rest => word "false" (.bool false) ('f' :: rest)
    | rest => do
      let (n, rest) ← number rest
      return (.num n, rest)

/-- The value that a text writes. -/
def read (text : String) : Except ReadError Json := do
  let (j, rest) ← value maxDepth text.toList
  match skipSpaces rest with
  | [] => return j
  | c :: _ => .error (.trailing c)

end Json

end FlowTree
