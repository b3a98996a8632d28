import FlowTree.Json.Reader
import FlowTree.Text.Search
import FlowTree.Toml.Value

/-! # TOML strings, numbers and dates

Every reader takes the characters that are left and gives what it read with what is left then. -/

namespace FlowTree.Toml

def isBlank (c : Char) : Bool :=
  c = ' ' || c = '\t'

/-- A character that may stand in comments and strings: no control character but the tab. -/
def isPlain (c : Char) : Bool :=
  c = '\t' || (0x20 ≤ c.toNat && c.toNat ≠ 0x7F)

/-- What follows a line break. -/
def newline? : List Char → Option (List Char)
  | '\n' :: rest => some rest
  | '\r' :: '\n' :: rest => some rest
  | _ => none

/-- The character with the code point that hexadecimal digits write. -/
def charOf? (digits : List Char) : Option Char := do
  let values ← digits.mapM Json.hexDigit?
  let n := values.foldl (fun n d => n * 16 + d) 0
  if n < 0xD800 ∨ 0xDFFF < n ∧ n < 0x110000 then some (Char.ofNat n) else none

/-- The character of an escape of one letter. -/
def escape? (c : Char) : Option Char :=
  match c with
  | 'b' => some '\x08'
  | 't' => some '\t'
  | 'n' => some '\n'
  | 'f' => some '\x0c'
  | 'r' => some '\r'
  | '"' => some '"'
  | '\\' => some '\\'
  | _ => none

/-- Puts a character before a text that was read. -/
def consRead (c : Char) (r : List Char × List Char) : List Char × List Char :=
  (c :: r.1, r.2)

/-- The rest of a string on one line, up to its quote. -/
def basicBody? : List Char → Option (List Char × List Char)
  | [] => none
  | '"' :: rest => some ([], rest)
  | '\\' :: 'u' :: a :: b :: c :: d :: rest => do
    return consRead (← charOf? [a, b, c, d]) (← basicBody? rest)
  | '\\' :: 'U' :: a :: b :: c :: d :: e :: f :: g :: h :: rest => do
    return consRead (← charOf? [a, b, c, d, e, f, g, h]) (← basicBody? rest)
  | '\\' :: c :: rest => do return consRead (← escape? c) (← basicBody? rest)
  | c :: rest => if isPlain c && c ≠ '\\' then (basicBody? rest).map (consRead c) else none

/-- The rest of a literal string on one line, up to its quote. -/
def literalBody? : List Char → Option (List Char × List Char)
  | [] => none
  | c :: rest =>
    if c = '\'' then some ([], rest)
    else if isPlain c then (literalBody? rest).map (consRead c)
    else none

/-- The end of a string of several lines, after its three quotes: up to two more quotes belong to it. -/
def closing (quote : Char) (rest : List Char) : List Char × List Char :=
  let extra := (rest.takeWhile (· = quote)).take 2
  (extra, rest.drop extra.length)

/-- The rest of a string of several lines. While `skipping`, blanks and line breaks are left out, as they
    are after a backslash at the end of a line. -/
def longBasicBody? (skipping : Bool) : List Char → Option (List Char × List Char)
  | [] => none
  | '"' :: '"' :: '"' :: rest => some (closing '"' rest)
  | '\r' :: '\n' :: rest =>
    if skipping then longBasicBody? true rest else (longBasicBody? false rest).map (consRead '\n')
  | '\n' :: rest =>
    if skipping then longBasicBody? true rest else (longBasicBody? false rest).map (consRead '\n')
  | '\\' :: 'u' :: a :: b :: c :: d :: rest => do
    return consRead (← charOf? [a, b, c, d]) (← longBasicBody? false rest)
  | '\\' :: 'U' :: a :: b :: c :: d :: e :: f :: g :: h :: rest => do
    return consRead (← charOf? [a, b, c, d, e, f, g, h]) (← longBasicBody? false rest)
  | '\\' :: c :: rest =>
    match escape? c with
    | some e => (longBasicBody? false rest).map (consRead e)
    | none =>
      if (newline? ((c :: rest).dropWhile isBlank)).isSome then longBasicBody? true (c :: rest) else none
  | c :: rest =>
    if skipping && isBlank c then longBasicBody? true rest
    else if isPlain c && c ≠ '\\' then (longBasicBody? false rest).map (consRead c)
    else none

/-- The rest of a literal string of several lines. -/
def longLiteralBody? : List Char → Option (List Char × List Char)
  | [] => none
  | '\'' :: '\'' :: '\'' :: rest => some (closing '\'' rest)
  | '\r' :: '\n' :: rest => (longLiteralBody? rest).map (consRead '\n')
  | c :: rest => if isPlain c || c = '\n' then (longLiteralBody? rest).map (consRead c) else none

/-- A text without the line break that it begins with. -/
def dropNewline (cs : List Char) : List Char :=
  (newline? cs).getD cs

/-- A string on one line. -/
def shortString? : List Char → Option (String × List Char)
  | '"' :: rest => (basicBody? rest).map fun (s, rest) => (String.ofList s, rest)
  | '\'' :: rest => (literalBody? rest).map fun (s, rest) => (String.ofList s, rest)
  | _ => none

/-- A string of any form. -/
def string? : List Char → Option (String × List Char)
  | '"' :: '"' :: '"' :: rest =>
    (longBasicBody? false (dropNewline rest)).map fun (s, rest) => (String.ofList s, rest)
  | '\'' :: '\'' :: '\'' :: rest =>
    (longLiteralBody? (dropNewline rest)).map fun (s, rest) => (String.ofList s, rest)
  | cs => shortString? cs

/-- Digits with underscores between them, without the underscores. -/
def digits? (isDigit : Char → Bool) (cs : List Char) : Option (List Char) :=
  let groups := Text.splitChars ['_'] cs
  if groups.all fun g => g ≠ [] && g.all isDigit then some groups.flatten else none

/-- A number in a base, if 64 bits hold it. -/
def based? (base : Nat) (cs : List Char) : Option Int := do
  let ds ← digits? (fun c => (Json.hexDigit? c).any (· < base)) cs
  let n := ds.foldl (fun n c => n * base + (Json.hexDigit? c).getD 0) 0
  if n ≤ greatest64 then some n else none

/-- Decimal digits that do not begin with a needless zero. -/
def whole? (cs : List Char) : Option (List Char) :=
  (digits? Char.isDigit cs).filter fun ds => ds.length = 1 || ds.head? ≠ some '0'

/-- A whole number. -/
def integer? (cs : List Char) : Option Int :=
  match cs with
  | '0' :: 'x' :: rest => based? 16 rest
  | '0' :: 'o' :: rest => based? 8 rest
  | '0' :: 'b' :: rest => based? 2 rest
  | _ => do
    let (negative, rest) := Decimal.sign cs
    let n : Int := Decimal.ofDigits (← whole? rest)
    let n := if negative then -n else n
    if least64 ≤ n ∧ n ≤ greatest64 then some n else none

/-- The parts of a text before and after the first character of a class. -/
def breakOn (p : Char → Bool) (cs : List Char) : List Char × Option (List Char) :=
  match cs.dropWhile fun c => !p c with
  | [] => (cs, none)
  | _ :: rest => (cs.takeWhile fun c => !p c, some rest)

/-- A number with a fraction or an exponent, or one of the words for what is no finite number. -/
def float? (cs : List Char) : Option Float := do
  let (negative, rest) := Decimal.sign cs
  if rest = "inf".toList then some (if negative then -1.0 / 0.0 else 1.0 / 0.0)
  else if rest = "nan".toList then some (0.0 / 0.0)
  else
    let (mantissa, power) := breakOn (fun c => c = 'e' || c = 'E') rest
    let (whole, fraction) := breakOn (· = '.') mantissa
    if power.isNone ∧ fraction.isNone then none
    else
      let whole ← whole? whole
      let fraction ← match fraction with
        | some f => digits? Char.isDigit f
        | none => some []
      let exponent : Int ← match power with
        | some p => do
          let (negative, p) := Decimal.sign p
          let n : Int := Decimal.ofDigits (← digits? Char.isDigit p)
          some (if negative then -n else n)
        | none => some 0
      let f := (⟨Decimal.ofDigits (whole ++ fraction), exponent - fraction.length⟩ : Decimal).toFloat
      if f.isInf ∧ !negative then none else some (if negative then -f else f)

/-- The number in exactly `n` digits at the start of a text. -/
def fixed? (n : Nat) (cs : List Char) : Option (Nat × List Char) :=
  let ds := cs.take n
  if ds.length = n ∧ ds.all Char.isDigit then some (Decimal.ofDigits ds, cs.drop n) else none

/-- What follows a character. -/
def expect? (c : Char) : List Char → Option (List Char)
  | d :: rest => if c = d then some rest else none
  | [] => none

/-- The number of days of a month. -/
def daysIn (year month : Nat) : Nat :=
  if month = 2 then
    if year % 4 = 0 ∧ (year % 100 ≠ 0 ∨ year % 400 = 0) then 29 else 28
  else if [4, 6, 9, 11].contains month then 30 else 31

/-- What follows a date. -/
def date? (cs : List Char) : Option (List Char) := do
  let (year, rest) ← fixed? 4 cs
  let (month, rest) ← fixed? 2 (← expect? '-' rest)
  let (day, rest) ← fixed? 2 (← expect? '-' rest)
  if 1 ≤ month ∧ month ≤ 12 ∧ 1 ≤ day ∧ day ≤ daysIn year month then some rest else none

/-- What follows a time. -/
def time? (cs : List Char) : Option (List Char) := do
  let (hour, rest) ← fixed? 2 cs
  let (minute, rest) ← fixed? 2 (← expect? ':' rest)
  let (second, rest) ← fixed? 2 (← expect? ':' rest)
  if 23 < hour ∨ 59 < minute ∨ 60 < second then none
  else
    match rest with
    | '.' :: c :: rest => if c.isDigit then some (rest.dropWhile Char.isDigit) else none
    | rest => some rest

/-- What follows the distance of a time from UTC, if one is given. -/
def offset? (cs : List Char) : Option (List Char) :=
  match cs with
  | 'Z' :: rest | 'z' :: rest => some rest
  | '+' :: rest | '-' :: rest => do
    let (hour, rest) ← fixed? 2 rest
    let (minute, rest) ← fixed? 2 (← expect? ':' rest)
    if 23 < hour ∨ 59 < minute then none else some rest
  | rest => some rest

/-- What follows a date, a time, or both with perhaps an offset. -/
def datetime? (cs : List Char) : Option (List Char) :=
  match date? cs with
  | none => time? cs
  | some rest =>
    match rest with
    | 'T' :: clock | 't' :: clock => (time? clock).bind offset?
    | ' ' :: clock =>
      if ((fixed? 2 clock).bind fun (_, rest) => expect? ':' rest).isSome then
        (time? clock).bind offset?
      else some rest
    | rest => some rest

/-- A character of numbers. -/
def isNumberChar (c : Char) : Bool :=
  c.isAlphanum || c = '_' || c = '+' || c = '-' || c = '.'

/-- A number, a date or a word. -/
def bareValue? (cs : List Char) : Option (Value × List Char) :=
  match datetime? cs with
  | some rest => some (.datetime, rest)
  | none =>
    let token := cs.takeWhile isNumberChar
    let rest := cs.drop token.length
    if token = "true".toList then some (.boolean true, rest)
    else if token = "false".toList then some (.boolean false, rest)
    else
      match integer? token with
      | some n => some (.integer n, rest)
      | none => (float? token).map fun f => (.float f, rest)

end FlowTree.Toml
