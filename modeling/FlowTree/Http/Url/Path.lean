import FlowTree.Json.Reader
import FlowTree.Text.Utf8
import FlowTree.Text.Search

/-! # Escapes and paths

Bytes that may not stand in an address are written as `%` and two hexadecimal digits. Unescaping leaves a
percent sign that begins no escape as it is.

A path is a list of segments. Segments of dots stand for other places and are resolved, except that the
place above a drive letter is the drive itself. -/

namespace FlowTree.Http

/-- The byte that two hexadecimal digits write. -/
def hexByte? (high low : UInt8) : Option UInt8 := do
  let h ← Json.hexDigit? (Char.ofNat high.toNat)
  let l ← Json.hexDigit? (Char.ofNat low.toNat)
  return UInt8.ofNat (h * 16 + l)

/-- The bytes with escapes replaced by what they stand for. -/
def unescape : List UInt8 → List UInt8
  | 0x25 :: high :: low :: rest =>
    match hexByte? high low with
    | some b => b :: unescape rest
    | none => 0x25 :: unescape (high :: low :: rest)
  | b :: rest => b :: unescape rest
  | [] => []

/-- A byte as an escape. -/
def escapeByte (b : UInt8) : List Char :=
  let digit (n : Nat) : Char := (Nat.digitChar n).toUpper
  ['%', digit (b.toNat / 16), digit (b.toNat % 16)]

/-- The characters with control characters, those beyond ASCII and those of `special` escaped. -/
def escape (special : List Char) (cs : List Char) : List Char :=
  cs.flatMap fun c =>
    if c.toNat < 0x20 ∨ 0x7F ≤ c.toNat ∨ c ∈ special then
      (Text.toBytes c.toString).flatMap escapeByte
    else [c]

/-- The texts between occurrences of a character. -/
def splitAt (sep : Char) (cs : List Char) : List (List Char) :=
  Text.splitChars [sep] cs

/-- What is escaped in a fragment; paths escape more. -/
def fragmentSet : List Char := [' ', '"', '<', '>', '\x60']

def pathSet : List Char := fragmentSet ++ ['#', '?', '\x7b', '\x7d']

namespace Path

/-- A segment that stands for its own place. -/
def isDot (s : List Char) : Bool :=
  let s := s.map Char.toLower
  s = ['.'] || s = ['%', '2', 'e']

/-- A segment that stands for the place above. -/
def isDoubleDot (s : List Char) : Bool :=
  let s := s.map Char.toLower
  [['.', '.'], ['.', '%', '2', 'e'], ['%', '2', 'e', '.'], ['%', '2', 'e', '%', '2', 'e']].contains s

/-- A letter with a colon, or with the bar that may stand for it. -/
def isDrive : List Char → Bool
  | [letter, mark] => letter.isAlpha && (mark = ':' || mark = '|')
  | _ => false

/-- The segments above a place. Both are in reverse. -/
def above : List (List Char) → List (List Char)
  | [] => []
  | s :: done => if isDrive s then s :: done else done

/-- A segment is put in place. The drive that begins a path of files is written with its colon. -/
def place (ofFile : Bool) (done : List (List Char)) (s : List Char) : List (List Char) :=
  if ofFile && done.isEmpty && isDrive s then [s.take 1 ++ [':']] else s :: done

/-- The segments of a path with those resolved that stand for another place. A path that ends with such a
    segment ends with a slash. `done` holds the segments so far, in reverse. -/
def resolve (ofFile : Bool) (done : List (List Char)) : List (List Char) → List (List Char)
  | [] => done.reverse
  | s :: rest =>
    let other := isDot s || isDoubleDot s
    let done :=
      if isDoubleDot s then above done
      else if isDot s then done
      else place ofFile done s
    resolve ofFile (if other && rest.isEmpty then [] :: done else done) rest

/-- A path of segments: each has a slash before it. -/
def toText (segments : List (List Char)) : String :=
  String.ofList (segments.flatMap ('/' :: ·))

/-- The path that segments write, in normal form. -/
def ofSegments (segments : List (List Char)) : String :=
  toText (resolve false [] (segments.map (escape pathSet)))

/-- The path of a file that segments write, in normal form. It does not begin with two slashes. -/
def ofFileSegments (segments : List (List Char)) : String :=
  match (resolve true [] (segments.map (escape pathSet))).dropWhile (· = []) with
  | [] => "/"
  | segments => toText segments

end Path

end FlowTree.Http
