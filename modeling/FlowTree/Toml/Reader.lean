import FlowTree.Toml.Scalar

/-! # Reading TOML

A document is a row of lines: headers of tables, headers of arrays of tables, and keys with values. -/

namespace FlowTree.Toml

/-- The deepest nesting of arrays and braces, and the longest dotted key. -/
def maxDepth : Nat := 79

/-- A character of keys without quotes. -/
def isKeyChar (c : Char) : Bool :=
  c.isAlphanum || c = '_' || c = '-'

def skipBlanks (cs : List Char) : List Char :=
  cs.dropWhile isBlank

/-- A key, or one part of a dotted key. -/
def simpleKey? (cs : List Char) : Option (String × List Char) :=
  match cs.takeWhile isKeyChar with
  | [] => shortString? cs
  | key => some (String.ofList key, cs.dropWhile isKeyChar)

/-- The parts of a dotted key, with blanks after the last. `fuel` bounds their number. -/
def dottedKey? : (fuel : Nat) → List Char → Option (List String × List Char)
  | 0, _ => none
  | fuel + 1, cs => do
    let (key, rest) ← simpleKey? (skipBlanks cs)
    match skipBlanks rest with
    | '.' :: rest =>
      let (keys, rest) ← dottedKey? fuel rest
      return (key :: keys, rest)
    | rest => return ([key], rest)

/-- The parts of a dotted key: those that lead to a table, and the last. -/
def key? (cs : List Char) : Option ((List String × String) × List Char) := do
  let (keys, rest) ← dottedKey? maxDepth cs
  let last ← keys.getLast?
  return ((keys.dropLast, last), rest)

/-- What follows a comment, if one is there. -/
def skipComment? : List Char → Option (List Char)
  | '#' :: rest =>
    let after := rest.dropWhile isPlain
    if after = [] ∨ (newline? after).isSome then some after else none
  | cs => some cs

/-- What follows blanks, comments and line breaks. `fuel` bounds the number of lines. -/
def skipLines? : (fuel : Nat) → List Char → Option (List Char)
  | 0, _ => none
  | fuel + 1, cs => do
    let rest ← skipComment? (skipBlanks cs)
    match newline? rest with
    | some rest => skipLines? fuel rest
    | none => return rest

/-- The items of an array after its bracket. `fuel` bounds their number. -/
def items? (value : List Char → Option (Value × List Char)) :
    (fuel : Nat) → List Char → Option (List Value × List Char)
  | 0, _ => none
  | fuel + 1, cs => do
    match ← skipLines? (cs.length + 1) cs with
    | ']' :: rest => return ([], rest)
    | cs =>
      let (item, rest) ← value cs
      match ← skipLines? (rest.length + 1) rest with
      | ',' :: rest =>
        let (items, rest) ← items? value fuel rest
        return (item :: items, rest)
      | ']' :: rest => return ([item], rest)
      | _ => none

/-- The entries of a table in braces, added to `t`. `fuel` bounds their number. -/
def entries? (value : List Char → Option (Value × List Char)) :
    (fuel : Nat) → Table → List Char → Option (Table × List Char)
  | 0, _, _ => none
  | fuel + 1, t, cs => do
    let ((path, key), rest) ← key? cs
    let (v, rest) ← value (skipBlanks (← expect? '=' rest))
    let t ← t.addValue? path key v
    match skipBlanks rest with
    | ',' :: rest => entries? value fuel t rest
    | '}' :: rest => return (t, rest)
    | _ => none

/-- A value in which arrays and braces are nested at most `depth` deep. -/
def value? : (depth : Nat) → List Char → Option (Value × List Char)
  | depth, cs =>
    match cs with
    | '"' :: _ | '\'' :: _ => (string? cs).map fun (s, rest) => (.string s, rest)
    | '[' :: rest =>
      match depth with
      | 0 => none
      | depth + 1 => (items? (value? depth) (rest.length + 1) rest).map fun (xs, rest) => (.array xs, rest)
    | '{' :: rest =>
      match depth with
      | 0 => none
      | depth + 1 =>
        match skipBlanks rest with
        | '}' :: rest => some (.table [], rest)
        | rest =>
          (entries? (value? depth) (rest.length + 1) .new rest).map fun (t, rest) =>
            (.table (entryValues t.entries), rest)
    | cs => bareValue? cs

/-- A document as far as it is read: the table, and the path of the header that keys belong to. -/
structure Document where
  root : Table
  path : List String

/-- What follows the end of a line. -/
def endOfLine? (cs : List Char) : Option (List Char) := do
  let rest ← skipComment? (skipBlanks cs)
  if rest = [] then some [] else newline? rest

/-- Reads one line. -/
def line? (d : Document) (cs : List Char) : Option (Document × List Char) :=
  match skipBlanks cs with
  | '[' :: '[' :: rest => do
    let ((path, key), rest) ← key? rest
    let rest ← endOfLine? (← expect? ']' (← expect? ']' rest))
    return (⟨← d.root.addElement? path key, path ++ [key]⟩, rest)
  | '[' :: rest => do
    let ((path, key), rest) ← key? rest
    let rest ← endOfLine? (← expect? ']' rest)
    return (⟨← d.root.addHeader? path key, path ++ [key]⟩, rest)
  | cs =>
    match endOfLine? cs with
    | some rest => some (d, rest)
    | none => do
      let ((path, key), rest) ← key? cs
      let (v, rest) ← value? maxDepth (skipBlanks (← expect? '=' rest))
      let rest ← endOfLine? rest
      return (⟨← d.root.update? false (·.addValue? path key v) d.path, d.path⟩, rest)

/-- Reads the lines that are left. `fuel` bounds their number. -/
def lines? : (fuel : Nat) → Document → List Char → Option Document
  | _, d, [] => some d
  | 0, _, _ :: _ => none
  | fuel + 1, d, cs => do
    let (d, rest) ← line? d cs
    lines? fuel d rest

/-- The table that a document writes. A byte order mark may stand before it. -/
def read? (text : String) : Option (Fields Value) :=
  let cs := match text.toList with
    | '\uFEFF' :: rest => rest
    | cs => cs
  (lines? (cs.length + 1) ⟨.new, []⟩ cs).map fun d => entryValues d.root.entries

end FlowTree.Toml
