/-! # Tables of code points

The data of a standard is written as lines of text: each has rows that end with a semicolon, of hexadecimal
numbers with blanks between them. A range is a row of its first and last code point, or of the only
one. -/

namespace FlowTree.Text

/-- A line that is being read: the complete rows and the numbers of the next one, the latest first, and the
    number that is being read. -/
structure TableReader where
  rows : List (List Nat) := []
  row : List Nat := []
  number : Option Nat := none

namespace TableReader

/-- The value of a digit; letters are upper case. -/
def digit (c : Char) : Nat :=
  if c.isDigit then c.toNat - '0'.toNat else c.toNat - 'A'.toNat + 10

/-- Ends the number that is being read. -/
def endNumber (t : TableReader) : TableReader :=
  match t.number with
  | some n => { t with row := n :: t.row, number := none }
  | none => t

def step (t : TableReader) (c : Char) : TableReader :=
  if c = ';' then { rows := t.endNumber.row.reverse :: t.rows }
  else if c = ' ' then t.endNumber
  else { t with number := some (t.number.getD 0 * 16 + digit c) }

end TableReader

/-- The rows of a table. -/
def readRows (lines : List String) : List (List Nat) :=
  lines.flatMap fun line => (line.toList.foldl TableReader.step {}).rows.reverse

/-- The ranges of a table. -/
def readRanges (lines : List String) : List (Nat × Nat) :=
  (readRows lines).filterMap fun
    | [n] => some (n, n)
    | [first, last] => some (first, last)
    | _ => none

/-- The ranges of a table, each with a number that goes with all its code points. -/
def readNumberedRanges (lines : List String) : List (Nat × Nat × Nat) :=
  (readRows lines).filterMap fun
    | [first, last, n] => some (first, last, n)
    | _ => none

/-- Every `step`-th code point of a range, mapped to the ones that lie as far from `image` as it lies from
    `first`. -/
structure CodeRun where
  first : Nat
  last : Nat
  step : Nat
  image : Nat

/-- The image of a code point that belongs to the run. -/
def CodeRun.image? (r : CodeRun) (n : Nat) : Option Nat :=
  if r.first ≤ n ∧ n ≤ r.last ∧ (n - r.first) % r.step = 0 then some (r.image + (n - r.first))
  else none

/-- The runs of a table. -/
def readRuns (lines : List String) : List CodeRun :=
  (readRows lines).filterMap fun
    | [first, last, step, image] => some ⟨first, last, step, image⟩
    | _ => none

/-- The code points of a table, each with its image. -/
def readImages (lines : List String) : List (Nat × List Nat) :=
  (readRows lines).filterMap fun
    | n :: image => some (n, image)
    | [] => none

/-- The code point lies in one of the ranges. -/
def inRanges (ranges : List (Nat × Nat)) (n : Nat) : Bool :=
  ranges.any fun (first, last) => first ≤ n && n ≤ last

end FlowTree.Text
