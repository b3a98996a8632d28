/-! # Blanks

The blanks of a text are the characters of Unicode's `White_Space` property. Trimming takes them off
both ends and leaves those inside alone. -/

namespace FlowTree.Text

/-- A character of Unicode's `White_Space` property. -/
def isBlank (c : Char) : Bool :=
  let n := c.toNat
  (9 ≤ n && n ≤ 13) || n == 0x20 || n == 0x85 || n == 0xA0 || n == 0x1680 ||
    (0x2000 ≤ n && n ≤ 0x200A) || n == 0x2028 || n == 0x2029 || n == 0x202F || n == 0x205F ||
    n == 0x3000

/-- The characters without their leading and trailing blanks. -/
def trimChars (cs : List Char) : List Char :=
  ((cs.dropWhile isBlank).reverse.dropWhile isBlank).reverse

/-- The text without its leading and trailing blanks. -/
def trim (s : String) : String :=
  String.ofList (trimChars s.toList)

/-- Nothing but blanks. -/
def isBlankText (s : String) : Bool :=
  s.toList.all isBlank

/-- The maximal runs of characters that are not blanks, in order. `current` is the run being read. -/
def wordsFrom (current : List Char) : List Char → List (List Char)
  | [] => if current.isEmpty then [] else [current]
  | c :: cs =>
    if isBlank c then
      if current.isEmpty then wordsFrom [] cs else current :: wordsFrom [] cs
    else wordsFrom (current ++ [c]) cs

/-- The words of a text: its maximal runs of characters that are not blanks. -/
def words (s : String) : List String :=
  (wordsFrom [] s.toList).map String.ofList

/-- One pair of equal quotes around a text, taken off. None when the text has no such pair. -/
def stripQuoteChars : List Char → Option (List Char)
  | q :: c :: cs =>
    if (q = '"' ∨ q = '\'') ∧ (c :: cs).getLast (by simp) = q then some (c :: cs).dropLast else none
  | _ => none

/-- One pair of equal quotes around a text, taken off. None when the text has no such pair. -/
def stripQuotes (s : String) : Option String :=
  (stripQuoteChars s.toList).map String.ofList

end FlowTree.Text
