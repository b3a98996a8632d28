import FlowTree.Text.CaseTable

/-! # Upper and lower case

The full case maps of Unicode, which may lengthen a text (`ß` becomes `SS`). A capital sigma at the end
of a word becomes a final sigma: a cased letter stands before it and none after it, characters that
case ignores aside. -/

namespace FlowTree.Text

/-- The image of a character beyond ASCII under a case map. -/
def mapCase (runs : List CodeRun) (sequences : List (Nat × List Nat)) (c : Char) : List Char :=
  match sequences.lookup c.toNat with
  | some image => image.map Char.ofNat
  | none =>
    match runs.findSome? fun run => run.image? c.toNat with
    | some n => [Char.ofNat n]
    | none => [c]

/-- The upper-case image of a character. -/
def upperChar (c : Char) : List Char :=
  if c.toNat < 128 then [c.toUpper] else mapCase upperRuns upperSequences c

/-- The lower-case image of a character that stands alone. -/
def lowerChar (c : Char) : List Char :=
  if c.toNat < 128 then [c.toLower] else mapCase lowerRuns lowerSequences c

def isCased (c : Char) : Bool :=
  inRanges casedRanges c.toNat

def isCaseIgnorable (c : Char) : Bool :=
  inRanges caseIgnorableRanges c.toNat

/-- The first character that case does not ignore is cased. -/
def meetsCased (cs : List Char) : Bool :=
  match cs.find? fun c => !isCaseIgnorable c with
  | some c => isCased c
  | none => false

/-- Lower case of the characters that follow `before`, which is held in reverse. -/
def lowerFrom (before : List Char) : List Char → List Char
  | [] => []
  | c :: cs =>
    let image :=
      if c = 'Σ' then (if meetsCased before && !meetsCased cs then ['ς'] else ['σ'])
      else lowerChar c
    image ++ lowerFrom (c :: before) cs

/-- The text in upper case. -/
def upper (s : String) : String :=
  String.ofList (s.toList.flatMap upperChar)

/-- The text in lower case. -/
def lower (s : String) : String :=
  String.ofList (lowerFrom [] s.toList)

end FlowTree.Text
