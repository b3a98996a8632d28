import FlowTree.Http.Domain.Direction
import FlowTree.Http.Domain.Joiner
import FlowTree.Http.Domain.MappingTable
import FlowTree.Http.Punycode
import FlowTree.Text.Normal
import FlowTree.Text.Search

/-! # Internet names

A name has labels with dots between them. The many ways to write it are mapped to one before it is looked
at: upper case to lower case, widths and styles of a letter to the letter, invisible characters to nothing,
and what is left to the normal form. It is written in ASCII: a label beyond ASCII stands encoded after
`xn--`. A label that is already encoded has to be the encoding of a label that could stand there. -/

namespace FlowTree.Http.Domain

/-- What replaces a code point, if the tables list it. -/
def replacement? (n : Nat) : Option (List Nat) :=
  (replacedSingly.lookup n).or
    ((replacedRuns.findSome? fun run => run.image? n).map fun image => [image])

/-- What a character of a name becomes; none if no name may hold it. -/
def image? (c : Char) : Option (List Char) :=
  if c.toNat < 128 then some [c.toLower]
  else if Text.inRanges ignoredRanges c.toNat then some []
  else
    match replacement? c.toNat with
    | some image => some (image.map Char.ofNat)
    | none =>
      let normal := Text.normalize [c]
      if normal ≠ [c] then some normal
      else if Text.inRanges keptRanges c.toNat then some [c]
      else none

/-- The characters of a name, mapped; none if one of them may not be held. -/
def mapped? (cs : List Char) : Option (List Char) :=
  (cs.mapM image?).map fun images => Text.normalize images.flatten

/-- The mapping changes nothing. -/
def isMapped (cs : List Char) : Bool :=
  cs.all (fun c => image? c == some [c]) && Text.normalize cs == cs

/-- A character that no name may hold, though the mapping leaves it alone. -/
def isForbidden (c : Char) : Bool :=
  c.toNat ≤ 0x20 || c.toNat = 0x7F || "#/:<>?@[\\]^|%".toList.contains c

def isAscii (cs : List Char) : Bool :=
  cs.all (·.toNat < 128)

/-- What marks an encoded label. -/
def encodedMark : List Char := ['x', 'n', '-', '-']

/-- A label beyond ASCII that may stand in a name: no mark begins it, joiners can be seen, and it is not
    too long to be encoded. -/
def isLabel (label : List Char) : Bool :=
  !label.head?.any Text.isMark && joinersFit [] label && label.length ≤ 1000

/-- The label that an encoded one stands for. -/
def decodeLabel? (code : List Char) : Option (List Char) := do
  if 2000 < code.length ∨ code.getLast? = some '-' ∨ code = [] ∨ !isAscii code then none
  else
    let label ← Punycode.decode? code
    if isMapped label && isLabel label then some label else none

/-- A mapped label as it is read, and as it is written in ASCII. -/
def label? (cs : List Char) : Option (List Char × List Char) :=
  if cs.any isForbidden then none
  else
    match Text.after? encodedMark cs with
    | some code => (decodeLabel? code).map fun label => (label, cs)
    | none =>
      if isAscii cs then some (cs, cs)
      else if isLabel cs then some (cs, encodedMark ++ Punycode.encode cs)
      else none

/-- The name that characters write, in ASCII. -/
def toAscii? (cs : List Char) : Option (List Char) := do
  let labels ← (Text.splitChars ['.'] (← mapped? cs)).mapM label?
  if directionsAgree (labels.map (·.1)) then return (['.'] : List Char).intercalate (labels.map (·.2))
  else none

end FlowTree.Http.Domain
