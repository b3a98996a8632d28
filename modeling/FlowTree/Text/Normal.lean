import FlowTree.Text.NormalTable

/-! # The composed normal form

Texts that look the same may be written with marks of their own or with composed characters. Their normal
form is one for all of them: each character is decomposed, marks in a row are ordered by their class, and
a base takes in the marks after it as far as a composed character exists. -/

namespace FlowTree.Text

/-- The first mark. No character before it is composed with the one that it follows. -/
def firstMark : Nat := 0x300

/-- The combining class of a character, zero for one that marks are put on. -/
def combiningClass (c : Char) : Nat :=
  if c.toNat < firstMark then 0
  else ((classRuns.find? fun (first, last, _) => first ≤ c.toNat && c.toNat ≤ last).map (·.2.2)).getD 0

/-- The parts of a Hangul syllable: `28` syllables share their first two parts, `588` the first. -/
def hangulParts? (c : Char) : Option (List Char) :=
  if 0xAC00 ≤ c.toNat ∧ c.toNat ≤ 0xD7A3 then
    let n := c.toNat - 0xAC00
    let final := n % 28
    some ([Char.ofNat (0x1100 + n / 588), Char.ofNat (0x1161 + n % 588 / 28)] ++
      if final = 0 then [] else [Char.ofNat (0x11A7 + final)])
  else none

/-- The Hangul syllable of two parts, the first of which may be a syllable without a final part. -/
def hangulOf? (a b : Char) : Option Char :=
  if 0x1100 ≤ a.toNat ∧ a.toNat ≤ 0x1112 ∧ 0x1161 ≤ b.toNat ∧ b.toNat ≤ 0x1175 then
    some (Char.ofNat (0xAC00 + (a.toNat - 0x1100) * 588 + (b.toNat - 0x1161) * 28))
  else if 0xAC00 ≤ a.toNat ∧ a.toNat ≤ 0xD7A3 ∧ (a.toNat - 0xAC00) % 28 = 0 ∧
      0x11A8 ≤ b.toNat ∧ b.toNat ≤ 0x11C2 then
    some (Char.ofNat (a.toNat + (b.toNat - 0x11A7)))
  else none

/-- What a character decomposes to, which for most is the character itself. -/
def decompose (c : Char) : List Char :=
  if c.toNat < 0xC0 then [c]
  else
    match hangulParts? c with
    | some parts => parts
    | none =>
      match (composites.lookup c.toNat).or (replaced.lookup c.toNat) with
      | some image => image.map Char.ofNat
      | none => [c]

/-- The character that stands for two others, if there is one: it decomposes to what they do. -/
def compose? (a b : Char) : Option Char :=
  if b.toNat < firstMark then none
  else
    (hangulOf? a b).or
      (let parts := (decompose a ++ decompose b).map Char.toNat
       (composites.find? fun (_, image) => image = parts).map fun (n, _) => Char.ofNat n)

/-- Marks in the order of their classes; those of one class stay in order. -/
def orderMarks (marks : List Char) : List Char :=
  marks.mergeSort fun a b => combiningClass a ≤ combiningClass b

/-- The characters with marks in a row put in order. `marks` are those since the last base. -/
def orderFrom (marks : List Char) : List Char → List Char
  | [] => orderMarks marks
  | c :: cs =>
    if combiningClass c = 0 then orderMarks marks ++ c :: orderFrom [] cs
    else orderFrom (marks ++ [c]) cs

/-- No mark stands between a base and a character that keeps the character from it. -/
def reaches (marks : List Char) (c : Char) : Bool :=
  match marks.getLast? with
  | some mark => combiningClass mark < combiningClass c
  | none => true

/-- The characters from a base on, composed. `marks` follow the base and did not compose with it. -/
def composeFrom (base : Char) (marks : List Char) : List Char → List Char
  | [] => base :: marks
  | c :: cs =>
    match if reaches marks c then compose? base c else none with
    | some joined => composeFrom joined marks cs
    | none =>
      if combiningClass c = 0 then base :: marks ++ composeFrom c [] cs
      else composeFrom base (marks ++ [c]) cs

/-- The composed normal form. -/
def normalize (cs : List Char) : List Char :=
  match orderFrom [] (cs.flatMap decompose) with
  | [] => []
  | c :: cs => composeFrom c [] cs

end FlowTree.Text
