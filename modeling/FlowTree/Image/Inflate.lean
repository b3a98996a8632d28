/-! # Compressed data

The format that PNG images are compressed with. Data comes in blocks: stored as it is, or as prefix codes
for bytes and for repetitions of earlier output. Bits are read from the low end of each byte. -/

namespace FlowTree.Inflate

/-- Data that is read bit by bit. -/
structure Bits where
  data : ByteArray
  position : Nat

/-- A step of reading, which fails when the data are used up or make no sense. -/
abbrev Reading := StateT Bits Option

/-- The next bit. -/
def bit : Reading Nat := fun b =>
  let place := b.position / 8
  if h : place < b.data.size then
    some (b.data[place].toNat / Nat.pow 2 (b.position % 8) % 2, { b with position := b.position + 1 })
  else none

/-- The number in the next bits, the lowest first. -/
def number : Nat → Reading Nat
  | 0 => return 0
  | n + 1 => do
    let low ← bit
    let high ← number n
    return low + 2 * high

/-- Goes on to the next whole byte. -/
def align : Reading Unit := fun b => some ((), { b with position := (b.position + 7) / 8 * 8 })

/-- A prefix code: how many words it has of each length from one on, and its symbols in order. -/
structure Code where
  counts : List Nat
  symbols : Array Nat

/-- The code whose symbols have the given word lengths, zero for symbols without a word. -/
def Code.ofLengths (lengths : List Nat) : Code :=
  let ofLength (n : Nat) : List Nat := (lengths.zipIdx.filter (·.1 = n)).map (·.2)
  let byLength := (List.range 15).map fun i => ofLength (i + 1)
  ⟨byLength.map List.length, byLength.flatten.toArray⟩

/-- The next symbol. `word` is what was read of its word, `first` the first word of this length, and
    `before` the number of shorter words. -/
def symbolFrom (code : Code) (word first before : Nat) : List Nat → Reading Nat
  | [] => failure
  | count :: counts => do
    let word := word * 2 + (← bit)
    let first := first * 2
    if word < first + count then code.symbols[before + (word - first)]?
    else symbolFrom code word (first + count) (before + count) counts

/-- The next symbol of a code. -/
def symbol (code : Code) : Reading Nat :=
  symbolFrom code 0 0 0 code.counts

/-- The first length of each length symbol and the number of bits that are added to it. -/
def lengthTable : List (Nat × Nat) :=
  [(3, 0), (4, 0), (5, 0), (6, 0), (7, 0), (8, 0), (9, 0), (10, 0), (11, 1), (13, 1), (15, 1), (17, 1),
    (19, 2), (23, 2), (27, 2), (31, 2), (35, 3), (43, 3), (51, 3), (59, 3), (67, 4), (83, 4), (99, 4),
    (115, 4), (131, 5), (163, 5), (195, 5), (227, 5), (258, 0)]

/-- The first distance of each distance symbol and the number of bits that are added to it. -/
def distanceTable : List (Nat × Nat) :=
  [(1, 0), (2, 0), (3, 0), (4, 0), (5, 1), (7, 1), (9, 2), (13, 2), (17, 3), (25, 3), (33, 4), (49, 4),
    (65, 5), (97, 5), (129, 6), (193, 6), (257, 7), (385, 7), (513, 8), (769, 8), (1025, 9), (1537, 9),
    (2049, 10), (3073, 10), (4097, 11), (6145, 11), (8193, 12), (12289, 12), (16385, 13), (24577, 13)]

/-- The value of a symbol that stands for a range. -/
def fromTable (table : List (Nat × Nat)) (symbol : Nat) : Reading Nat := do
  match table[symbol]? with
  | some (base, extra) => return base + (← number extra)
  | none => failure

/-- Repeats output from a distance back. -/
def repeatOutput (out : ByteArray) (distance : Nat) : Nat → ByteArray
  | 0 => out
  | n + 1 => repeatOutput (out.push (out.get! (out.size - distance))) distance n

/-- The output of a coded block up to its end. `fuel` bounds the number of symbols. -/
def codedBlock (literals distances : Code) : (fuel : Nat) → ByteArray → Reading ByteArray
  | 0, _ => failure
  | fuel + 1, out => do
    let s ← symbol literals
    if s < 256 then codedBlock literals distances fuel (out.push (UInt8.ofNat s))
    else if s = 256 then return out
    else
      let length ← fromTable lengthTable (s - 257)
      let distance ← fromTable distanceTable (← symbol distances)
      if out.size < distance then failure
      else codedBlock literals distances fuel (repeatOutput out distance length)

/-- The bytes of a stored block. -/
def storedBytes : Nat → ByteArray → Reading ByteArray
  | 0, out => return out
  | n + 1, out => do
    let b ← number 8
    storedBytes n (out.push (UInt8.ofNat b))

/-- The code of a block that brings none. -/
def fixedLiterals : Code :=
  .ofLengths (List.replicate 144 8 ++ List.replicate 112 9 ++ List.replicate 24 7 ++ List.replicate 8 8)

def fixedDistances : Code :=
  .ofLengths (List.replicate 30 5)

/-- The order in which the word lengths of the code for word lengths are given. -/
def lengthOrder : List Nat :=
  [16, 17, 18, 0, 8, 7, 9, 6, 10, 5, 11, 4, 12, 3, 13, 2, 14, 1, 15]

/-- Word lengths until `total` are known, with runs of equal ones shortened. -/
def wordLengths (code : Code) (total : Nat) : (fuel : Nat) → List Nat → Reading (List Nat)
  | 0, _ => failure
  | fuel + 1, known => do
    if known.length = total then return known
    else if total < known.length then failure
    else
      let s ← symbol code
      if s < 16 then wordLengths code total fuel (known ++ [s])
      else
        let (value, count) ← match s with
          | 16 => match known.getLast? with
            | some last => do pure (last, 3 + (← number 2))
            | none => failure
          | 17 => do pure (0, 3 + (← number 3))
          | _ => do pure (0, 11 + (← number 7))
        wordLengths code total fuel (known ++ List.replicate count value)

/-- The codes that a block brings with it. -/
def blockCodes : Reading (Code × Code) := do
  let literals := (← number 5) + 257
  let distances := (← number 5) + 1
  let given := (← number 4) + 4
  let lengths ← (lengthOrder.take given).mapM fun place => do return (place, ← number 3)
  let code := Code.ofLengths ((List.range 19).map fun i => (lengths.lookup i).getD 0)
  let all ← wordLengths code (literals + distances) (literals + distances + 1) []
  return (.ofLengths (all.take literals), .ofLengths (all.drop literals))

/-- The output of blocks up to the last one. `fuel` bounds the number of blocks. -/
def blocks : (fuel : Nat) → ByteArray → Reading ByteArray
  | 0, _ => failure
  | fuel + 1, out => do
    let last ← bit
    let kind ← number 2
    let size := 8 * (← get).data.size
    let out ← match kind with
      | 0 => do
        align
        let length ← number 16
        let _ ← number 16
        storedBytes length out
      | 1 => codedBlock fixedLiterals fixedDistances (size + 1) out
      | 2 => do
        let (literals, distances) ← blockCodes
        codedBlock literals distances (size + 1) out
      | _ => failure
    if last = 1 then return out else blocks fuel out

/-- The data that were compressed. Two bytes of header come before the blocks. -/
def inflate? (data : ByteArray) : Option ByteArray :=
  ((blocks (8 * data.size) .empty).run ⟨data, 16⟩).map Prod.fst

end FlowTree.Inflate
