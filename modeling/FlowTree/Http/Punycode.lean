/-! # Labels beyond ASCII in ASCII letters

The ASCII characters of a label come first, in order. The others follow after a hyphen as numbers: they
are inserted by ascending code point, and each number says how many places and code points lie between
one insertion and the next. A number is written in digits of base 36 whose weights follow a threshold, and
the threshold follows the size of the numbers before. -/

namespace FlowTree.Http.Punycode

/-- The letter for a digit. -/
def digitChar (d : Nat) : Char :=
  Char.ofNat (if d < 26 then 'a'.toNat + d else '0'.toNat + d - 26)

/-- The digit that a letter of either case or a decimal digit stands for. -/
def digit? (c : Char) : Option Nat :=
  if c.isLower then some (c.toNat - 'a'.toNat)
  else if c.isUpper then some (c.toNat - 'A'.toNat)
  else if c.isDigit then some (c.toNat - '0'.toNat + 26)
  else none

/-- The threshold of a digit, `place` being 36 for the first. -/
def threshold (place bias : Nat) : Nat :=
  max 1 (min 26 (place - bias))

theorem one_le_threshold (place bias : Nat) : 1 ≤ threshold place bias :=
  Nat.le_max_left ..

/-- A number in digits of growing weight, the last of them below its threshold. -/
def digits (bias place n : Nat) : List Char :=
  let t := threshold place bias
  if n < t then [digitChar n]
  else digitChar (t + (n - t) % (36 - t)) :: digits bias (place + 36) ((n - t) / (36 - t))
termination_by n
decreasing_by
  have low := one_le_threshold place bias
  have : ¬ n < threshold place bias := ‹_›
  have cut := Nat.div_le_self (n - threshold place bias) (36 - threshold place bias)
  change (n - threshold place bias) / (36 - threshold place bias) < n
  omega

/-- The scaling of a bias: how often a number is divided by 35 until it is at most 455. -/
def scale (places n : Nat) : Nat × Nat :=
  if 455 < n then scale (places + 36) (n / 35) else (places, n)
termination_by n
decreasing_by exact Nat.div_lt_self (by omega) (by omega)

/-- The bias after a number, with which the label has `handled` characters. -/
def nextBias (gap handled : Nat) (first : Bool) : Nat :=
  let gap := if first then gap / 700 else gap / 2
  let (places, n) := scale 0 (gap + gap / handled)
  places + 36 * n / (n + 38)

/-! ### Writing -/

/-- What is known while a label is written: the digits, the gap since the last insertion, the bias, and
    the number of characters handled. -/
structure Writer where
  digits : List Char
  gap : Nat
  bias : Nat
  handled : Nat

/-- Writes the occurrences of one code point in a label. -/
def Writer.insert (basic code : Nat) (label : List Char) (w : Writer) : Writer :=
  label.foldl
    (fun w c =>
      if c.toNat < code then { w with gap := w.gap + 1 }
      else if c.toNat = code then
        { digits := w.digits ++ Punycode.digits w.bias 36 w.gap, gap := 0,
          bias := nextBias w.gap (w.handled + 1) (w.handled = basic), handled := w.handled + 1 }
      else w)
    w

/-- The code points of a label beyond ASCII, each once, in order. -/
def codesBeyondAscii (label : List Char) : List Nat :=
  ((label.map Char.toNat).filter (128 ≤ ·)).mergeSort.eraseDups

/-- A label in ASCII. -/
def encode (label : List Char) : List Char :=
  let basic := label.filter (·.toNat < 128)
  let start : Writer := ⟨[], 0, 72, basic.length⟩
  let written := (codesBeyondAscii label).foldl
    (fun (state : Writer × Nat) code =>
      let w := { state.1 with gap := state.1.gap + (code - state.2) * (state.1.handled + 1) }
      let w := w.insert basic.length code label
      ({ w with gap := w.gap + 1 }, code + 1))
    (start, 128)
  basic ++ (if basic = [] then [] else ['-']) ++ written.1.digits

/-! ### Reading -/

/-- What is known while a label is read: its characters so far, the last code point inserted, the bias, and
    of the number that is being read its start, its value so far, and the weight and place of the next
    digit. -/
structure Reader where
  label : List Char
  code : Nat := 128
  bias : Nat := 72
  start : Nat := 0
  value : Nat := 0
  weight : Nat := 1
  place : Nat := 36

/-- A number that has at most 32 binary digits. -/
def word? (n : Nat) : Option Nat :=
  if n < 4294967296 then some n else none

/-- Reads a digit. The last digit of a number inserts a character. -/
def Reader.step? (r : Reader) (c : Char) : Option Reader := do
  let d ← digit? c
  let value ← word? (r.value + d * r.weight)
  let t := threshold r.place r.bias
  if d < t then
    let handled := r.label.length + 1
    let code := r.code + value / handled
    if code.isValidChar then
      let place := value % handled
      return { label := r.label.insertIdx place (Char.ofNat code), code, start := place + 1,
               value := place + 1, bias := nextBias (value - r.start) handled (r.start = 0) }
    else none
  else return { r with value, weight := ← word? (r.weight * (36 - t)), place := r.place + 36 }

/-- The label that ASCII characters write. -/
def decode? (cs : List Char) : Option (List Char) := do
  let digits := (cs.reverse.takeWhile (· ≠ '-')).reverse
  let basic := cs.take (cs.length - digits.length - 1)
  -- a hyphen with nothing before it belongs to the digits, of which it is none
  let digits := if basic = [] then cs else digits
  let r ← digits.foldlM Reader.step? { label := basic }
  if r.weight = 1 then return r.label else none

end FlowTree.Http.Punycode
