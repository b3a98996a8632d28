/-! # Searching a text

Occurrences are looked for from the left and never overlap. `cut?` finds the first one; splitting and
replacing go on with what follows it. -/

namespace FlowTree.Text

/-- What follows `p` in a text that begins with `p`. -/
def after? : (p cs : List Char) → Option (List Char)
  | [], cs => some cs
  | _ :: _, [] => none
  | a :: p, c :: cs => if a = c then after? p cs else none

/-- The texts before and after the first occurrence of `d`. -/
def cut? (d : List Char) : List Char → Option (List Char × List Char)
  | [] => (after? d []).map fun rest => ([], rest)
  | c :: cs =>
    match after? d (c :: cs) with
    | some rest => some ([], rest)
    | none => (cut? d cs).map fun (before, rest) => (c :: before, rest)

theorem append_of_after? {p cs rest : List Char} (h : after? p cs = some rest) : p ++ rest = cs := by
  fun_induction after? p cs with
  | case1 cs => simpa using h.symm
  | case2 => cases h
  | case3 p c cs ih => simp [ih h]
  | case4 => cases h

theorem append_of_cut? {d cs before rest : List Char} (h : cut? d cs = some (before, rest)) :
    before ++ d ++ rest = cs := by
  fun_induction cut? d cs generalizing before rest with
  | case1 =>
    obtain ⟨r, hr, he⟩ := Option.map_eq_some_iff.1 h
    cases he
    simpa using append_of_after? hr
  | case2 c cs r hr =>
    cases h
    simpa using append_of_after? hr
  | case3 c cs _ ih =>
    obtain ⟨⟨b, r⟩, hr, he⟩ := Option.map_eq_some_iff.1 h
    cases he
    have := ih hr
    simpa using this

theorem length_lt_of_cut? {d cs before rest : List Char} (hd : d ≠ [])
    (h : cut? d cs = some (before, rest)) : rest.length < cs.length := by
  have hlen := congrArg List.length (append_of_cut? h)
  have := List.length_pos_iff.2 hd
  simp only [List.length_append] at hlen
  omega

/-- The pieces of a text between the occurrences of the delimiter. An empty delimiter occurs nowhere. -/
def splitChars (d cs : List Char) : List (List Char) :=
  if _ : d = [] then [cs]
  else
    match _ : cut? d cs with
    | some (before, rest) => before :: splitChars d rest
    | none => [cs]
termination_by cs.length
decreasing_by exact length_lt_of_cut? ‹_› ‹_›

/-- The text with every occurrence of `d` replaced. An empty `d` occurs nowhere. -/
def replaceChars (d new cs : List Char) : List Char :=
  if _ : d = [] then cs
  else
    match _ : cut? d cs with
    | some (before, rest) => before ++ new ++ replaceChars d new rest
    | none => cs
termination_by cs.length
decreasing_by exact length_lt_of_cut? ‹_› ‹_›

/-- The pieces of a text between the occurrences of a delimiter. -/
def split (delimiter s : String) : List String :=
  (splitChars delimiter.toList s.toList).map String.ofList

/-- The text with every occurrence of `find` replaced. -/
def replace (find replacement s : String) : String :=
  String.ofList (replaceChars find.toList replacement.toList s.toList)

def contains (s part : String) : Bool :=
  (cut? part.toList s.toList).isSome

def startsWith (s part : String) : Bool :=
  (after? part.toList s.toList).isSome

def endsWith (s part : String) : Bool :=
  (after? part.toList.reverse s.toList.reverse).isSome

/-- The texts joined with a separator between them. -/
def join (separator : String) (parts : List String) : String :=
  separator.intercalate parts

end FlowTree.Text
