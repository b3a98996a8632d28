import FlowTree.State.Context
import FlowTree.Template.Helper

/-! # Paths and templates

A path names a value of a context: segments with dots between them, or in brackets behind a name. Its
first segment picks roots; the first root that has the whole path gives the value. Where none has it, a
helper of that name is called, and a path of which a root lacks only the last segment stands for the
variable, default or helper of that last name.

A template is a text with paths in braces. A span runs from an opening brace to the next closing brace and
is not empty; it gives way to the value of its path. Everything else stays, and an inserted value is not
looked at again. -/

namespace FlowTree

namespace Path

/-- The segment that the text in brackets stands for: the value of the expression in it, or else the text
    itself without quotes around it. -/
def bracketKey (inner : List Char) : List Char :=
  let trimmed := String.ofList (Text.trimChars inner)
  match Expr.value? trimmed with
  | some value => value.render.toList
  | none => ((Text.stripQuotes trimmed).getD trimmed).toList

/-- Writes every pair of brackets without brackets inside as a dotted segment. `pending` is what was read
    since the last opening bracket, in reverse. -/
def expandFrom : (pending : Option (List Char)) → List Char → List Char
  | none, [] => []
  | some p, [] => '[' :: p.reverse
  | none, c :: cs => if c = '[' then expandFrom (some []) cs else c :: expandFrom none cs
  | some p, c :: cs =>
    if c = '[' then '[' :: p.reverse ++ expandFrom (some []) cs
    else if c = ']' then '.' :: bracketKey p.reverse ++ expandFrom none cs
    else expandFrom (some (c :: p)) cs

/-- Writes every pair of brackets without brackets inside as a dotted segment. -/
def expandChars (cs : List Char) : List Char :=
  expandFrom none cs

/-- Writes every pair of brackets without brackets inside as a dotted segment. -/
def expand (path : String) : String :=
  String.ofList (expandChars path.toList)

/-- The texts between the dots. -/
def splitDots : List Char → List (List Char)
  | [] => [[]]
  | c :: cs =>
    if c = '.' then [] :: splitDots cs
    else
      match splitDots cs with
      | [] => [[c]]
      | s :: rest => (c :: s) :: rest

/-- The segments of a path, brackets expanded. -/
def segments (path : String) : List String :=
  (splitDots (expandChars (Text.trimChars path.toList))).map String.ofList

/-- What following segments from a value comes to: a value, or the number of segments that resolve before
    the first that does not. -/
inductive Walk where
  | found (value : Json)
  | missing (index : Nat)

/-- The same walk, one segment further on. -/
def Walk.later : Walk → Walk
  | found value => found value
  | missing index => missing (index + 1)

/-- The place that a segment names in an array: digits, perhaps after a plus sign. -/
def index? (segment : String) : Option Nat :=
  let digits := match segment.toList with
    | '+' :: rest => rest
    | cs => cs
  if digits ≠ [] ∧ digits.all Char.isDigit then some (Decimal.ofDigits digits) else none

/-- A length, which has no segments of its own. -/
def ofLength (n : Nat) : List String → Walk
  | [] => .found (.ofNat n)
  | _ :: _ => .missing 1

/-- Follows segments from a value: the fields of objects, the items and the length of arrays, and the
    length of strings. -/
def walk : Json → List String → Walk
  | value, [] => .found value
  | .obj fields, s :: rest =>
    match Fields.get? fields s with
    | some next => (walk next rest).later
    | none => .missing 0
  | .arr items, s :: rest =>
    if s = "length" then ofLength items.length rest
    else
      match (index? s).bind (items[·]?) with
      | some next => (walk next rest).later
      | none => .missing 0
  | .str t, s :: rest => if s = "length" then ofLength t.length rest else .missing 0
  | _, _ :: _ => .missing 0
termination_by structural _ segments => segments

/-- Follows segments from a root. -/
def walkScope : Scope → List String → Walk
  | .value j, segments => walk j segments
  | .fields fs, [] => .found (.obj fs)
  | .fields fs, s :: rest =>
    match fs.get? s with
    | some value => (walk value rest).later
    | none => .missing 0

/-- The roots that a first segment picks, in the order in which they are tried. -/
def roots (c : Context) (defaults : Fields Json) (first : String) : List Scope :=
  (c.scope? first).toList ++
    [c.locals, c.results, c.params, c.vars, defaults].filterMap fun fields =>
      (fields.get? first).map .value

/-- The first value that the rest of a path has on one of the roots. -/
def found? (roots : List Scope) (rest : List String) : Option Json :=
  roots.findSome? fun root =>
    match walkScope root rest with
    | .found value => some value
    | .missing _ => none

/-- Some root has all but the last segment of the rest. -/
def missesLast (roots : List Scope) (rest : List String) : Bool :=
  roots.any fun root =>
    match walkScope root rest with
    | .found _ => false
    | .missing index => index + 1 = rest.length

/-- The argument of a helper: the rest of the path without blanks and without quotes around it. -/
def helperArg (rest : List String) : Json :=
  let trimmed := Text.trim (".".intercalate rest)
  .str ((Text.stripQuotes trimmed).getD trimmed)

/-- The variable, default or helper of a name. -/
def named? (a : Ambient) (c : Context) (defaults : Fields Json) (name : String) : Option Json :=
  match (c.vars.get? name).or (defaults.get? name) with
  | some value => some value
  | none => (Helper.ofName? name).map fun h => h.call a none

/-- The value of a path with the given first segment and rest. -/
def resolveSegments (a : Ambient) (c : Context) (defaults : Fields Json) (first : String)
    (rest : List String) : Json :=
  let roots := roots c defaults first
  match found? roots rest with
  | some value => value
  | none =>
    match Helper.ofName? first with
    | some h => h.call a (if rest.isEmpty then none else some (helperArg rest))
    | none =>
      match rest.getLast? with
      | none => .str ""
      | some last =>
        if missesLast roots rest then (named? a c defaults last).getD (.str "") else .str ""

/-- The value that a path names in a context; the empty string if there is none. -/
def resolve (a : Ambient) (c : Context) (defaults : Fields Json) (path : String) : Json :=
  let segments := segments path
  if segments.any String.isEmpty then .str ""
  else
    match segments with
    | [] => .str ""
    | first :: rest => resolveSegments a c defaults first rest

end Path

namespace Template

/-- Replaces spans by what `value` makes of their contents. `pending` is what was read since an opening
    brace, in reverse. -/
def fillFrom (value : List Char → List Char) : (pending : Option (List Char)) → List Char → List Char
  | none, [] => []
  | some p, [] => '{' :: p.reverse
  | none, c :: cs =>
    if c = '{' then fillFrom value (some []) cs else c :: fillFrom value none cs
  | some p, c :: cs =>
    if c = '}' then
      (if p.isEmpty then ['{', '}'] else value p.reverse) ++ fillFrom value none cs
    else fillFrom value (some (c :: p)) cs

/-- The text that a template comes to, with the given defaults. -/
def fillWith (a : Ambient) (c : Context) (defaults : Fields Json) (template : String) : String :=
  String.ofList (fillFrom
    (fun path => (Path.resolve a c defaults (String.ofList path)).render.toList)
    none template.toList)

/-- The text that a template comes to, with the defaults that the flow declares. -/
def fill (a : Ambient) (c : Context) (template : String) : String :=
  fillWith a c c.defaults template

end Template

end FlowTree
