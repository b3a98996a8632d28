import FlowTree.Json.Fields

/-! # TOML values and tables

A TOML document builds one table from headers, dotted keys and values. Where a table came from decides
what may still be added to it: a header may complete a table that was only implied by longer headers, and a
dotted key may extend only what dotted keys began. -/

namespace FlowTree.Toml

/-- A value. Dates and times are told apart from other values, but what they say is not kept. -/
inductive Value where
  | string (s : String)
  | integer (n : Int)
  | float (f : Float)
  | boolean (b : Bool)
  | datetime
  | array (items : List Value)
  | table (fields : List (String × Value))

/-- What a key of a table under construction stands for. -/
inductive Item where
  | value (v : Value)
  /-- A table; whether it is only implied so far, and whether dotted keys began it. -/
  | table (isImplied isDotted : Bool) (entries : List (String × Item))
  /-- An array of tables, each begun by a header of its own. -/
  | tables (elements : List (List (String × Item)))

mutual

/-- The value that a finished item is. -/
def Item.toValue : Item → Value
  | .value v => v
  | .table _ _ entries => .table (entryValues entries)
  | .tables elements => .array (elementValues elements)
termination_by structural item => item

def entryValues : List (String × Item) → List (String × Value)
  | [] => []
  | (key, item) :: rest => (key, item.toValue) :: entryValues rest
termination_by structural entries => entries

def elementValues : List (List (String × Item)) → List Value
  | [] => []
  | entries :: rest => .table (entryValues entries) :: elementValues rest
termination_by structural elements => elements

end

/-- A table under construction. -/
structure Table where
  isImplied : Bool
  isDotted : Bool
  entries : Fields Item

namespace Table

/-- A table that a header, a document or braces begin. -/
def new : Table := ⟨false, false, []⟩

def toItem (t : Table) : Item := .table t.isImplied t.isDotted t.entries

/-- Changes the table at a path, which is extended where it ends. Dotted keys do not enter a table that
    has a header or braces of its own; an array of tables is entered at its last table. -/
def update? (dotted : Bool) (f : Table → Option Table) : List String → Table → Option Table
  | [], t => f t
  | key :: path, t =>
    let put (item : Item) : Table := { t with entries := t.entries.insert key item }
    match t.entries.get? key with
    | none => (update? dotted f path ⟨true, dotted, []⟩).map fun child => put child.toItem
    | some (.value _) => none
    | some (.table isImplied isDotted entries) =>
      if dotted && !isImplied then none
      else (update? dotted f path ⟨isImplied, isDotted, entries⟩).map fun child => put child.toItem
    | some (.tables elements) =>
      match elements.getLast? with
      | none => none
      | some last =>
        (update? dotted f path ⟨false, false, last⟩).map fun child =>
          put (.tables (elements.dropLast ++ [child.entries]))

/-- Adds a value under a key that is not taken, by a dotted key with the given path. -/
def addValue? (path : List String) (key : String) (v : Value) (t : Table) : Option Table :=
  t |> update? true (fun t =>
    if t.isDotted = path.isEmpty || (t.entries.get? key).isSome then none
    else some { t with entries := t.entries.insert key (.value v) }) path

/-- Begins the table of a header. -/
def addHeader? (path : List String) (key : String) (t : Table) : Option Table :=
  t |> update? false (fun t =>
    match t.entries.get? key with
    | none => some { t with entries := t.entries.insert key (.table false false []) }
    | some (.table true false entries) =>
      some { t with entries := t.entries.insert key (.table false false entries) }
    | some _ => none) path

/-- Begins one more table of an array of tables. -/
def addElement? (path : List String) (key : String) (t : Table) : Option Table :=
  t |> update? false (fun t =>
    match t.entries.get? key with
    | none => some { t with entries := t.entries.insert key (.tables [[]]) }
    | some (.tables elements) =>
      some { t with entries := t.entries.insert key (.tables (elements ++ [[]])) }
    | some _ => none) path

end Table

end FlowTree.Toml
