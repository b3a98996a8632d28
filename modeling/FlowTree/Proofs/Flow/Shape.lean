import FlowTree.Flow.Basic

/-! # What JSON describes a tree

A node is described by an object with its fields or by an array of them in order, in any mix; what is missing or
null takes its default, and what is not known is passed over (`Describes`). Reading accepts just these values.
The JSON of a tree is one of them, so a tree that is stored and loaded again is the same tree. -/

namespace FlowTree

/-- A text, or none for the empty one. -/
inductive GivesText : Option Json → String → Prop where
  | missing : GivesText none ""
  | text (s : String) : GivesText (some (.str s)) s

/-- The data of a node, or none or null for no data. -/
inductive GivesData : Option Json → Fields Json → Prop where
  | missing : GivesData none []
  | null : GivesData (some .null) []
  | fields (fields : List (String × Json)) : GivesData (some (.obj fields)) fields

/-- A label, or none or null for no label. -/
inductive GivesLabel : Option Json → Option String → Prop where
  | missing : GivesLabel none none
  | null : GivesLabel (some .null) none
  | text (s : String) : GivesLabel (some (.str s)) (some s)

mutual

/-- The value describes the tree. -/
inductive Describes : Json → Node → Prop where
  | object {fields : List (String × Json)} {id kind : String} {data : List (String × Json)} {children : List Node}
      {label : Option String} (hid : GivesText (Fields.get? fields "id") id)
      (hkind : GivesText (Fields.get? fields "type") kind) (hdata : GivesData (Fields.get? fields "data") data)
      (hchildren : GivesChildren (Fields.get? fields "children") children)
      (hlabel : GivesLabel (Fields.get? fields "branch") label) :
      Describes (.obj fields) (.mk id kind data children label)
  | array {items : List Json} {id kind : String} {data : List (String × Json)} {children : List Node}
      {label : Option String} (hlength : items.length ≤ 5) (hid : GivesText items[0]? id)
      (hkind : GivesText items[1]? kind) (hdata : GivesData items[2]? data)
      (hchildren : GivesChildren items[3]? children) (hlabel : GivesLabel items[4]? label) :
      Describes (.arr items) (.mk id kind data children label)

/-- A list of nodes, or none or null for no nodes. -/
inductive GivesChildren : Option Json → List Node → Prop where
  | missing : GivesChildren none []
  | null : GivesChildren (some .null) []
  | list {items : List Json} {children : List Node} (h : DescribesAll items children) :
      GivesChildren (some (.arr items)) children

/-- The values describe the trees, one by one. -/
inductive DescribesAll : List Json → List Node → Prop where
  | nil : DescribesAll [] []
  | cons {item : Json} {items : List Json} {node : Node} {nodes : List Node} (h : Describes item node)
      (hs : DescribesAll items nodes) : DescribesAll (item :: items) (node :: nodes)

end

namespace Node

variable {value : Option Json} {s : String} {data : Fields Json} {label : Option String}

theorem stringOf?_eq_some_iff : stringOf? value = some s ↔ GivesText value s := by
  constructor
  · intro h
    unfold stringOf? at h
    split at h <;> cases h
    · exact .missing
    · exact .text _
  · intro h
    cases h <;> rfl

theorem dataOf?_eq_some_iff : dataOf? value = some data ↔ GivesData value data := by
  constructor
  · intro h
    unfold dataOf? at h
    split at h <;> cases h
    · exact .missing
    · exact .null
    · exact .fields _
  · intro h
    cases h <;> rfl

theorem labelOf?_eq_some_iff : labelOf? value = some label ↔ GivesLabel value label := by
  constructor
  · intro h
    unfold labelOf? at h
    split at h <;> cases h
    · exact .missing
    · exact .null
    · exact .text _
  · intro h
    cases h <;> rfl

theorem ofJson?_obj_iff {fields : List (String × Json)} {n : Node} : ofJson? (.obj fields) = some n ↔
    ∃ id kind data children label, stringOf? (Fields.get? fields "id") = some id ∧
      stringOf? (Fields.get? fields "type") = some kind ∧ dataOf? (Fields.get? fields "data") = some data ∧
      childrenIn? fields = some children ∧ labelOf? (Fields.get? fields "branch") = some label ∧
      mk id kind data children label = n := by
  simp [ofJson?, Option.bind_eq_some_iff]

theorem ofJson?_arr_iff {items : List Json} (hlength : ¬5 < items.length) {n : Node} :
    ofJson? (.arr items) = some n ↔
      ∃ id kind data children label, stringOf? items[0]? = some id ∧ stringOf? items[1]? = some kind ∧
        dataOf? items[2]? = some data ∧ childrenAt? 3 items = some children ∧ labelOf? items[4]? = some label ∧
        mk id kind data children label = n := by
  simp [ofJson?, hlength, Option.bind_eq_some_iff]

theorem describes_obj_iff {fields : List (String × Json)} {n : Node} : Describes (.obj fields) n ↔
    ∃ id kind data children label, GivesText (Fields.get? fields "id") id ∧
      GivesText (Fields.get? fields "type") kind ∧ GivesData (Fields.get? fields "data") data ∧
      GivesChildren (Fields.get? fields "children") children ∧ GivesLabel (Fields.get? fields "branch") label ∧
      mk id kind data children label = n := by
  constructor
  · rintro ⟨hid, hkind, hdata, hchildren, hlabel⟩
    exact ⟨_, _, _, _, _, hid, hkind, hdata, hchildren, hlabel, rfl⟩
  · rintro ⟨id, kind, data, children, label, hid, hkind, hdata, hchildren, hlabel, rfl⟩
    exact .object hid hkind hdata hchildren hlabel

theorem describes_arr_iff {items : List Json} {n : Node} : Describes (.arr items) n ↔
    items.length ≤ 5 ∧ ∃ id kind data children label, GivesText items[0]? id ∧ GivesText items[1]? kind ∧
      GivesData items[2]? data ∧ GivesChildren items[3]? children ∧ GivesLabel items[4]? label ∧
      mk id kind data children label = n := by
  constructor
  · rintro (_ | ⟨hlength, hid, hkind, hdata, hchildren, hlabel⟩)
    exact ⟨hlength, _, _, _, _, _, hid, hkind, hdata, hchildren, hlabel, rfl⟩
  · rintro ⟨hlength, id, kind, data, children, label, hid, hkind, hdata, hchildren, hlabel, rfl⟩
    exact .array hlength hid hkind hdata hchildren hlabel

/-- Reading accepts what describes a tree, and reads that tree. -/
theorem ofJson?_eq_some_iff (j : Json) : ∀ n, ofJson? j = some n ↔ Describes j n := by
  refine (ofJson?.mutual_induct
    (motive_1 := fun j => ∀ n, ofJson? j = some n ↔ Describes j n)
    (motive_2 := fun place items => ∀ children,
      childrenAt? place items = some children ↔ GivesChildren items[place]? children)
    (motive_3 := fun j => ∀ children, childrenOf? j = some children ↔ GivesChildren (some j) children)
    (motive_4 := fun items => ∀ nodes, ofJsonAll? items = some nodes ↔ DescribesAll items nodes)
    (motive_5 := fun fields => ∀ children,
      childrenIn? fields = some children ↔ GivesChildren (Fields.get? fields "children") children)
    ?object ?long ?array ?other ?null ?list ?noList ?atEnd ?atItem ?atLater ?nil ?cons ?inEnd ?inField ?inLater).1 j
  case object =>
    intro fields ih n
    simp only [ofJson?_obj_iff, describes_obj_iff, stringOf?_eq_some_iff, dataOf?_eq_some_iff, labelOf?_eq_some_iff, ih]
  case long =>
    intro items hlength n
    rw [describes_arr_iff]
    simp [ofJson?, hlength, Nat.not_le_of_lt hlength]
  case array =>
    intro items hlength ih n
    simp only [ofJson?_arr_iff hlength, describes_arr_iff, stringOf?_eq_some_iff, dataOf?_eq_some_iff,
      labelOf?_eq_some_iff, ih, Nat.le_of_not_lt hlength, true_and]
  case other =>
    intro j hobj harr n
    constructor
    · intro h
      unfold ofJson? at h
      split at h
      · exact absurd rfl (hobj _)
      · exact absurd rfl (harr _)
      · cases h
    · rintro (_ | _)
      · exact absurd rfl (hobj _)
      · exact absurd rfl (harr _)
  case null =>
    intro children
    constructor
    · intro h
      rw [childrenOf?] at h
      cases h
      exact .null
    · rintro ⟨⟩
      rw [childrenOf?]
  case list =>
    intro items ih children
    rw [childrenOf?, ih]
    constructor
    · exact .list
    · rintro ⟨⟩
      assumption
  case noList =>
    intro j hnull harr children
    constructor
    · intro h
      unfold childrenOf? at h
      split at h
      · exact absurd rfl hnull
      · exact absurd rfl (harr _)
      · cases h
    · rintro (_ | _ | _)
      · exact absurd rfl hnull
      · exact absurd rfl (harr _)
  case atEnd =>
    intro place children
    rw [childrenAt?, List.getElem?_nil]
    constructor
    · rintro ⟨⟩
      exact .missing
    · rintro ⟨⟩
      rfl
  case atItem =>
    intro item items ih children
    rw [childrenAt?, List.getElem?_cons_zero, ih]
  case atLater =>
    intro place item items ih children
    rw [childrenAt?, List.getElem?_cons_succ, ih]
  case nil =>
    intro nodes
    rw [ofJsonAll?]
    constructor
    · rintro ⟨⟩
      exact .nil
    · rintro ⟨⟩
      rfl
  case cons =>
    intro item items ih ihs nodes
    simp only [ofJsonAll?, Option.bind_eq_bind, Option.bind_eq_some_iff, Option.pure_def, Option.some.injEq, ih, ihs]
    constructor
    · rintro ⟨node, h, nodes, hs, rfl⟩
      exact .cons h hs
    · rintro (_ | ⟨h, hs⟩)
      exact ⟨_, h, _, hs, rfl⟩
  case inEnd =>
    intro children
    rw [childrenIn?, Fields.get?]
    constructor
    · rintro ⟨⟩
      exact .missing
    · rintro ⟨⟩
      rfl
  case inField =>
    intro value fields ih children
    rw [childrenIn?, if_pos rfl, Fields.get?, if_pos rfl, ih]
  case inLater =>
    intro name value fields hname ih children
    rw [childrenIn?, if_neg hname, Fields.get?, if_neg hname, ih]

/-! ### The JSON of a tree -/

/-- A tree is described by its JSON. -/
theorem describes_toJson (n : Node) : Describes n.toJson n := by
  refine (toJson.mutual_induct (motive_1 := fun n => Describes n.toJson n)
    (motive_2 := fun ns => DescribesAll (toJsonAll ns) ns) ?node ?nil ?cons).1 n
  case node =>
    intro id kind data children label ih
    cases label with
    | none => exact .object (.text id) (.text kind) (.fields data) (.list ih) .missing
    | some l => exact .object (.text id) (.text kind) (.fields data) (.list ih) (.text l)
  case nil =>
    rw [toJsonAll]
    exact .nil
  case cons =>
    intro n ns ih ihs
    rw [toJsonAll]
    exact .cons ih ihs

theorem ofJson?_toJson (n : Node) : ofJson? n.toJson = some n :=
  (ofJson?_eq_some_iff _ n).mpr (describes_toJson n)

end Node

/-! ### Flows -/

namespace Flow

theorem ofJson?_eq_some_iff {j : Json} {flow : Flow} :
    ofJson? j = some flow ↔ Describes j flow.root ∧ flow.json = j := by
  rw [ofJson?, Option.map_eq_some_iff]
  constructor
  · rintro ⟨root, hroot, rfl⟩
    exact ⟨(Node.ofJson?_eq_some_iff j root).mp hroot, rfl⟩
  · rintro ⟨hroot, rfl⟩
    exact ⟨flow.root, (Node.ofJson?_eq_some_iff _ _).mpr hroot, rfl⟩

/-- The second flow has what requests and hosts see of the first one. -/
structure SameTree (flow other : Flow) : Prop where
  root : other.root = flow.root
  slug : other.slug = flow.slug
  queryParams : other.queryParams = flow.queryParams
  defaults : other.defaults = flow.defaults
  count : other.root.count = flow.root.count

theorem sameTree_of_root {flow other : Flow} (h : other.root = flow.root) : SameTree flow other where
  root := h
  slug := by rw [slug, slug, h]
  queryParams := by rw [queryParams, queryParams, h]
  defaults := by rw [defaults, defaults, queryParams, queryParams, h]
  count := by rw [h]

/-- What is loaded is what was stored. -/
structure Reloads : Prop where
  /-- A value is loaded if and only if it describes a tree, which is then the tree of the flow. -/
  loads_iff : ∀ j root, (∃ flow, ofJson? j = some flow ∧ flow.root = root) ↔ Describes j root
  /-- The JSON that is stored for a tree describes that tree and no other. -/
  stored_iff : ∀ root other, Describes (ofNode root).json other ↔ other = root
  /-- A stored tree is loaded as it was. -/
  stored : ∀ root, ∃ flow, ofJson? (ofNode root).json = some flow ∧ SameTree (ofNode root) flow
  /-- A flow that was loaded from any value is the same after it was stored and loaded again. -/
  again : ∀ j flow, ofJson? j = some flow → ∃ other, ofJson? flow.root.toJson = some other ∧ SameTree flow other

theorem stored_reloads : Reloads where
  loads_iff j root := by
    constructor
    · rintro ⟨flow, hflow, rfl⟩
      exact (ofJson?_eq_some_iff.mp hflow).1
    · intro hroot
      exact ⟨⟨root, j⟩, ofJson?_eq_some_iff.mpr ⟨hroot, rfl⟩, rfl⟩
  stored_iff root other := by
    rw [← Node.ofJson?_eq_some_iff, ofNode, Node.ofJson?_toJson, Option.some.injEq]
    exact eq_comm
  stored root := ⟨ofNode root, ofJson?_eq_some_iff.mpr ⟨Node.describes_toJson root, rfl⟩, sameTree_of_root rfl⟩
  again j flow _ := ⟨ofNode flow.root, ofJson?_eq_some_iff.mpr ⟨Node.describes_toJson flow.root, rfl⟩,
    sameTree_of_root rfl⟩

/-- An array with null data, and in it an object with a field that is not known and null children. -/
def mixed : Json :=
  .arr [.str "one", .str "start", .null, .arr [.obj [("type", .str "respond"), ("note", .bool true), ("children", .null),
    ("branch", .str "else")]]]

def mixedRoot : Node :=
  .mk "one" "start" [] [.mk "" "respond" [] [] (some "else")] none

theorem mixed_again : ∃ other, ofJson? mixedRoot.toJson = some other ∧ other.root = mixedRoot := by
  obtain ⟨other, hother, hsame⟩ := stored_reloads.again mixed ⟨mixedRoot, mixed⟩ rfl
  exact ⟨other, hother, hsame.root⟩

end Flow

end FlowTree
