import FlowTree.Proofs.Run.Transcoding
import FlowTree.Proofs.Text.Parts

/-! # Texts in parts

A node that splits a text puts out the parts between the occurrences of its delimiter, and one that replaces joins the
same parts with another text. An array shows its items with commas between them, so that a text which is split at its
commas shows as it was. -/

namespace FlowTree.Walk

/-- The node changes a text in the way that it names. -/
structure Changes (a : Ambient) (c : Context) (node : Node) (operation text : String) : Prop where
  kind : node.kind = "manipulateText"
  operation : node.nonEmpty? "operation" = some operation
  fills : Template.fill a c (node.text "text") = text
  text_ne_empty : text ≠ ""

structure Splits (a : Ambient) (c : Context) (node : Node) (text delimiter : String) : Prop
    extends Changes a c node "split" text where
  delimiter : Template.fill a c (node.text "delimiter") = delimiter

structure Replaces (a : Ambient) (c : Context) (node : Node) (text find new : String) : Prop
    extends Changes a c node "replace" text where
  find : Template.fill a c (node.text "find") = find
  new : Template.fill a c (node.text "replace") = new

section
variable {v : Services} {node : Node} {s : Session} {operation text delimiter new name : String}

theorem visit_manipulateText (hk : node.kind = "manipulateText") (v : Services) (request : Request) (s : Session) :
    visit (.standard v) request node s = (Block.manipulateText v.ambient).run node request s :=
  visit_of_get? (by simp [Registry.standard, Fields.get?, hk]) (by simp [hk]) request s

theorem Changes.visit_eq (h : Changes v.ambient s.context node operation text) (request : Request) :
    visit (.standard v) request node s =
      (.value (namedOutput (node.nonEmpty? "referenceVar") (changeText v.ambient node s.context operation text)),
        s.modify (·.assignAs (node.nonEmpty? "referenceVar") (changeText v.ambient node s.context operation text))) := by
  rw [visit_manipulateText h.kind, Block.manipulateText, onText_of_fill h.fills h.text_ne_empty, h.operation,
    Option.getD_some]

theorem Splits.changeText_eq (h : Splits v.ambient s.context node text delimiter) :
    changeText v.ambient node s.context "split" text = .arr ((Text.split delimiter text).map .str) := by
  simp [changeText, h.delimiter]

theorem Replaces.changeText_eq (h : Replaces v.ambient s.context node text delimiter new) :
    changeText v.ambient node s.context "replace" text = .str (Text.replace delimiter new text) := by
  simp [changeText, h.find, h.new]

/-- Texts show as themselves, with commas between them. -/
theorem render_texts (parts : List String) : (Json.arr (parts.map .str)).render = ",".intercalate parts := by
  simp [Json.render, Function.comp_def, Json.renderItem]

theorem Splits.fill_braced (h : Splits v.ambient s.context node text delimiter)
    (hname : node.nonEmpty? "referenceVar" = some name) (hchars : ∀ ch ∈ ['.', '[', ']', '{', '}'], ch ∉ name.toList)
    (hroot : name ∉ Path.reservedRoots) (request : Request) :
    Template.fill v.ambient (visit (.standard v) request node s).2.context (Template.braced name) =
      ",".intercalate (Text.split delimiter text) := by
  have hstands : Stands (visit (.standard v) request node s).2.context name
      (.arr ((Text.split delimiter text).map .str)) := by
    rw [h.visit_eq, h.changeText_eq, hname]
    exact stands_assign ..
  rw [fill_name (nonEmpty?_spec hname) hchars hroot hstands.1, render_texts]

end

/-- The parts are those of the text at the delimiter: nodes split it into them and replace what is between them. -/
structure CutsText (v : Services) (text delimiter : String) (parts : List String) : Prop where
  joined : delimiter.intercalate parts = text
  undelimited : ∀ part ∈ parts, ¬delimiter.toList <:+: part.toList
  leftmost : Text.Parts delimiter.toList text.toList (parts.map String.toList)
  split : ∀ request s node, Splits v.ambient s.context node text delimiter →
    (visit (.standard v) request node s).1.output =
      some (namedOutput (node.nonEmpty? "referenceVar") (.arr (parts.map .str)))
  shown : delimiter = "," → ∀ request s node name, Splits v.ambient s.context node text delimiter →
    node.nonEmpty? "referenceVar" = some name → (∀ ch ∈ ['.', '[', ']', '{', '}'], ch ∉ name.toList) →
    name ∉ Path.reservedRoots →
    Template.fill v.ambient (visit (.standard v) request node s).2.context (Template.braced name) = text
  replaced : ∀ request s node new, Replaces v.ambient s.context node text delimiter new →
    (visit (.standard v) request node s).1.output =
      some (namedOutput (node.nonEmpty? "referenceVar") (.str (new.intercalate parts)))
  unchanged : ∀ request s node, Replaces v.ambient s.context node text delimiter delimiter →
    (visit (.standard v) request node s).1.output = some (namedOutput (node.nonEmpty? "referenceVar") (.str text))

theorem split_cutsText (v : Services) (text : String) {delimiter : String} (h : delimiter ≠ "") :
    CutsText v text delimiter (Text.split delimiter text) := by
  have hjoined := Text.intercalate_split h text
  have hreplaced : ∀ request s node new, Replaces v.ambient s.context node text delimiter new →
      (visit (.standard v) request node s).1.output =
        some (namedOutput (node.nonEmpty? "referenceVar") (.str (new.intercalate (Text.split delimiter text)))) := by
    intro request s node new hnode
    rw [hnode.visit_eq, hnode.changeText_eq, Text.replace_eq h]
    rfl
  constructor
  case joined => exact hjoined
  case undelimited => exact fun part hpart => Text.not_infix_of_mem_split h hpart
  case leftmost => exact Text.parts_split h text
  case split =>
    intro request s node hnode
    rw [hnode.visit_eq, hnode.changeText_eq]
    rfl
  case shown =>
    rintro rfl request s node name hnode hname hchars hroot
    rw [hnode.fill_braced hname hchars hroot, hjoined]
  case replaced => exact hreplaced
  case unchanged =>
    intro request s node hnode
    rw [hreplaced request s node delimiter hnode, hjoined]

/-- A text with a delimiter at its end, and two without anything between them. -/
def listing : Node :=
  .mk "cut" "manipulateText" [("text", .str "é, a,,b,"), ("operation", .str "split"), ("delimiter", .str ","),
    ("referenceVar", .str "parts")] [] none

/-- A delimiter that overlaps itself in the text. -/
def shortening : Node :=
  .mk "join" "manipulateText" [("text", .str "aaa"), ("operation", .str " replace"), ("find", .str "aa"),
    ("replace", .str "b")] [] none

theorem listing_shown : Template.fill Services.still.ambient
      (visit (.standard .still) (.new "GET" "/") listing idleSession).2.context (Template.braced "parts") =
      "é, a,,b," ∧
    (visit (.standard .still) (.new "GET" "/") shortening idleSession).1.output =
      some (.obj [("result", .str "ba")]) := by
  have hsplits : Splits Services.still.ambient idleSession.context listing "é, a,,b," "," :=
    { kind := rfl, operation := rfl, fills := rfl, text_ne_empty := by decide, delimiter := rfl }
  have hreplaces : Replaces Services.still.ambient idleSession.context shortening "aaa" "aa" "b" :=
    { kind := rfl, operation := rfl, fills := rfl, text_ne_empty := by decide, find := rfl, new := rfl }
  have hparts : "b".intercalate (Text.split "aa" "aaa") = "ba" := by decide +kernel
  have hcomma : "," ≠ "" := by decide
  have htwo : "aa" ≠ "" := by decide
  refine ⟨?shown, ?joined⟩
  case shown =>
    exact (split_cutsText Services.still "é, a,,b," hcomma).shown rfl _ idleSession listing "parts" hsplits rfl (by simp)
      (by decide)
  case joined =>
    have hreplaced := (split_cutsText Services.still "aaa" htwo).replaced (.new "GET" "/") idleSession shortening "b" hreplaces
    rw [hparts] at hreplaced
    exact hreplaced

end FlowTree.Walk
