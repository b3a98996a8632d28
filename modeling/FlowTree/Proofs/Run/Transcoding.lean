import FlowTree.Proofs.Encoding.Scheme
import FlowTree.Proofs.Run.Failures
import FlowTree.Proofs.Run.Names

/-! # Texts through an encoding and back

A node that encodes a text leaves it under a name. A node that decodes what a template finds under that name,
in the same scheme, has the text again: the encoding is not empty, so it does its work, and the template finds the
encoding alone, as it was left. -/

namespace FlowTree.Walk

/-- The second node decodes, in the same scheme, what the first one leaves of a text under a name. -/
structure Transcodes (a : Ambient) (c : Context) (scheme : Scheme) (text name : String) (first second : Node) :
    Prop where
  encodes : first.kind = "encodeText"
  decodes : second.kind = "decodeText"
  fills : Template.fill a c (first.text "text") = text
  text_ne_empty : text ≠ ""
  writable : scheme.CanWrite text
  encoding : schemeOf? first = some scheme
  decoding : schemeOf? second = some scheme
  named : first.nonEmpty? "referenceVar" = some name
  name_plain : ∀ ch ∈ ['.', '[', ']', '{', '}'], ch ∉ name.toList
  name_unreserved : name ∉ Path.reservedRoots
  reads : second.text "text" = Template.braced name

/-- The value stands under the name, as a local and as a result. -/
def Stands (c : Context) (name : String) (value : Json) : Prop :=
  c.locals.get? name = some value ∧ c.results.get? name = some value

section
variable {v : Services} {a : Ambient} {node first second : Node} {request : Request} {s : Session} {scheme : Scheme}
  {text name : String}

theorem stands_assign (c : Context) (name : String) (value : Json) : Stands (c.assign name value) name value :=
  ⟨Fields.get?_insert_self .., Fields.get?_insert_self ..⟩

/-- A node with a text to work on puts out what it makes of it, and leaves it under its name. -/
theorem onText_of_fill {change : Node → Context → String → Json} (hfill : Template.fill a s.context (node.text "text") = text)
    (hne : text ≠ "") : (Block.onText a change).run node request s =
      (.value (namedOutput (node.nonEmpty? "referenceVar") (change node s.context text)),
        s.modify (·.assignAs (node.nonEmpty? "referenceVar") (change node s.context text))) := by
  have hempty : text.isEmpty = false := by simpa using hne
  simp only [Block.onText, hfill, hempty, Bool.false_eq_true, if_false]

theorem visit_encodeText (hk : node.kind = "encodeText") (v : Services) (request : Request) (s : Session) :
    visit (.standard v) request node s = (Block.encodeText v.ambient).run node request s :=
  visit_of_get? (by simp [Registry.standard, Fields.get?, hk]) (by simp [hk]) request s

theorem visit_decodeText (hk : node.kind = "decodeText") (v : Services) (request : Request) (s : Session) :
    visit (.standard v) request node s = (Block.decodeText v.ambient).run node request s :=
  visit_of_get? (by simp [Registry.standard, Fields.get?, hk]) (by simp [hk]) request s

theorem Transcodes.visit_first (h : Transcodes v.ambient s.context scheme text name first second) (request : Request) :
    visit (.standard v) request first s = (.value (.obj [(name, .str (scheme.encode text))]),
      s.modify (·.assign name (.str (scheme.encode text)))) := by
  rw [visit_encodeText h.encodes, Block.encodeText, onText_of_fill h.fills h.text_ne_empty, h.named, h.encoding]
  rfl

/-- What the second node works on is the encoding. -/
theorem Transcodes.fill_second (h : Transcodes v.ambient s.context scheme text name first second) :
    Template.fill v.ambient (s.context.assign name (.str (scheme.encode text))) (second.text "text") =
      scheme.encode text := by
  rw [h.reads, fill_name (nonEmpty?_spec h.named) h.name_plain h.name_unreserved (stands_assign ..).1]
  rfl

theorem Transcodes.visit_second (h : Transcodes v.ambient s.context scheme text name first second) (request : Request) :
    visit (.standard v) request second (visit (.standard v) request first s).2 =
      (.value (namedOutput (second.nonEmpty? "referenceVar") (.str text)),
        (visit (.standard v) request first s).2.modify
          (·.assignAs (second.nonEmpty? "referenceVar") (.str text))) := by
  have hdecode : ((schemeOf? second).bind (·.decode? (scheme.encode text))).getD (scheme.encode text) = text := by
    rw [h.decoding, Option.bind_some, Scheme.decode?_encode h.writable, Option.getD_some]
  have hfill : Template.fill v.ambient (visit (.standard v) request first s).2.context (second.text "text") =
      scheme.encode text := by
    rw [h.visit_first]
    exact h.fill_second
  rw [visit_decodeText h.decodes, Block.decodeText, onText_of_fill hfill (Scheme.encode_ne_empty h.writable h.text_ne_empty),
    hdecode]

end

/-- Reading undoes writing, in each scheme and from node to node. -/
structure UndoesEncoding (v : Services) : Prop where
  decode?_encode : ∀ (scheme : Scheme) (text : String), scheme ≠ .ascii → scheme.decode? (scheme.encode text) = some text
  decode?_encode_ascii : ∀ text : String, Text.IsAscii text.toList →
    Scheme.ascii.decode? (Scheme.ascii.encode text) = some text
  nodes : ∀ request s scheme text name first second, Transcodes v.ambient s.context scheme text name first second →
    Stands (visit (.standard v) request first s).2.context name (.str (scheme.encode text)) ∧
      ∀ name', second.nonEmpty? "referenceVar" = some name' →
        (visit (.standard v) request second (visit (.standard v) request first s).2).1.output =
          some (.obj [(name', .str text)]) ∧
        Stands (visit (.standard v) request second (visit (.standard v) request first s).2).2.context name' (.str text)

theorem transcoding_undone (v : Services) : UndoesEncoding v where
  decode?_encode scheme text hne := Scheme.decode?_encode fun h => absurd h hne
  decode?_encode_ascii text htext := Scheme.decode?_encode fun _ => htext
  nodes request s scheme text name first second h := by
    refine ⟨?_, fun name' hname' => ?_⟩
    · rw [h.visit_first]
      exact stands_assign ..
    · rw [h.visit_second, hname']
      exact ⟨rfl, stands_assign ..⟩

/-- A text that base64 has to pad, with a character beyond ASCII. -/
def coffee : Node :=
  .mk "one" "encodeText" [("text", .str "café "), ("referenceVar", .str "packed")] [] none

def unpacking : Node :=
  .mk "two" "decodeText" [("text", .str (Template.braced "packed")), ("encoding", .str " base64"),
    ("referenceVar", .str "a.b")] [] none

theorem coffee_unpacked : Stands (visit (.standard .still) (.new "GET" "/") unpacking
    (visit (.standard .still) (.new "GET" "/") coffee
      { context := .new (.ofNode coffee), exchange := { peer := .unreachable } }).2).2.context "a.b" (.str "café ") := by
  have htranscodes : Transcodes Services.still.ambient (.new (.ofNode coffee)) .base64 "café " "packed" coffee unpacking :=
    { encodes := rfl, decodes := rfl, fills := rfl, text_ne_empty := by decide, writable := fun h => absurd h (by decide)
      encoding := rfl, decoding := rfl, named := rfl, name_plain := by simp, name_unreserved := by decide, reads := rfl }
  have hname : unpacking.nonEmpty? "referenceVar" = some "a.b" := by decide +kernel
  exact (((transcoding_undone Services.still).nodes _ _ _ _ _ _ _ htranscodes).2 "a.b" hname).2

end FlowTree.Walk
