import FlowTree.Run.Walk
import FlowTree.Proofs.Run.Visits

/-! # The blocks of the catalogue

What a visit can be when the registry is the catalogue. No block of it decides which child follows, and
only four kinds of nodes answer. All others keep the response as it is. -/

namespace FlowTree

namespace Walk

variable {v : Services} {kind : String} {block : Block}

/-- A kind that the catalogue knows, with its block. -/
theorem standard_cases (h : (Registry.standard v).get? kind = some block) :
    (kind = "condition" ∧ block = .condition v.ambient) ∨
    (kind = "decodeText" ∧ block = .decodeText v.ambient) ∨
    (kind = "encodeText" ∧ block = .encodeText v.ambient) ∨
    (kind = "error" ∧ block = .sendError v.ambient) ∨
    (kind = "generateText" ∧ block = .generateText v) ∨
    (kind = "manipulateImage" ∧ block = .manipulateImage v.ambient) ∨
    (kind = "manipulateText" ∧ block = .manipulateText v.ambient) ∨
    (kind = "request" ∧ block = .request v.ambient) ∨
    (kind = "respond" ∧ block = .respond v.ambient) ∨
    (kind = "sendEmail" ∧ block = .sendEmail v) ∨
    (kind = "sendError" ∧ block = .sendError v.ambient) ∨
    (kind = "sendResponse" ∧ block = .respond v.ambient) ∨
    (kind = "setVar" ∧ block = .setVar v.ambient) ∨
    (kind = "start" ∧ block = .start) := by
  simpa [Registry.standard] using Fields.mem_of_get? h

/-- The catalogue leaves it to the outcomes which children follow. -/
theorem route_standard (h : (Registry.standard v).get? kind = some block) (child : Node) (c : Context) :
    block.route child c = none := by
  rcases standard_cases h with ⟨-, rfl⟩ | ⟨-, rfl⟩ | ⟨-, rfl⟩ | ⟨-, rfl⟩ | ⟨-, rfl⟩ | ⟨-, rfl⟩ | ⟨-, rfl⟩ |
    ⟨-, rfl⟩ | ⟨-, rfl⟩ | ⟨-, rfl⟩ | ⟨-, rfl⟩ | ⟨-, rfl⟩ | ⟨-, rfl⟩ | ⟨-, rfl⟩ <;> rfl

theorem bind_route_standard (v : Services) (parent child : Node) (c : Context) :
    ((Registry.standard v).get? parent.kind).bind (fun block => block.route child c) = none := by
  cases hb : (Registry.standard v).get? parent.kind with
  | none => rfl
  | some block => exact route_standard hb child c

/-! ### Blocks that keep the response -/

@[simp] theorem sent_none : Outcome.none.sent = false := rfl

@[simp] theorem sent_value (output : Json) : (Outcome.value output).sent = false := rfl

@[simp] theorem sent_last (output : Json) : (Outcome.last output).sent = false := rfl

@[simp] theorem response_modify (s : Session) (f : Context → Context) : (s.modify f).response = s.response := rfl

/-- The block neither sends the response nor claims to have sent it. -/
def KeepsResponse (block : Block) : Prop :=
  ∀ node request s, (block.run node request s).2.response = s.response ∧ (block.run node request s).1.sent = false

theorem keepsResponse_condition (a : Ambient) : KeepsResponse (.condition a) := fun _ _ _ => ⟨rfl, rfl⟩

theorem keepsResponse_start : KeepsResponse .start := fun _ _ _ => ⟨rfl, rfl⟩

theorem keepsResponse_setVar (a : Ambient) : KeepsResponse (.setVar a) := fun node _ _ => by
  simp only [Block.setVar]
  split <;> simp

theorem keepsResponse_onText (a : Ambient) (change : Node → Context → String → Json) :
    KeepsResponse (.onText a change) := fun node _ s => by
  simp only [Block.onText]
  split <;> simp

theorem keepsResponse_generateText (v : Services) : KeepsResponse (.generateText v) := fun node _ s => by
  simp only [Block.generateText]
  split
  · simp
  · split <;> simp

theorem keepsResponse_sendEmail (v : Services) : KeepsResponse (.sendEmail v) := fun node _ s => by
  simp only [Block.sendEmail]
  split
  · simp
  · split <;> simp

theorem keepsResponse_manipulateImage (a : Ambient) : KeepsResponse (.manipulateImage a) := fun node _ s => by
  simp only [Block.manipulateImage]
  split
  · simp
  · split <;> simp

theorem keepsResponse_request (a : Ambient) : KeepsResponse (.request a) := fun node _ s => by
  simp only [Block.request, OutboundRequest.fail]
  split
  · simp
  · split
    · simp
    · split
      · simp
      · split <;> simp

/-! ### Nodes that answer -/

/-- The node is of a kind that answers. -/
def Answers (node : Node) : Prop :=
  node.kind ∈ ["respond", "sendResponse", "sendError", "error"]

instance (node : Node) : Decidable (Answers node) :=
  inferInstanceAs (Decidable (node.kind ∈ ["respond", "sendResponse", "sendError", "error"]))

/-- The status and the envelope that a node answers with: those of an error or of a success. -/
def answerOf (a : Ambient) (node : Node) (c : Context) : Nat × Json :=
  if node.kind = "sendError" ∨ node.kind = "error" then
    let status := statusCode a node "code" c 400
    (status, errorEnvelope a status (.ofNat status) (Template.fill a c (node.text "message")))
  else
    let status := statusCode a node "status" c 200
    (status, successEnvelope a node c status)

theorem indexed_response (node : Node) (outcome : Outcome) (s : Session) :
    (indexed node outcome s).response = s.response := by
  unfold indexed
  split
  · split <;> rfl
  · rfl

theorem indexed_of_ne {node : Node} (h : node.kind ≠ "request") (outcome : Outcome) (s : Session) :
    indexed node outcome s = s := by
  unfold indexed
  split
  · rw [if_neg h]
  · rfl

variable {node : Node}

/-- A node that answers has a block, which sends its envelope. -/
theorem visit_of_answers (h : Answers node) (request : Request) (s : Session) :
    visit (.standard v) request node s =
      s.answer (answerOf v.ambient node s.context).1 (answerOf v.ambient node s.context).2 := by
  have hkind : node.kind ≠ "request" := by
    intro hk
    simp [Answers, hk] at h
  have hblock : ∀ block, (Registry.standard v).get? node.kind = some block →
      block.run node request s =
        s.answer (answerOf v.ambient node s.context).1 (answerOf v.ambient node s.context).2 →
      visit (.standard v) request node s =
        s.answer (answerOf v.ambient node s.context).1 (answerOf v.ambient node s.context).2 := by
    intro block hb hrun
    rw [visit_of_some hb, indexed_of_ne hkind, hrun]
  simp only [Answers, List.mem_cons, List.not_mem_nil, or_false] at h
  rcases h with hk | hk | hk | hk
  · refine hblock (.respond v.ambient) (by simp [Registry.standard, Fields.get?, hk]) ?_
    simp [answerOf, hk, Block.respond]
  · refine hblock (.respond v.ambient) (by simp [Registry.standard, Fields.get?, hk]) ?_
    simp [answerOf, hk, Block.respond]
  · refine hblock (.sendError v.ambient) (by simp [Registry.standard, Fields.get?, hk]) ?_
    simp [answerOf, hk, Block.sendError]
  · refine hblock (.sendError v.ambient) (by simp [Registry.standard, Fields.get?, hk]) ?_
    simp [answerOf, hk, Block.sendError]

/-- Every other node keeps the response. -/
theorem visit_of_not_answers (h : ¬Answers node) (request : Request) (s : Session) :
    (visit (.standard v) request node s).2.response = s.response ∧
      (visit (.standard v) request node s).1.sent = false := by
  cases hb : (Registry.standard v).get? node.kind with
  | none =>
    rw [visit_of_none hb]
    exact ⟨rfl, rfl⟩
  | some block =>
    have hkeeps : KeepsResponse block := by
      rcases standard_cases hb with ⟨-, rfl⟩ | ⟨-, rfl⟩ | ⟨-, rfl⟩ | ⟨hk, -⟩ | ⟨-, rfl⟩ | ⟨-, rfl⟩ | ⟨-, rfl⟩ |
        ⟨-, rfl⟩ | ⟨hk, -⟩ | ⟨-, rfl⟩ | ⟨hk, -⟩ | ⟨hk, -⟩ | ⟨-, rfl⟩ | ⟨-, rfl⟩
      · exact keepsResponse_condition _
      · exact keepsResponse_onText _ _
      · exact keepsResponse_onText _ _
      · exact absurd (by simp [Answers, hk]) h
      · exact keepsResponse_generateText _
      · exact keepsResponse_manipulateImage _
      · exact keepsResponse_onText _ _
      · exact keepsResponse_request _
      · exact absurd (by simp [Answers, hk]) h
      · exact keepsResponse_sendEmail _
      · exact absurd (by simp [Answers, hk]) h
      · exact absurd (by simp [Answers, hk]) h
      · exact keepsResponse_setVar _
      · exact keepsResponse_start
    rw [visit_of_some hb]
    exact ⟨(indexed_response ..).trans (hkeeps node request s).1, (hkeeps node request s).2⟩

end Walk
end FlowTree
