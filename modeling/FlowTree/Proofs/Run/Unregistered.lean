import FlowTree.Proofs.Run.Catalogue
import FlowTree.Proofs.Run.Turns

/-! # Nodes of a kind without a block

Such a node does nothing and lets all its children follow. Below any other node than a condition it can
therefore be replaced by its children: the walk of a row of siblings is the walks of its parts, one after
the other (`walkChildren_append`), and a block does not see the children of its node, so that the change
is not noticed further up. -/

namespace FlowTree

namespace Node

def withChildren (n : Node) (children : List Node) : Node :=
  mk n.id n.kind n.data children n.branchLabel

/-- The node with the nodes `new` in place of its child number `i`. -/
def replaceChild (n : Node) (i : Nat) (new : List Node) : Node :=
  n.withChildren (n.children.take i ++ (new ++ n.children.drop (i + 1)))

/-- The tree with the nodes `new` in place of child number `i` of the node at a place. -/
def replaceAt (new : List Node) (i : Nat) : Node → Place → Node
  | node, [] => node.replaceChild i new
  | node, j :: place =>
    match node.children[j]? with
    | some child => node.replaceChild j [child.replaceAt new i place]
    | none => node

section
variable (n : Node) (children : List Node) (key : String)

@[simp] theorem kind_withChildren : (n.withChildren children).kind = n.kind := rfl

@[simp] theorem children_withChildren : (n.withChildren children).children = children := rfl

@[simp] theorem get?_withChildren : (n.withChildren children).get? key = n.get? key := rfl

@[simp] theorem text_withChildren : (n.withChildren children).text key = n.text key := rfl

@[simp] theorem nonEmpty?_withChildren : (n.withChildren children).nonEmpty? key = n.nonEmpty? key := rfl

@[simp] theorem pairs_withChildren : (n.withChildren children).pairs key = n.pairs key := by
  simp only [pairs, get?_withChildren]

@[simp] theorem branch?_withChildren : (n.withChildren children).branch? = n.branch? := by
  cases n
  rfl

theorem withChildren_children : n.withChildren n.children = n := by
  cases n
  rfl

end

/-- Replacing below a node changes its children only. -/
theorem exists_replaceAt_eq (new : List Node) (i : Nat) (n : Node) (place : Place) :
    ∃ children, n.replaceAt new i place = n.withChildren children := by
  cases place with
  | nil => exact ⟨_, rfl⟩
  | cons j place =>
    rw [replaceAt]
    cases n.children[j]? with
    | none => exact ⟨_, n.withChildren_children.symm⟩
    | some child => exact ⟨_, rfl⟩

end Node

namespace Walk

variable {v : Services} {request : Request} {r : Registry} {node parent child u : Node} {outcome : Outcome}
  {i : Nat} {s : Session}

/-! ### Blocks that do not look at children -/

def IgnoresChildren (block : Block) : Prop :=
  ∀ node children request s, block.run (node.withChildren children) request s = block.run node request s

theorem ignoresChildren_condition (a : Ambient) : IgnoresChildren (.condition a) := fun _ _ _ _ => by
  simp only [Block.condition, Condition.decision, Condition.decide?, Node.nonEmpty?_withChildren,
    Node.text_withChildren]

theorem ignoresChildren_start : IgnoresChildren .start := fun _ _ _ _ => rfl

theorem ignoresChildren_setVar (a : Ambient) : IgnoresChildren (.setVar a) := fun _ _ _ _ => by
  simp only [Block.setVar, Node.nonEmpty?_withChildren, Node.text_withChildren]

theorem ignoresChildren_respond (a : Ambient) : IgnoresChildren (.respond a) := fun _ _ _ _ => by
  simp only [Block.respond, statusCode, successEnvelope, payloadOf, Node.nonEmpty?_withChildren,
    Node.pairs_withChildren, Node.text_withChildren]

theorem ignoresChildren_sendError (a : Ambient) : IgnoresChildren (.sendError a) := fun _ _ _ _ => by
  simp only [Block.sendError, statusCode, Node.nonEmpty?_withChildren, Node.text_withChildren]

theorem ignoresChildren_onText (a : Ambient) {change : Node → Context → String → Json}
    (h : ∀ node children c text, change (Node.withChildren node children) c text = change node c text) :
    IgnoresChildren (.onText a change) := fun _ _ _ _ => by
  simp only [Block.onText, h, Node.nonEmpty?_withChildren, Node.text_withChildren]

theorem ignoresChildren_manipulateText (a : Ambient) : IgnoresChildren (.manipulateText a) :=
  ignoresChildren_onText a fun _ _ _ _ => by
    simp only [changeText, Node.nonEmpty?_withChildren, Node.text_withChildren]
    rfl

theorem ignoresChildren_encodeText (a : Ambient) : IgnoresChildren (.encodeText a) :=
  ignoresChildren_onText a fun _ _ _ _ => rfl

theorem ignoresChildren_decodeText (a : Ambient) : IgnoresChildren (.decodeText a) :=
  ignoresChildren_onText a fun _ _ _ _ => rfl

theorem ignoresChildren_manipulateImage (a : Ambient) : IgnoresChildren (.manipulateImage a) := fun _ _ _ _ => by
  simp only [Block.manipulateImage, ManipulateImage.opOf, Node.nonEmpty?_withChildren, Node.text_withChildren]
  rfl

theorem ignoresChildren_generateText (v : Services) : IgnoresChildren (.generateText v) := fun _ _ _ _ => by
  simp only [Block.generateText, GenerateText.temperature, Node.get?_withChildren, Node.nonEmpty?_withChildren,
    Node.text_withChildren]
  rfl

theorem ignoresChildren_sendEmail (v : Services) : IgnoresChildren (.sendEmail v) := fun _ _ _ _ => by
  simp only [Block.sendEmail, SendEmail.Email.ofNode, Node.text_withChildren]
  rfl

theorem ignoresChildren_request (a : Ambient) : IgnoresChildren (.request a) := fun node children request s => by
  have hbody : ∀ method, OutboundRequest.bodyFor? a (node.withChildren children) s.context method =
      OutboundRequest.bodyFor? a node s.context method := fun method => by
    simp only [OutboundRequest.bodyFor?, Node.pairs_withChildren]
  have hheaders : ∀ hasBody, OutboundRequest.headersFor a (node.withChildren children) s.context hasBody =
      OutboundRequest.headersFor a node s.context hasBody := fun hasBody => by
    simp only [OutboundRequest.headersFor, Node.pairs_withChildren]
  simp only [Block.request, hbody, hheaders, Node.nonEmpty?_withChildren]

theorem visit_withChildren (v : Services) (request : Request) (node : Node) (children : List Node) (s : Session) :
    visit (.standard v) request (node.withChildren children) s = visit (.standard v) request node s := by
  have hkind := node.kind_withChildren children
  cases hb : (Registry.standard v).get? node.kind with
  | none => rw [visit_of_none hb, visit_of_none (hkind ▸ hb)]
  | some block =>
    have hignores : IgnoresChildren block := by
      rcases standard_cases hb with ⟨-, rfl⟩ | ⟨-, rfl⟩ | ⟨-, rfl⟩ | ⟨-, rfl⟩ | ⟨-, rfl⟩ | ⟨-, rfl⟩ | ⟨-, rfl⟩ |
        ⟨-, rfl⟩ | ⟨-, rfl⟩ | ⟨-, rfl⟩ | ⟨-, rfl⟩ | ⟨-, rfl⟩ | ⟨-, rfl⟩ | ⟨-, rfl⟩
      · exact ignoresChildren_condition _
      · exact ignoresChildren_decodeText _
      · exact ignoresChildren_encodeText _
      · exact ignoresChildren_sendError _
      · exact ignoresChildren_generateText _
      · exact ignoresChildren_manipulateImage _
      · exact ignoresChildren_manipulateText _
      · exact ignoresChildren_request _
      · exact ignoresChildren_respond _
      · exact ignoresChildren_sendEmail _
      · exact ignoresChildren_sendError _
      · exact ignoresChildren_respond _
      · exact ignoresChildren_setVar _
      · exact ignoresChildren_start
    rw [visit_of_some hb, visit_of_some (hkind ▸ hb), hignores]
    rfl

/-! ### Blocks that take no branch -/

def Branchless (block : Block) : Prop :=
  ∀ node request s, (block.run node request s).1.branch = none

theorem branchless_start : Branchless .start := fun _ _ _ => rfl

theorem branchless_setVar (a : Ambient) : Branchless (.setVar a) := fun node _ _ => by
  simp only [Block.setVar]
  split <;> rfl

theorem branchless_respond (a : Ambient) : Branchless (.respond a) := fun _ _ _ => by
  simp only [Block.respond, Session.answer, Outcome.value]

theorem branchless_sendError (a : Ambient) : Branchless (.sendError a) := fun _ _ _ => by
  simp only [Block.sendError, Session.answer, Outcome.value]

theorem branchless_onText (a : Ambient) (change : Node → Context → String → Json) :
    Branchless (.onText a change) := fun _ _ _ => by
  simp only [Block.onText]
  split <;> rfl

theorem branchless_generateText (v : Services) : Branchless (.generateText v) := fun _ _ _ => by
  simp only [Block.generateText]
  split
  · rfl
  · split <;> rfl

theorem branchless_sendEmail (v : Services) : Branchless (.sendEmail v) := fun _ _ _ => by
  simp only [Block.sendEmail]
  split
  · rfl
  · split <;> rfl

theorem branchless_manipulateImage (a : Ambient) : Branchless (.manipulateImage a) := fun _ _ _ => by
  simp only [Block.manipulateImage]
  split
  · rfl
  · split <;> rfl

theorem branchless_request (a : Ambient) : Branchless (.request a) := fun _ _ _ => by
  simp only [Block.request, OutboundRequest.fail]
  split
  · rfl
  · split
    · rfl
    · split <;> rfl

theorem branch_visit (hk : node.kind ≠ "condition") (request : Request) (s : Session) :
    (visit (.standard v) request node s).1.branch = none := by
  cases hb : (Registry.standard v).get? node.kind with
  | none =>
    rw [visit_of_none hb]
    rfl
  | some block =>
    have hbranchless : Branchless block := by
      rcases standard_cases hb with ⟨hc, -⟩ | ⟨-, rfl⟩ | ⟨-, rfl⟩ | ⟨-, rfl⟩ | ⟨-, rfl⟩ | ⟨-, rfl⟩ | ⟨-, rfl⟩ |
        ⟨-, rfl⟩ | ⟨-, rfl⟩ | ⟨-, rfl⟩ | ⟨-, rfl⟩ | ⟨-, rfl⟩ | ⟨-, rfl⟩ | ⟨-, rfl⟩
      · exact absurd hc hk
      · exact branchless_onText _ _
      · exact branchless_onText _ _
      · exact branchless_sendError _
      · exact branchless_generateText _
      · exact branchless_manipulateImage _
      · exact branchless_onText _ _
      · exact branchless_request _
      · exact branchless_respond _
      · exact branchless_sendEmail _
      · exact branchless_sendError _
      · exact branchless_respond _
      · exact branchless_setVar _
      · exact branchless_start
    rw [visit_of_some hb]
    exact hbranchless node request s

/-! ### Which children follow -/

theorem selected_of_branch (hk : parent.kind ≠ "condition") (hbranch : outcome.branch = none) (child : Node)
    (c : Context) : Selected (.standard v) parent outcome child c := by
  rw [Selected, bind_route_standard]
  exact Or.inr (Or.inr ⟨hbranch, hk⟩)

theorem follows_withChildren (v : Services) (parent : Node) (outcome : Outcome) (child : Node) (children : List Node)
    (c : Context) : follows (.standard v) parent outcome (child.withChildren children) c =
      follows (.standard v) parent outcome child c := by
  simp only [follows, bind_route_standard, Node.branch?_withChildren]

theorem kind_ne_condition (hu : (Registry.standard v).get? u.kind = none) : u.kind ≠ "condition" := by
  intro hk
  simp [Registry.standard, Fields.get?, hk] at hu

/-! ### Rows of siblings -/

theorem walkChildren_append (r : Registry) (request : Request) (parent : Node) (outcome : Outcome)
    (row more : List Node) (s : Session) : walkChildren r request parent outcome (row ++ more) s =
      ((walkChildren r request parent outcome row s).1 ++
        (walkChildren r request parent outcome more (walkChildren r request parent outcome row s).2).1,
       (walkChildren r request parent outcome more (walkChildren r request parent outcome row s).2).2) := by
  induction row generalizing s with
  | nil => simp [walkChildren]
  | cons child row ih =>
    rw [List.cons_append, walkChildren, walkChildren]
    split
    · simp only [ih, List.append_assoc]
    · exact ih s

theorem walkChildren_singleton (h : follows r parent outcome child s.context = true) :
    walkChildren r request parent outcome [child] s = walk r request child s := by
  rw [walkChildren, if_pos h]
  simp [walkChildren]

/-- A parent matters to the walk of its children by its choice of those that follow. -/
theorem walkChildren_parent {parent' : Node} {outcome' : Outcome}
    (h : ∀ child c, follows r parent outcome child c = follows r parent' outcome' child c) (row : List Node)
    (s : Session) : walkChildren r request parent outcome row s = walkChildren r request parent' outcome' row s := by
  induction row generalizing s with
  | nil => rw [walkChildren, walkChildren]
  | cons child row ih =>
    rw [walkChildren, walkChildren, h]
    simp only [ih]

theorem walk_of_unregistered (hu : (Registry.standard v).get? u.kind = none) (request : Request) (s : Session) :
    walk (.standard v) request u s = walkChildren (.standard v) request u .none u.children s := by
  rw [walk_eq_mk, visit_of_none hu]
  simp [Outcome.none, Outcome.continues]

/-! ### Replacing children -/

/-- A child may be replaced by a row whose walk is the same. -/
theorem walk_replaceChild {new : List Node} (hi : node.children[i]? = some child)
    (h : ∀ t, walkChildren (.standard v) request node (visit (.standard v) request node s).1 new t =
      walkChildren (.standard v) request node (visit (.standard v) request node s).1 [child] t) :
    walk (.standard v) request (node.replaceChild i new) s = walk (.standard v) request node s := by
  have hchildren : node.children = node.children.take i ++ ([child] ++ node.children.drop (i + 1)) := by
    obtain ⟨hlt, hget⟩ := List.getElem?_eq_some_iff.mp hi
    rw [List.singleton_append, ← hget, List.getElem_cons_drop, List.take_append_drop]
  have hparent : ∀ outcome child c, follows (.standard v) (node.replaceChild i new) outcome child c =
      follows (.standard v) node outcome child c := fun _ _ _ => rfl
  have hrow : ∀ t, walkChildren (.standard v) request (node.replaceChild i new) (visit (.standard v) request node s).1
      (node.replaceChild i new).children t =
      walkChildren (.standard v) request node (visit (.standard v) request node s).1 node.children t := by
    intro t
    calc walkChildren (.standard v) request (node.replaceChild i new) (visit (.standard v) request node s).1
          (node.replaceChild i new).children t
        = walkChildren (.standard v) request node (visit (.standard v) request node s).1
            (node.children.take i ++ (new ++ node.children.drop (i + 1))) t := walkChildren_parent (hparent _) _ t
      _ = walkChildren (.standard v) request node (visit (.standard v) request node s).1
            (node.children.take i ++ ([child] ++ node.children.drop (i + 1))) t := by
          simp only [walkChildren_append, h]
      _ = _ := by rw [← hchildren]
  have hvisit : visit (.standard v) request (node.replaceChild i new) s = visit (.standard v) request node s :=
    visit_withChildren ..
  rw [walk_eq_mk, walk_eq_mk, hvisit, hrow]

/-- A child without a block may be replaced by its children. -/
theorem walk_splice (hk : parent.kind ≠ "condition") (hi : parent.children[i]? = some u)
    (hu : (Registry.standard v).get? u.kind = none) (request : Request) (s : Session) :
    walk (.standard v) request (parent.replaceChild i u.children) s = walk (.standard v) request parent s := by
  refine walk_replaceChild hi fun t => ?_
  have hbranch : (visit (.standard v) request parent s).1.branch = none := branch_visit hk request s
  have hall : ∀ child c, follows (.standard v) parent (visit (.standard v) request parent s).1 child c = true :=
    fun child c => follows_iff.mpr (selected_of_branch hk hbranch child c)
  -- Below both nodes every child follows, so that it does not matter whose children they are.
  have hbelow : ∀ child c, follows (.standard v) u .none child c = true :=
    fun child c => follows_iff.mpr (selected_of_branch (kind_ne_condition hu) rfl child c)
  rw [walkChildren_singleton (hall ..), walk_of_unregistered hu]
  exact walkChildren_parent (fun child c => (hall child c).trans (hbelow child c).symm) _ t

variable {root : Node} {q : Place}

/-- Wherever it stands, as long as its parent is no condition. -/
theorem walk_replaceAt (hparent : root.at? q = some parent) (hk : parent.kind ≠ "condition")
    (hi : parent.children[i]? = some u) (hu : (Registry.standard v).get? u.kind = none) (request : Request)
    (s : Session) :
    walk (.standard v) request (root.replaceAt u.children i q) s = walk (.standard v) request root s := by
  induction q generalizing root s with
  | nil =>
    obtain rfl : root = parent := by simpa using hparent
    exact walk_splice hk hi hu request s
  | cons j q ih =>
    rw [Node.at?_cons] at hparent
    obtain ⟨child, hj, hparent⟩ := Option.bind_eq_some_iff.mp hparent
    -- The child on the way is walked alike in its new form, and follows when it did.
    rw [Node.replaceAt, hj]
    refine walk_replaceChild hj fun t => ?_
    obtain ⟨children, hnew⟩ := child.exists_replaceAt_eq u.children i q
    rw [walkChildren.eq_2, walkChildren.eq_2, hnew, follows_withChildren, ← hnew, ih hparent]

/-! ### Visits -/

theorem branch_of_mem_visited {w : Visit} (hw : w ∈ visited (.standard v) request root s)
    (hk : w.node.kind ≠ "condition") : w.outcome.branch = none := by
  have hall : ∀ w ∈ visited (.standard v) request root s, w.node.kind ≠ "condition" → w.outcome.branch = none :=
    (threaded_visited root s).forall_mem fun place node s hk => branch_visit hk request s
  exact hall w hw hk

/-- Below a node that is no condition all children are visited, or none. -/
theorem visitedAt_child_of_kind (hparent : root.at? q = some parent) (hchild : parent.children[i]? = some child)
    (hk : parent.kind ≠ "condition") : VisitedAt (visited (.standard v) request root s) (q ++ [i]) ↔
      ∃ w ∈ visited (.standard v) request root s, w.place = q ∧ w.outcome.continues = true := by
  rw [visitedAt_child_iff hparent hchild]
  constructor
  · rintro ⟨w, hw, hplace, hcontinues, -⟩
    exact ⟨w, hw, hplace, hcontinues⟩
  · rintro ⟨w, hw, rfl, hcontinues⟩
    obtain rfl : w.node = parent := Option.some.inj ((at?_of_mem_visited hw).symm.trans hparent)
    exact ⟨w, hw, rfl, hcontinues, selected_of_branch hk (branch_of_mem_visited hw hk) child _⟩

/-- What a node without a block, child number `i` of the node `parent` at `q`, means to a run with the visits
    `log`: nothing. -/
structure Transparent (v : Services) (request : Request) (s : Session) (root : Node) (q : Place) (parent : Node)
    (i : Nat) (u : Node) (log : List Visit) : Prop where
  /-- With its children in its place the outputs, the context, the response and the requests are the same. -/
  replaced : runFlow (.standard v) request (some (root.replaceAt u.children i q)) s =
    runFlow (.standard v) request (some root) s
  deleted : u.children = [] →
    runFlow (.standard v) request (some (root.replaceAt [] i q)) s = runFlow (.standard v) request (some root) s
  idle : ∀ w ∈ log, w.place = q ++ [i] → w.node = u ∧ w.outcome = .none ∧ w.after = w.before
  reached : VisitedAt log (q ++ [i]) ↔ ∃ w ∈ log, w.place = q ∧ w.outcome.continues = true
  siblings : ∀ j sibling, parent.children[j]? = some sibling → (VisitedAt log (q ++ [j]) ↔ VisitedAt log (q ++ [i]))
  subtree : ∀ k child, u.children[k]? = some child → (VisitedAt log (q ++ [i] ++ [k]) ↔ VisitedAt log (q ++ [i]))

theorem transparent_of_unregistered (v : Services) (request : Request) (s : Session) (root parent u : Node) (q : Place)
    (i : Nat) (hparent : root.at? q = some parent) (hk : parent.kind ≠ "condition")
    (hi : parent.children[i]? = some u) (hu : (Registry.standard v).get? u.kind = none) :
    Transparent v request s root q parent i u
      (visited (.standard v) request root (s.modify (·.receive request))) := by
  have hat : root.at? (q ++ [i]) = some u := by simp [Node.at?_append, hparent, Node.at?_cons, hi]
  have hreplaced : runFlow (.standard v) request (some (root.replaceAt u.children i q)) s =
      runFlow (.standard v) request (some root) s := walk_replaceAt hparent hk hi hu request _
  have hidle : ∀ w ∈ visited (.standard v) request root (s.modify (·.receive request)), w.place = q ++ [i] →
      w.node = u ∧ w.outcome = .none ∧ w.after = w.before := by
    intro w hw hplace
    obtain rfl : w.node = u := Option.some.inj ((at?_of_mem_visited hw).symm.trans (hplace ▸ hat))
    have hdone := (threaded_visited root _).doneByBlock w hw
    rw [DoneByBlock, hu] at hdone
    exact ⟨rfl, hdone⟩
  constructor
  case replaced => exact hreplaced
  case deleted => exact fun hleaf => hleaf ▸ hreplaced
  case idle => exact hidle
  case reached => exact visitedAt_child_of_kind hparent hi hk
  case siblings =>
    intro j sibling hj
    rw [visitedAt_child_of_kind hparent hj hk, visitedAt_child_of_kind hparent hi hk]
  case subtree =>
    intro k child hchild
    rw [visitedAt_child_of_kind hat hchild (kind_ne_condition hu)]
    constructor
    · rintro ⟨w, hw, hplace, -⟩
      exact ⟨w, hw, hplace⟩
    · rintro ⟨w, hw, hplace⟩
      obtain ⟨-, houtcome, -⟩ := hidle w hw hplace
      exact ⟨w, hw, hplace, by rw [houtcome]; rfl⟩

/-- A note, with a node below it, between two nodes that set variables. -/
def annotated : Node :=
  .mk "start" "start" []
    [.mk "first" "setVar" [("name", .str "a")]
      [.mk "second" "setVar" [("name", .str "b")] [] none,
        .mk "note" "comment" [] [.mk "below" "setVar" [("name", .str "c")] [] none] none,
        .mk "third" "setVar" [("name", .str "d")] [] none]
      none]
    none

def annotatedSession : Session :=
  { context := .new (.ofNode annotated), exchange := { peer := .unreachable } }

theorem annotated_transparent : ∃ parent u, annotated.at? [0] = some parent ∧ parent.kind ≠ "condition" ∧
    parent.children[1]? = some u ∧ (Registry.standard .still).get? u.kind = none ∧
    Transparent Services.still (.new "GET" "/") annotatedSession annotated [0] parent 1 u
      (visited (.standard .still) (.new "GET" "/") annotated
        (annotatedSession.modify (·.receive (.new "GET" "/")))) := by
  have hu : (Registry.standard .still).get? "comment" = none := by simp [Registry.standard, Fields.get?]
  exact ⟨_, _, rfl, by decide, rfl, hu, transparent_of_unregistered _ _ _ _ _ _ _ _ rfl (by decide) rfl hu⟩

end Walk
end FlowTree
