import FlowTree.Proofs.Run.Catalogue

/-! # What a visit does to the context

Under the catalogue a visit changes the context in one of nine ways (`Effect`): each block is opened once,
here, and what a run keeps or writes is a case analysis over them. A node that produces a value and has a
name for it writes the value under that name, and its output tells both. -/

namespace FlowTree

/-- The kinds of nodes that name their value by `referenceVar`. -/
def referenceKinds : List String :=
  ["decodeText", "encodeText", "generateText", "manipulateImage", "manipulateText"]

/-- The name that a node gives to the value it produces. -/
def Node.assigns? (node : Node) : Option String :=
  if node.kind = "setVar" then node.nonEmpty? "name"
  else if node.kind ∈ referenceKinds then node.nonEmpty? "referenceVar"
  else none

namespace Walk

/-- The node leaves no value under a name: it has no name to give, or it produces none. -/
def LeavesNothing (node : Node) (output : Option Json) : Prop :=
  output = none ∨ (node.assigns? = none ∧ node.kind ≠ "request")

/-- What a visit of the node can make of the context, by its output. -/
inductive Effect (node : Node) (c : Context) : Option Json → Context → Prop where
  | keep {output : Option Json} (h : LeavesNothing node output) : Effect node c output c
  | fail {output : Option Json} (e : ServiceError) (h : LeavesNothing node output) : Effect node c output (c.recordError e)
  | decision (hk : node.kind = "condition") (decision : Bool) : Effect node c none (c.recordDecision decision)
  | publish (hk : node.kind = "start") (endpoint : Json) : Effect node c none (c.setEndpoint endpoint)
  | setLocal {name : String} (hk : node.kind = "setVar") (hname : node.assigns? = some name) (value : Json) :
      Effect node c (some (.obj [(name, value)])) (c.setLocal name value)
  | assign {name : String} (hk : node.kind ∈ referenceKinds) (hname : node.assigns? = some name) (value : Json) :
      Effect node c (some (.obj [(name, value)])) (c.assign name value)
  | failAssign {name : String} (hk : node.kind ∈ referenceKinds) (hname : node.assigns? = some name) (e : ServiceError)
      (value : Json) : Effect node c (some (.obj [(name, value)])) ((c.recordError e).assign name value)
  | index (hk : node.kind = "request") (output : Json) : Effect node c (some output) (c.indexResult node output)
  | failIndex (hk : node.kind = "request") (e : ServiceError) (output : Json) :
      Effect node c (some output) ((c.recordError e).indexResult node output)

variable {v : Services} {node : Node} {c d : Context} {output : Option Json} {request : Request} {s : Session}

/-! ### The name of a node -/

theorem ne_of_reference {kind : String} (hk : node.kind ∈ referenceKinds) (h : kind ∉ referenceKinds) : node.kind ≠ kind :=
  fun heq => h (heq ▸ hk)

theorem assigns?_of_setVar (hk : node.kind = "setVar") : node.assigns? = node.nonEmpty? "name" := if_pos hk

theorem assigns?_of_reference (hk : node.kind ∈ referenceKinds) : node.assigns? = node.nonEmpty? "referenceVar" := by
  rw [Node.assigns?, if_neg (ne_of_reference hk (by decide)), if_pos hk]

theorem assigns?_of_request (hk : node.kind = "request") : node.assigns? = none := by
  rw [Node.assigns?, if_neg (by simp [hk]), if_neg (by simp [hk, referenceKinds])]

theorem leavesNothing_of_kind (hk : node.kind ∉ "setVar" :: "request" :: referenceKinds) (output : Option Json) :
    LeavesNothing node output := by
  simp only [List.mem_cons, not_or] at hk
  refine Or.inr ⟨?_, hk.2.1⟩
  rw [Node.assigns?, if_neg hk.1, if_neg hk.2.2]

theorem leavesNothing_of_reference (hk : node.kind ∈ referenceKinds) (hname : node.nonEmpty? "referenceVar" = none)
    (output : Option Json) : LeavesNothing node output :=
  Or.inr ⟨by rw [assigns?_of_reference hk, hname], ne_of_reference hk (by decide)⟩

/-! ### The blocks -/

/-- The block does one of the nine things at the node, before the result of a request is indexed. -/
def HasEffect (block : Block) (node : Node) : Prop :=
  ∀ request s, Effect node s.context (block.run node request s).1.output (block.run node request s).2.context

theorem hasEffect_condition (a : Ambient) (hk : node.kind = "condition") : HasEffect (.condition a) node :=
  fun _ _ => .decision hk _

theorem hasEffect_start (hk : node.kind = "start") : HasEffect .start node := fun _ _ => .publish hk _

theorem hasEffect_setVar (a : Ambient) (hk : node.kind = "setVar") : HasEffect (.setVar a) node := fun _ s => by
  simp only [Block.setVar]
  split
  next => exact .keep (Or.inl rfl)
  next name hname => exact .setLocal hk ((assigns?_of_setVar hk).trans hname) _

theorem hasEffect_onText (a : Ambient) (change : Node → Context → String → Json) (hk : node.kind ∈ referenceKinds) :
    HasEffect (.onText a change) node := fun _ s => by
  simp only [Block.onText]
  split
  next => exact .keep (Or.inl rfl)
  next =>
    cases hname : node.nonEmpty? "referenceVar" with
    | none => exact .keep (leavesNothing_of_reference hk hname _)
    | some name => exact .assign hk ((assigns?_of_reference hk).trans hname) _

theorem hasEffect_generateText (v : Services) (hk : node.kind ∈ referenceKinds) : HasEffect (.generateText v) node :=
  fun _ s => by
    simp only [Block.generateText]
    split
    next => exact .keep (Or.inl rfl)
    next =>
      cases hname : node.nonEmpty? "referenceVar" with
      | none =>
        split
        next => exact .keep (leavesNothing_of_reference hk hname _)
        next => exact .fail _ (leavesNothing_of_reference hk hname _)
      | some name =>
        have hassigns : node.assigns? = some name := (assigns?_of_reference hk).trans hname
        split
        next => exact .assign hk hassigns _
        next => exact .failAssign hk hassigns _ _

theorem hasEffect_manipulateImage (a : Ambient) (hk : node.kind ∈ referenceKinds) : HasEffect (.manipulateImage a) node :=
  fun _ s => by
    simp only [Block.manipulateImage]
    split
    next => exact .keep (Or.inl rfl)
    next =>
      cases hname : node.nonEmpty? "referenceVar" with
      | none =>
        split
        next => exact .keep (leavesNothing_of_reference hk hname _)
        next => exact .fail _ (Or.inl rfl)
      | some name =>
        split
        next => exact .assign hk ((assigns?_of_reference hk).trans hname) _
        next => exact .fail _ (Or.inl rfl)

theorem hasEffect_sendEmail (v : Services) (hk : node.kind ∉ "setVar" :: "request" :: referenceKinds) :
    HasEffect (.sendEmail v) node := fun _ s => by
  simp only [Block.sendEmail]
  split
  next => exact .keep (Or.inl rfl)
  next =>
    split
    next => exact .keep (leavesNothing_of_kind hk _)
    next => exact .fail _ (leavesNothing_of_kind hk _)

/-- A request may record a failure. Its result is indexed afterwards. -/
theorem request_run (a : Ambient) (node : Node) (request : Request) (s : Session) :
    (((Block.request a).run node request s).1.output = none ∧ ((Block.request a).run node request s).2.context = s.context) ∨
    ∃ result, ((Block.request a).run node request s).1.output = some result ∧
      (((Block.request a).run node request s).2.context = s.context ∨
        ∃ e, ((Block.request a).run node request s).2.context = s.context.recordError e) := by
  simp only [Block.request, OutboundRequest.fail]
  split
  next => exact Or.inl ⟨rfl, rfl⟩
  next =>
    refine Or.inr ?_
    split
    next => exact ⟨_, rfl, Or.inr ⟨_, rfl⟩⟩
    next =>
      split
      next => exact ⟨_, rfl, Or.inr ⟨_, rfl⟩⟩
      next =>
        refine ⟨_, rfl, ?_⟩
        split
        next => exact Or.inl rfl
        next => exact Or.inr ⟨_, rfl⟩

/-! ### Visits -/

theorem effect_of_hasEffect {block : Block} (hb : (Registry.standard v).get? node.kind = some block)
    (hk : node.kind ≠ "request") (h : HasEffect block node) :
    Effect node s.context (visit (.standard v) request node s).1.output (visit (.standard v) request node s).2.context := by
  rw [visit_of_some hb, indexed_of_ne hk]
  exact h request s

theorem effect_of_request {a : Ambient} (hb : (Registry.standard v).get? node.kind = some (.request a))
    (hk : node.kind = "request") :
    Effect node s.context (visit (.standard v) request node s).1.output (visit (.standard v) request node s).2.context := by
  rw [visit_of_some hb]
  rcases request_run a node request s with ⟨hnone, hcontext⟩ | ⟨result, hsome, hcontext⟩
  · simp only [indexed, hnone, hcontext]
    exact .keep (Or.inl rfl)
  · simp only [indexed, hsome, if_pos hk, Session.modify]
    rcases hcontext with hcontext | ⟨e, hcontext⟩
    · rw [hcontext]
      exact .index hk result
    · rw [hcontext]
      exact .failIndex hk e result

theorem effect_of_answers (h : Answers node) :
    Effect node s.context (visit (.standard v) request node s).1.output (visit (.standard v) request node s).2.context := by
  have hcontext : (visit (.standard v) request node s).2.context = s.context := by
    rw [visit_of_answers h]
    simp only [Session.answer, Session.send]
    split <;> rfl
  rw [hcontext]
  refine .keep (leavesNothing_of_kind ?_ _)
  simp only [Answers, List.mem_cons, List.not_mem_nil, or_false] at h
  rcases h with hk | hk | hk | hk <;> rw [hk] <;> decide

theorem effect_visit (v : Services) (request : Request) (node : Node) (s : Session) :
    Effect node s.context (visit (.standard v) request node s).1.output (visit (.standard v) request node s).2.context := by
  by_cases ha : Answers node
  · exact effect_of_answers ha
  cases hb : (Registry.standard v).get? node.kind with
  | none =>
    rw [visit_of_none hb]
    exact .keep (Or.inl rfl)
  | some block =>
    rcases standard_cases hb with ⟨hk, rfl⟩ | ⟨hk, rfl⟩ | ⟨hk, rfl⟩ | ⟨hk, -⟩ | ⟨hk, rfl⟩ | ⟨hk, rfl⟩ | ⟨hk, rfl⟩ |
      ⟨hk, rfl⟩ | ⟨hk, -⟩ | ⟨hk, rfl⟩ | ⟨hk, -⟩ | ⟨hk, -⟩ | ⟨hk, rfl⟩ | ⟨hk, rfl⟩
    · exact effect_of_hasEffect hb (by simp [hk]) (hasEffect_condition _ hk)
    · exact effect_of_hasEffect hb (by simp [hk]) (hasEffect_onText _ _ (by simp [hk, referenceKinds]))
    · exact effect_of_hasEffect hb (by simp [hk]) (hasEffect_onText _ _ (by simp [hk, referenceKinds]))
    · exact absurd (by simp [Answers, hk]) ha
    · exact effect_of_hasEffect hb (by simp [hk]) (hasEffect_generateText _ (by simp [hk, referenceKinds]))
    · exact effect_of_hasEffect hb (by simp [hk]) (hasEffect_manipulateImage _ (by simp [hk, referenceKinds]))
    · exact effect_of_hasEffect hb (by simp [hk]) (hasEffect_onText _ _ (by simp [hk, referenceKinds]))
    · exact effect_of_request hb hk
    · exact absurd (by simp [Answers, hk]) ha
    · exact effect_of_hasEffect hb (by simp [hk]) (hasEffect_sendEmail _ (by simp [hk, referenceKinds]))
    · exact absurd (by simp [Answers, hk]) ha
    · exact absurd (by simp [Answers, hk]) ha
    · exact effect_of_hasEffect hb (by simp [hk]) (hasEffect_setVar _ hk)
    · exact effect_of_hasEffect hb (by simp [hk]) (hasEffect_start hk)

/-! ### Runs -/

/-- The visits turn the context `c` into `d`, each by an effect of its node. -/
def Effects : Context → List Visit → Context → Prop
  | c, [], d => d = c
  | c, u :: log, d =>
    (u.before.context = c ∧ Effect u.node c u.outcome.output u.after.context) ∧ Effects u.after.context log d

variable {e : Context} {t : Session} {log more : List Visit}

theorem Threaded.effects (h : Threaded (.standard v) request s log t) : Effects s.context log t.context := by
  induction log generalizing s with
  | nil => exact congrArg Session.context h
  | cons u log ih =>
    refine ⟨?_, ih h.2⟩
    rw [h.1]
    exact ⟨rfl, effect_visit ..⟩

theorem Effects.append (h : Effects c log d) (h' : Effects d more e) : Effects c (log ++ more) e := by
  induction log generalizing c with
  | nil =>
    obtain rfl : d = c := h
    exact h'
  | cons u log ih => exact ⟨h.1, ih h.2⟩

theorem Effects.of_append (h : Effects c (log ++ more) e) : ∃ d, Effects c log d ∧ Effects d more e := by
  induction log generalizing c with
  | nil => exact ⟨c, rfl, h⟩
  | cons u log ih =>
    obtain ⟨d, hd, hmore⟩ := ih h.2
    exact ⟨d, ⟨h.1, hd⟩, hmore⟩

/-- What comes before a visit leads to the context in which it begins. -/
theorem Effects.before {u : Visit} (h : Effects c (log ++ u :: more) d) : Effects c log u.before.context := by
  obtain ⟨_, hlog, ⟨rfl, -⟩, -⟩ := h.of_append
  exact hlog

theorem Effects.forall_mem (h : Effects c log d) :
    ∀ u ∈ log, Effect u.node u.before.context u.outcome.output u.after.context := by
  induction log generalizing c with
  | nil => simp
  | cons u log ih =>
    obtain ⟨⟨rfl, heffect⟩, hrest⟩ := h
    intro w hw
    rcases List.mem_cons.mp hw with rfl | hw
    · exact heffect
    · exact ih hrest w hw

/-- What every effect keeps holds of all contexts of a run. -/
theorem Effects.keeps {P : Context → Prop} (hstep : ∀ {node c output d}, Effect node c output d → P c → P d)
    (h : Effects c log d) (hc : P c) : P d ∧ ∀ u ∈ log, P u.before.context ∧ P u.after.context := by
  induction log generalizing c with
  | nil =>
    obtain rfl : d = c := h
    exact ⟨hc, by simp⟩
  | cons u log ih =>
    obtain ⟨⟨hbefore, heffect⟩, hrest⟩ := h
    have hafter := hstep heffect hc
    obtain ⟨hd, hlog⟩ := ih hrest hafter
    refine ⟨hd, fun w hw => ?_⟩
    rcases List.mem_cons.mp hw with rfl | hw
    · exact ⟨hbefore ▸ hc, hafter⟩
    · exact hlog w hw

/-- A name of the context has the value that the last visit to write it gave, or else the one from before. -/
theorem Effects.get?_eq (get : Context → Fields Json) {n : String} {value? : Visit → Option Json}
    (hstep : ∀ u, Effect u.node u.before.context u.outcome.output u.after.context →
      (get u.after.context).get? n = (value? u).or ((get u.before.context).get? n))
    (h : Effects c log d) : (get d).get? n = (log.reverse.findSome? value?).or ((get c).get? n) := by
  induction log generalizing c with
  | nil =>
    obtain rfl : d = c := h
    simp
  | cons u log ih =>
    obtain ⟨⟨rfl, heffect⟩, hrest⟩ := h
    rw [ih hrest, hstep u heffect, List.reverse_cons, List.findSome?_append, Option.or_assoc]
    simp

end Walk
end FlowTree
