import FlowTree.Proofs.Run.Response

/-! # Envelopes

Every envelope is an object that tells whether it is one of success, and with which status it is sent. The fields of
a flow come in between, but not under the names that say this. Whatever text a flow gives as its status, what comes
out is a status from 100 to 599: a text that is none leaves the fallback. -/

namespace FlowTree

variable {a : Ambient} {node : Node} {c : Context} {key name : String} {status : Nat}

/-! ### Statuses -/

/-- A status that an answer can have. -/
def IsStatus (status : Nat) : Prop :=
  100 ≤ status ∧ status ≤ 599

theorem isStatus_of_statusCode? {text : String} (h : statusCode? text = some status) : IsStatus status := by
  unfold statusCode? at h
  obtain ⟨f, -, h⟩ := Option.bind_eq_some_iff.mp h
  obtain ⟨d, -, h⟩ := Option.bind_eq_some_iff.mp h
  rw [Option.ite_none_right_eq_some] at h
  obtain ⟨⟨-, hlow, hhigh⟩, hstatus⟩ := h
  obtain rfl : d.toInt.toNat = status := Option.some.inj hstatus
  constructor <;> omega

theorem isStatus_statusCode {fallback : Nat} (hfallback : IsStatus fallback) :
    IsStatus (statusCode a node key c fallback) := by
  unfold statusCode
  cases hgiven : (node.nonEmpty? key).bind fun text => statusCode? (Template.fill a c text) with
  | none => exact hfallback
  | some status =>
    obtain ⟨text, -, hstatus⟩ := Option.bind_eq_some_iff.mp hgiven
    exact isStatus_of_statusCode? hstatus

/-! ### What an envelope tells -/

/-- An object that tells of success or failure, and the status. -/
def Tells (envelope : Json) (success : Bool) (status : Nat) : Prop :=
  ∃ fields, envelope = .obj fields ∧ Fields.get? fields "success" = some (.bool success) ∧
    Fields.get? fields "status" = some (.ofNat status)

theorem errorEnvelope_tells (a : Ambient) (status : Nat) (code : Json) (message : String) :
    Tells (errorEnvelope a status code message) false status :=
  ⟨_, rfl, rfl, rfl⟩

theorem not_reserved_of_mem_payloadOf {field : String × String} (h : field ∈ payloadOf a node c) :
    field.1 ∉ reservedNames := by
  unfold payloadOf at h
  split at h
  next =>
    obtain rfl := List.mem_singleton.mp h
    show "message" ∉ reservedNames
    decide
  next =>
    obtain ⟨⟨name, template⟩, hmem, rfl⟩ := List.mem_map.mp h
    simpa using (List.mem_filter.mp hmem).2

/-- The fields that an envelope begins with. -/
def envelopeHead (status : Nat) : Fields Json :=
  [("success", .bool true), ("status", .ofNat status)]

/-- The texts of a payload as fields: of several under one name the last one counts, in the place of the first. -/
def payload (a : Ambient) (node : Node) (c : Context) : Fields Json :=
  Fields.insertAll [] ((payloadOf a node c).map fun (name, text) => (name, .str text))

theorem keys_texts (texts : List (String × String)) :
    Fields.keys (texts.map fun (name, text) => (name, Json.str text)) = texts.map Prod.fst := by
  rw [Fields.keys, List.map_map]
  rfl

theorem keys_payload (a : Ambient) (node : Node) (c : Context) :
    (payload a node c).keys = ((payloadOf a node c).map Prod.fst).eraseDups := by
  rw [payload, Fields.keys_insertAll rfl, keys_texts]
  rfl

theorem not_reserved_of_mem_names (h : name ∈ (payloadOf a node c).map Prod.fst) : name ∉ reservedNames := by
  obtain ⟨field, hfield, rfl⟩ := List.mem_map.mp h
  exact not_reserved_of_mem_payloadOf hfield

theorem not_reserved_of_mem_keys (h : name ∈ (payload a node c).keys) : name ∉ reservedNames := by
  rw [keys_payload, List.mem_eraseDups] at h
  exact not_reserved_of_mem_names h

/-- The envelope of a success around a payload. -/
def enveloped (a : Ambient) (status : Nat) (payload : Fields Json) : Fields Json :=
  envelopeHead status ++ payload ++ [("metadata", metadata a)]

theorem successEnvelope_eq (a : Ambient) (node : Node) (c : Context) (status : Nat) :
    successEnvelope a node c status = .obj (enveloped a status (payload a node c)) := by
  have hhead : ∀ name ∈ (envelopeHead status).keys, name ∈ reservedNames := by
    simp [envelopeHead, Fields.keys, reservedNames]
  have hpayload : (payloadOf a node c).foldl (fun fs (name, text) => fs.insert name (.str text)) (envelopeHead status) =
      envelopeHead status ++ payload a node c := by
    have hapart : ∀ name ∈ Fields.keys ((payloadOf a node c).map fun (name, text) => (name, Json.str text)),
        name ∉ (envelopeHead status).keys := by
      intro name hname hmem
      rw [keys_texts] at hname
      exact not_reserved_of_mem_names hname (hhead name hmem)
    have hinserted := Fields.insertAll_append_of_not_mem hapart []
    rw [List.append_nil, Fields.insertAll, List.foldl_map] at hinserted
    exact hinserted
  have hmetadata : "metadata" ∉ Fields.keys (envelopeHead status ++ payload a node c) := by
    intro hmem
    rw [Fields.keys, List.map_append, List.mem_append] at hmem
    rcases hmem with hmem | hmem
    · simp [envelopeHead] at hmem
    · exact not_reserved_of_mem_keys hmem (by decide)
  have hlast := Fields.insert_append_of_not_mem hmetadata [] (metadata a)
  rw [List.append_nil] at hlast
  calc successEnvelope a node c status
      = .obj (((payloadOf a node c).foldl (fun fs (name, text) => fs.insert name (.str text))
          (envelopeHead status)).insert "metadata" (metadata a)) := rfl
    _ = .obj (enveloped a status (payload a node c)) := by
      rw [hpayload, hlast]
      rfl

theorem successEnvelope_tells (a : Ambient) (node : Node) (c : Context) (status : Nat) :
    Tells (successEnvelope a node c status) true status :=
  ⟨_, successEnvelope_eq a node c status, rfl, rfl⟩

namespace Walk

/-- The node answers with success. -/
def Succeeds (node : Node) : Prop :=
  node.kind = "respond" ∨ node.kind = "sendResponse"

instance (node : Node) : Decidable (Succeeds node) :=
  inferInstanceAs (Decidable (node.kind = "respond" ∨ node.kind = "sendResponse"))

theorem Succeeds.answers (h : Succeeds node) : Answers node := by
  rcases h with hk | hk <;> simp [Answers, hk]

theorem answerOf_of_succeeds (h : Succeeds node) (a : Ambient) (c : Context) :
    answerOf a node c = (statusCode a node "status" c 200,
      successEnvelope a node c (statusCode a node "status" c 200)) := by
  refine if_neg ?_
  rcases h with hk | hk <;> simp [hk]

/-- What a node answers is an envelope with the status that goes with it. -/
theorem answerOf_tells (h : Answers node) (a : Ambient) (c : Context) :
    IsStatus (answerOf a node c).1 ∧ Tells (answerOf a node c).2 (decide (Succeeds node)) (answerOf a node c).1 := by
  by_cases hsucceeds : Succeeds node
  · have hstatus : IsStatus (statusCode a node "status" c 200) := isStatus_statusCode ⟨by decide, by decide⟩
    simp only [answerOf_of_succeeds hsucceeds, decide_eq_true hsucceeds]
    exact ⟨hstatus, successEnvelope_tells ..⟩
  · have hkind : node.kind = "sendError" ∨ node.kind = "error" := by
      obtain ⟨hrespond, hsend⟩ := not_or.mp hsucceeds
      simpa [Answers, hrespond, hsend] using h
    have hanswer : answerOf a node c = (statusCode a node "code" c 400,
        errorEnvelope a (statusCode a node "code" c 400) (.ofNat (statusCode a node "code" c 400))
          (Template.fill a c (node.text "message"))) := if_pos hkind
    have hstatus : IsStatus (statusCode a node "code" c 400) := isStatus_statusCode ⟨by decide, by decide⟩
    simp only [hanswer, decide_eq_false hsucceeds]
    exact ⟨hstatus, errorEnvelope_tells ..⟩

end Walk
end FlowTree
