import FlowTree.Proofs.Run.Attempts
import FlowTree.Proofs.Run.Calls
import FlowTree.Proofs.Run.Envelope
import FlowTree.Proofs.Server.Fetches
import FlowTree.Proofs.Server.Requests

/-! # Answers

Whatever a request for a flow comes to, its answer is an envelope that tells the status it is sent with. Without a
tenant, a flow, a store that works, or in the end a response, the host answers by itself, with a failure. Otherwise it
passes on what the first node that answers has sent. A run that is not over in time is dropped with all that it did:
the host tells of a failure then even if a node has answered with success. -/

namespace FlowTree.Server

open Walk (firstAnswer? responseOf Succeeds)

variable {h : Host} {v : Services} {a : Ambient} {now : Nat} {r : Incoming} {slug label : String} {query : List Char}
  {flow : Flow} {run : Run} {limit : Nat} {success : Bool}

/-! ### Replies -/

/-- The body is an envelope with the status of the reply. -/
def Reply.TellsOf (reply : Reply) (success : Bool) : Prop :=
  ∃ envelope, reply = .json reply.status envelope ∧ Tells envelope success reply.status

theorem ApiError.reply_tells (e : ApiError) (a : Ambient) : (e.reply a).TellsOf false :=
  ⟨_, rfl, errorEnvelope_tells ..⟩

/-- What nodes answer with is sent as it is. -/
theorem sentStatus_of_isStatus {status : Nat} (h : IsStatus status) : sentStatus status = status := by
  obtain ⟨hlow, hhigh⟩ := h
  exact if_pos ⟨hlow, by omega⟩

theorem answerOf_of_expired (hexpired : run.session.exchange.expired = true) :
    answerOf a limit run = (ApiError.timeout limit).reply a := if_pos hexpired

theorem answerOf_of_response {status : Nat} {value : Json} (hexpired : run.session.exchange.expired = false)
    (hresponse : run.session.response = some ⟨status, .json value⟩) (hstatus : IsStatus status) :
    answerOf a limit run = .json status value := by
  rw [answerOf, if_neg (by simp [hexpired]), hresponse]
  simp only [sentStatus_of_isStatus hstatus]

theorem answerOf_of_none (hexpired : run.session.exchange.expired = false) (hresponse : run.session.response = none) :
    answerOf a limit run = (ApiError.noResponse run.session.context.lastError).reply a := by
  rw [answerOf, if_neg (by simp [hexpired]), hresponse]

/-! ### The run -/

/-- The visits of the run of a flow for a request. -/
def Host.visits (h : Host) (flow : Flow) (r : Incoming) (slug : String) (query : List Char) : List Visit :=
  Walk.executed h.registry h.outbound flow (requestOf r slug query)

theorem response_run (hregistry : h.registry = .standard v) (flow : Flow) (r : Incoming) (slug : String)
    (query : List Char) : (h.run flow r slug query).session.response =
      (firstAnswer? (h.visits flow r slug query)).map (responseOf v.ambient) := by
  unfold Host.run Host.visits
  rw [hregistry]
  have hresponse := (Walk.threaded_executed (.standard v) h.outbound flow (requestOf r slug query)).response
  rw [hresponse]
  exact Option.none_or

theorem answers_of_firstAnswer? {log : List Visit} {u : Visit} (h : firstAnswer? log = some u) :
    Walk.Answers u.node := by
  simpa using List.find?_some h

/-! ### Requests for flows -/

/-- What a request for a flow is answered. -/
structure WellAnswered (v : Services) (h : Host) (now : Nat) (r : Incoming) (slug : String) (query : List Char) :
    Prop where
  /-- The answer tells its status. -/
  told : ∃ success, (h.serve now r).1.TellsOf success
  refused : ∀ e, tenant r = .error e → (h.serve now r).1.TellsOf false ∧ (h.serve now r).1.status = 400
  failed : ∀ label e, tenant r = .ok label → (h.find now (label, slug)).1 = .error e →
    (h.serve now r).1.TellsOf false ∧ (h.serve now r).1.status = 500
  missing : ∀ label, tenant r = .ok label → (h.find now (label, slug)).1 = .ok none →
    (h.serve now r).1.TellsOf false ∧ (h.serve now r).1.status = 404
  /-- A run that is not over in time makes no difference to the answer, whatever it has visited. -/
  late : ∀ label flow, tenant r = .ok label → (h.find now (label, slug)).1 = .ok (some flow) →
    (h.run flow r slug query).session.exchange.expired = true →
      (h.serve now r).1 = (ApiError.timeout h.timeout).reply h.ambient ∧ (h.serve now r).1.TellsOf false ∧
      (h.serve now r).1.status = 504
  /-- If the run is over in time, the answer tells of success exactly if the first node that answers does so. -/
  succeeded : ∀ label flow, tenant r = .ok label → (h.find now (label, slug)).1 = .ok (some flow) →
    (h.run flow r slug query).session.exchange.expired = false →
      ∃ success, (h.serve now r).1.TellsOf success ∧
        (success = true ↔ ∃ u, firstAnswer? (h.visits flow r slug query) = some u ∧ Succeeds u.node)
  /-- The answer is the response of the run, which is that of the first node that answers. -/
  responded : ∀ label flow u, tenant r = .ok label → (h.find now (label, slug)).1 = .ok (some flow) →
    (h.run flow r slug query).session.exchange.expired = false → firstAnswer? (h.visits flow r slug query) = some u →
      (h.run flow r slug query).session.response = some (responseOf v.ambient u) ∧
      (h.serve now r).1 = .json (Walk.answerOf v.ambient u.node u.before.context).1
        (Walk.answerOf v.ambient u.node u.before.context).2 ∧
      IsStatus (h.serve now r).1.status
  /-- Without a response the answer tells of the last failure, if there was one. -/
  unanswered : ∀ label flow, tenant r = .ok label → (h.find now (label, slug)).1 = .ok (some flow) →
    (h.run flow r slug query).session.exchange.expired = false → firstAnswer? (h.visits flow r slug query) = none →
      (∀ e, (h.run flow r slug query).session.context.lastError = some e →
        (h.serve now r).1 = .json 502 (errorEnvelope h.ambient 502 (.str (e.code.getD e.kind)) e.message)) ∧
      ((h.run flow r slug query).session.context.lastError = none →
        (h.serve now r).1 = .json 502
          (errorEnvelope h.ambient 502 (.str "no_response") "Flow finished without sending a response"))

theorem status_of_tenant_error {e : ApiError} (htenant : tenant r = .error e) : e.status = 400 := by
  unfold tenant tenantOf at htenant
  simp only at htenant
  split at htenant
  · cases htenant
    rfl
  · split at htenant
    · cases htenant
      rfl
    · cases htenant

/-- The reply of a run that is over in time. -/
theorem answerOf_run (hregistry : h.registry = .standard v)
    (hexpired : (h.run flow r slug query).session.exchange.expired = false) :
    ∃ success, (answerOf h.ambient h.timeout (h.run flow r slug query)).TellsOf success ∧
      (success = true ↔ ∃ u, firstAnswer? (h.visits flow r slug query) = some u ∧ Succeeds u.node) := by
  have hresponse := response_run hregistry flow r slug query
  cases hfirst : firstAnswer? (h.visits flow r slug query) with
  | none =>
    rw [hfirst, Option.map_none] at hresponse
    rw [answerOf_of_none hexpired hresponse]
    exact ⟨false, ApiError.reply_tells .., by simp⟩
  | some u =>
    rw [hfirst, Option.map_some] at hresponse
    obtain ⟨hstatus, htells⟩ := Walk.answerOf_tells (answers_of_firstAnswer? hfirst) v.ambient u.before.context
    refine ⟨decide (Succeeds u.node), ?_, by simp⟩
    rw [answerOf_of_response hexpired hresponse hstatus]
    exact ⟨_, rfl, htells⟩

theorem serve_wellAnswered (hregistry : h.registry = .standard v) (hr : AsksFor r slug query)
    (hhead : r.method ≠ "HEAD") (now : Nat) : WellAnswered v h now r slug query := by
  constructor
  all_goals rw [hr.serve_eq_serveFlow hhead]
  case told =>
    cases htenant : tenant r with
    | error e =>
      rw [serveFlow_of_refused htenant]
      exact ⟨false, ApiError.reply_tells ..⟩
    | ok label =>
      rcases hfind : (h.find now (label, slug)).1 with e | (_ | flow)
      · rw [serveFlow_of_failed htenant hfind]
        exact ⟨false, ApiError.reply_tells ..⟩
      · rw [serveFlow_of_missing htenant hfind]
        exact ⟨false, ApiError.reply_tells ..⟩
      · rw [serveFlow_of_flow htenant hfind]
        cases hexpired : (h.run flow r slug query).session.exchange.expired with
        | true =>
          rw [answerOf_of_expired hexpired]
          exact ⟨false, ApiError.reply_tells ..⟩
        | false =>
          obtain ⟨success, htells, -⟩ := answerOf_run hregistry hexpired
          exact ⟨success, htells⟩
  case refused =>
    intro e htenant
    rw [serveFlow_of_refused htenant]
    exact ⟨ApiError.reply_tells .., status_of_tenant_error htenant⟩
  case failed =>
    intro label e htenant hfind
    rw [serveFlow_of_failed htenant hfind]
    exact ⟨ApiError.reply_tells .., rfl⟩
  case missing =>
    intro label htenant hfind
    rw [serveFlow_of_missing htenant hfind]
    exact ⟨ApiError.reply_tells .., rfl⟩
  case late =>
    intro label flow htenant hfind hexpired
    rw [serveFlow_of_flow htenant hfind, answerOf_of_expired hexpired]
    exact ⟨rfl, ApiError.reply_tells .., rfl⟩
  case succeeded =>
    intro label flow htenant hfind hexpired
    rw [serveFlow_of_flow htenant hfind]
    exact answerOf_run hregistry hexpired
  case responded =>
    intro label flow u htenant hfind hexpired hfirst
    have hresponse := response_run hregistry flow r slug query
    rw [hfirst, Option.map_some] at hresponse
    obtain ⟨hstatus, -⟩ := Walk.answerOf_tells (answers_of_firstAnswer? hfirst) v.ambient u.before.context
    rw [serveFlow_of_flow htenant hfind, answerOf_of_response hexpired hresponse hstatus]
    exact ⟨hresponse, rfl, hstatus⟩
  case unanswered =>
    intro label flow htenant hfind hexpired hfirst
    have hresponse := response_run hregistry flow r slug query
    rw [hfirst, Option.map_none] at hresponse
    rw [serveFlow_of_flow htenant hfind, answerOf_of_none hexpired hresponse]
    constructor
    · intro e hlast
      rw [hlast]
      rfl
    · intro hlast
      rw [hlast]
      rfl

/-! ### Flows that answer first -/

/-- A root that answers is the first to answer. -/
theorem firstAnswer?_of_root (h : Host) (r : Incoming) (slug : String) (query : List Char)
    (hanswers : Walk.Answers flow.root) :
    ∃ u, firstAnswer? (h.visits flow r slug query) = some u ∧ u.node = flow.root := by
  rw [Host.visits, Walk.executed, Walk.visited]
  cases hc : (Walk.visitOf h.registry (requestOf r slug query) [] flow.root
      (Walk.begun h.outbound flow (requestOf r slug query))).outcome.continues with
  | true =>
    rw [Walk.visits_of_continues hc]
    exact ⟨_, List.find?_cons_of_pos (decide_eq_true hanswers), rfl⟩
  | false =>
    rw [Walk.visits_of_not_continues hc]
    exact ⟨_, List.find?_cons_of_pos (decide_eq_true hanswers), rfl⟩

/-- A host with one flow of one tenant. -/
def hostOf (source : String) (peer : Http.Peer) : Host where
  ambient := .still
  registry := .standard .still
  exchange := { peer }
  root := "flows"
  files := shelf (some source)
  cache := { ttl := 0 }
  timeout := 1000

theorem find_hostOf {source : String} (hparse : Flow.parse source = .ok flow) (peer : Http.Peer) :
    ((hostOf source peer).find 0 ("acme", "greet")).1 = .ok (some flow) := by
  have hsays : Says "flows" (shelf (some source)) ("acme", "greet") (.ok (some flow)) :=
    .flow (by decide) (read_shelf _) hparse
  have hnil : (hostOf source peer).cache.entriesOf ("acme", "greet") = [] := rfl
  exact (Cache.fetch_of_entriesOf_eq_nil hnil _ _).trans hsays.fetch_eq

def greetFlow : Flow :=
  ⟨.mk "one" "respond" [] [] none, .arr [.str "one", .str "respond"]⟩

def greeter : Host := hostOf "[\"one\",\"respond\"]" .unreachable

theorem parse_greetFlow : Flow.parse "[\"one\",\"respond\"]" = .ok greetFlow := by cbv

/-- A node that gives no status answers with 200. -/
theorem status_greetFlow (a : Ambient) (c : Context) : (Walk.answerOf a greetFlow.root c).1 = 200 := by
  have hnone : greetFlow.root.nonEmpty? "status" = none := rfl
  have hstatus : statusCode a greetFlow.root "status" c 200 = 200 := by
    rw [statusCode, hnone]
    rfl
  rw [Walk.answerOf, if_neg (by decide)]
  exact hstatus

theorem greeter_answers : WellAnswered .still greeter 0 (asking "acme.dev") "greet" [] ∧
    (greeter.serve 0 (asking "acme.dev")).1.status = 200 := by
  have hwell : WellAnswered .still greeter 0 (asking "acme.dev") "greet" [] :=
    serve_wellAnswered rfl (asksFor_asking "acme.dev") (by simp [asking]) 0
  have hexpired : (greeter.run greetFlow (asking "acme.dev") "greet" []).session.exchange.expired = false := by
    decide +kernel
  obtain ⟨u, hfirst, hnode⟩ := firstAnswer?_of_root greeter (asking "acme.dev") "greet" []
    (show Walk.Answers greetFlow.root by decide)
  obtain ⟨-, hreply, -⟩ := hwell.responded "acme" greetFlow u rfl (find_hostOf parse_greetFlow _) hexpired hfirst
  refine ⟨hwell, ?_⟩
  rw [hreply, hnode]
  exact status_greetFlow .still u.before.context

/-- A node that answers, with a child that asks a peer. -/
def stallFlow : Flow where
  root := .mk "one" "respond" [] [.mk "two" "request" [("url", .str "http://a.test/")] [] none] none
  json := .arr [.str "one", .str "respond", .obj [],
    .arr [.arr [.str "two", .str "request", .obj [("url", .str "http://a.test/")]]]]

/-- The peer never answers. -/
def staller : Host :=
  hostOf "[\"one\",\"respond\",\x7b\x7d,[[\"two\",\"request\",\x7b\"url\":\"http://a.test/\"\x7d]]]"
    (.scripted [.silent])

theorem find_staller : (staller.find 0 ("acme", "greet")).1 = .ok (some stallFlow) :=
  find_hostOf (by cbv) _

theorem serve_staller : (staller.serve 0 (asking "acme.dev")).1 = (ApiError.timeout 1000).reply .still := by
  have htenant : tenant (asking "acme.dev") = .ok "acme" := rfl
  have hexpired : (staller.run stallFlow (asking "acme.dev") "greet" []).session.exchange.expired = true := by
    decide +kernel
  rw [(asksFor_asking "acme.dev").serve_eq_serveFlow (by simp [asking]), serveFlow_of_flow htenant find_staller]
  exact answerOf_of_expired hexpired

/-- A request with a slug whose bytes are no text. -/
def illegible : Incoming :=
  ⟨"GET", "/api/%FF", [("host", "acme.dev")], []⟩

/-- The first node that answers does so with success, but the run is not over in time: the answer tells of a failure.
And a request with a tenant is refused with a text that is no JSON if its slug is no text. -/
theorem staller_fails_and_illegible_refused :
    ((staller.find 0 ("acme", "greet")).1 = .ok (some stallFlow) ∧
      (∃ u, firstAnswer? (staller.visits stallFlow (asking "acme.dev") "greet" []) = some u ∧ Succeeds u.node) ∧
      (staller.serve 0 (asking "acme.dev")).1.TellsOf false ∧
      (staller.serve 0 (asking "acme.dev")).1.status = 504 ∧
      (staller.serve 0 (asking "acme.dev")).1.body = "\x7b\"success\":false,\"status\":504,\"error\":\x7b\"code\":" ++
        "\"timeout\",\"message\":\"Flow did not respond within 1s\"\x7d,\"metadata\":\x7b\"timestamp\":" ++
        "\"2024-01-02T00:00:00.000Z\"\x7d\x7d") ∧
    (route illegible.target = .flow "%FF".toList [] ∧ tenant illegible = .ok "acme" ∧
      (greeter.serve 0 illegible).1 = .text 400 "Invalid URL: Invalid UTF-8 in `slug`" ∧
      ∀ envelope, Json.read "Invalid URL: Invalid UTF-8 in `slug`" ≠ .ok envelope) := by
  constructor
  · obtain ⟨u, hfirst, hnode⟩ := firstAnswer?_of_root staller (asking "acme.dev") "greet" []
      (show Walk.Answers stallFlow.root by decide)
    refine ⟨find_staller, ⟨u, hfirst, hnode ▸ by decide⟩, ?_⟩
    rw [serve_staller]
    exact ⟨ApiError.reply_tells .., rfl, by decide +kernel⟩
  · have hunread : (Json.read "Invalid URL: Invalid UTF-8 in `slug`").toOption = none := rfl
    refine ⟨rfl, rfl, rfl, fun envelope henvelope => ?_⟩
    simp [henvelope, Except.toOption] at hunread

end FlowTree.Server
