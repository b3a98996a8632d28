import FlowTree.Server.Router
import FlowTree.Proofs.Text.Utf8

/-! # Requests for flows

A request reaches the flows if its target is that of a slug and its method is not `OPTIONS`. The directory takes
part in its answer only by what is fetched of the tenant and the slug. -/

namespace FlowTree.Server

/-- The request asks for the flow of a slug, with a query. In the target the slug may have escapes. -/
structure AsksFor (r : Incoming) (slug : String) (query : List Char) : Prop where
  method : r.method ≠ "OPTIONS"
  target : ∃ escaped, route r.target = .flow escaped query ∧
    Text.ofBytes? (Http.unescape (Text.toBytes (String.ofList escaped))) = some slug

variable {h : Host} {now : Nat} {r : Incoming} {slug : String} {query : List Char}

/-! ### The flow of a request -/

theorem AsksFor.serve_eq (hr : AsksFor r slug query) (h : Host) (now : Nat) :
    h.serve now r = (if r.method = "HEAD" then { (h.serveFlow now r slug query).1 with body := "" }
      else (h.serveFlow now r slug query).1, (h.serveFlow now r slug query).2) := by
  obtain ⟨escaped, hroute, htext⟩ := hr.target
  have hflow : h.serveRoute now r = h.serveFlow now r slug query := by
    unfold Host.serveRoute
    rw [hroute]
    simp only [htext]
  rw [Host.serve, if_neg hr.method, hflow]

theorem AsksFor.serve_eq_serveFlow (hr : AsksFor r slug query) (hhead : r.method ≠ "HEAD") (h : Host) (now : Nat) :
    h.serve now r = h.serveFlow now r slug query := by
  rw [hr.serve_eq, if_neg hhead]

theorem AsksFor.status_serve (hr : AsksFor r slug query) (h : Host) (now : Nat) :
    (h.serve now r).1.status = (h.serveFlow now r slug query).1.status := by
  rw [hr.serve_eq]
  by_cases hhead : r.method = "HEAD"
  · rw [if_pos hhead]
  · rw [if_neg hhead]

theorem AsksFor.host_serve (hr : AsksFor r slug query) (h : Host) (now : Nat) :
    (h.serve now r).2 = (h.serveFlow now r slug query).2 := by
  rw [hr.serve_eq]

/-- A request for `greet` at a host. -/
def asking (value : String) : Incoming :=
  ⟨"GET", "/api/greet", [("host", value)], []⟩

theorem asksFor_asking (value : String) : AsksFor (asking value) "greet" [] where
  method := by simp [asking]
  target := by
    have hroute : route (asking value).target = .flow "greet".toList [] := by
      simp [asking, route, originForm, Text.after?]
    have hplain : Http.unescape (Text.toBytes "greet") = Text.toBytes "greet" := rfl
    refine ⟨"greet".toList, hroute, ?_⟩
    rw [String.ofList_toList, hplain, Text.ofBytes?_toBytes]

/-- A request that asks for no flow is answered alike by every host, and changes nothing. -/
theorem asksFor_or_fixed (r : Incoming) :
    (∃ slug query, AsksFor r slug query) ∨ ∃ reply, ∀ (h : Host) (now : Nat), h.serve now r = (reply, h) := by
  by_cases hmethod : r.method = "OPTIONS"
  · exact Or.inr ⟨.empty 200, fun h now => by rw [Host.serve, if_pos hmethod]⟩
  · have hfixed {reply : Reply} (hroute : ∀ (h : Host) (now : Nat), h.serveRoute now r = (reply, h)) :
        ∃ reply, ∀ (h : Host) (now : Nat), h.serve now r = (reply, h) :=
      ⟨if r.method = "HEAD" then { reply with body := "" } else reply, fun h now => by
        rw [Host.serve, if_neg hmethod, hroute]⟩
    cases hroute : route r.target with
    | health => exact Or.inr (hfixed fun h now => by rw [Host.serveRoute, hroute])
    | unknown => exact Or.inr (hfixed fun h now => by rw [Host.serveRoute, hroute])
    | flow escaped query =>
      cases htext : Text.ofBytes? (Http.unescape (Text.toBytes (String.ofList escaped))) with
      | none =>
        have hrefused (h : Host) (now : Nat) :
            h.serveRoute now r = (.text 400 "Invalid URL: Invalid UTF-8 in `slug`", h) := by
          rw [Host.serveRoute, hroute]
          simp only [htext]
        exact Or.inr (hfixed hrefused)
      | some slug => exact Or.inl ⟨slug, query, hmethod, escaped, hroute, htext⟩

/-! ### What a flow answers -/

/-- What is found of a key: in the cache, or else in the directory. -/
def Host.find (h : Host) (now : Nat) (key : FlowKey) : Except StoreError (Option Flow) × Cache :=
  h.cache.fetch now (fetch h.root h.files key.1 key.2) key

/-- What a run has for its outbound requests: all the time that there is for an answer. -/
def Host.outbound (h : Host) : Http.Exchange :=
  { h.exchange with remaining := some h.timeout, expired := false }

/-- The run of a flow for a request. -/
def Host.run (h : Host) (flow : Flow) (r : Incoming) (slug : String) (query : List Char) : Run :=
  execute h.registry h.outbound flow (requestOf r slug query)

section
variable {label : String}

/-- Without a tenant nothing is looked for. -/
theorem serveFlow_of_refused {e : ApiError} (htenant : tenant r = .error e) :
    h.serveFlow now r slug query = (e.reply h.ambient, h) := by
  rw [Host.serveFlow, htenant]

theorem serveFlow_of_find (htenant : tenant r = .ok label) :
    h.serveFlow now r slug query =
      match (h.find now (label, slug)).1 with
      | .error e => ((ApiError.store e).reply h.ambient, { h with cache := (h.find now (label, slug)).2 })
      | .ok none =>
        ((ApiError.notFound slug label).reply h.ambient, { h with cache := (h.find now (label, slug)).2 })
      | .ok (some flow) => (answerOf h.ambient h.timeout (h.run flow r slug query),
          { h with cache := (h.find now (label, slug)).2, exchange := (h.run flow r slug query).session.exchange }) := by
  rw [Host.serveFlow, htenant]
  rfl

theorem serveFlow_of_failed {e : StoreError} (htenant : tenant r = .ok label)
    (hfind : (h.find now (label, slug)).1 = .error e) :
    (h.serveFlow now r slug query).1 = (ApiError.store e).reply h.ambient := by
  rw [serveFlow_of_find htenant, hfind]

theorem serveFlow_of_missing (htenant : tenant r = .ok label) (hfind : (h.find now (label, slug)).1 = .ok none) :
    (h.serveFlow now r slug query).1 = (ApiError.notFound slug label).reply h.ambient := by
  rw [serveFlow_of_find htenant, hfind]

theorem serveFlow_of_flow {flow : Flow} (htenant : tenant r = .ok label)
    (hfind : (h.find now (label, slug)).1 = .ok (some flow)) :
    (h.serveFlow now r slug query).1 = answerOf h.ambient h.timeout (h.run flow r slug query) := by
  rw [serveFlow_of_find htenant, hfind]

/-- What is kept afterwards is what the search for the flow has left. -/
theorem cache_serveFlow (htenant : tenant r = .ok label) :
    (h.serveFlow now r slug query).2.cache = (h.find now (label, slug)).2 := by
  rw [serveFlow_of_find htenant]
  split <;> rfl

end

/-! ### The part of the directory -/

/-- With other files the request gets the same answer, and leaves the same host but for the files. -/
def Host.Ignores (h : Host) (now : Nat) (r : Incoming) (files : Files.Tree) : Prop :=
  { h with files }.serve now r = ((h.serve now r).1, { (h.serve now r).2 with files })

/-- The directory takes part only by what is fetched of the tenant and the slug. -/
theorem AsksFor.ignores (hr : AsksFor r slug query) {files : Files.Tree}
    (hfetch : ∀ label, tenant r = .ok label → fetch h.root files label slug = fetch h.root h.files label slug) :
    h.Ignores now r files := by
  have hflow : { h with files }.serveFlow now r slug query =
      ((h.serveFlow now r slug query).1, { (h.serveFlow now r slug query).2 with files }) := by
    unfold Host.serveFlow
    cases htenant : tenant r with
    | error e => rfl
    | ok label =>
      simp only [hfetch label htenant]
      split <;> rfl
  rw [Host.Ignores, hr.serve_eq, hr.serve_eq, hflow]

/-! ### Requests one after the other -/

/-- A request that arrives, with the time and the directory as it is at that time. -/
structure Arrival where
  now : Nat
  files : Files.Tree
  request : Incoming

/-- The host as it is after requests that arrived one after the other. -/
def Host.after (h : Host) : List Arrival → Host
  | [] => h
  | a :: arrivals => ({ h with files := a.files }.serve a.now a.request).2.after arrivals

end FlowTree.Server
