import FlowTree.Server.Cache

/-! # Fetches through the cache

A fetch answers with a kept flow or with what the directory says. Every kept flow was read from the directory
under its own key, at the time at which it was loaded (`Backed`): a hit, a miss, an expiry, a removal and an error
all keep that. So an answer from the cache is younger than the time to live, and never that of another key. -/

namespace FlowTree.Server

/-- Both names are plain. -/
def isPlainKey (key : FlowKey) : Bool :=
  isPlainName key.1 && isPlainName key.2

/-- What the directory says of a key. No flow has a name that is not plain, whatever lies in the directory. -/
inductive Says (root : String) (files : Files.Tree) (key : FlowKey) : Except StoreError (Option Flow) → Prop where
  | unnamed (hkey : isPlainKey key = false) : Says root files key (.ok none)
  | missing (hkey : isPlainKey key = true) (hread : files.read (flowPath key.1 key.2) = .error .notFound) :
      Says root files key (.ok none)
  | unreadable {fault : Files.Fault} (hkey : isPlainKey key = true)
      (hread : files.read (flowPath key.1 key.2) = .error fault) (hfault : fault ≠ .notFound) :
      Says root files key (.error (.unreadable (Files.join root (flowPath key.1 key.2)) fault))
  | malformed {source : String} {e : FlowError} (hkey : isPlainKey key = true)
      (hread : files.read (flowPath key.1 key.2) = .ok source) (hparse : Flow.parse source = .error e) :
      Says root files key (.error (.malformed (Files.join root (flowPath key.1 key.2)) e))
  | flow {source : String} {flow : Flow} (hkey : isPlainKey key = true)
      (hread : files.read (flowPath key.1 key.2) = .ok source) (hparse : Flow.parse source = .ok flow) :
      Says root files key (.ok (some flow))

theorem says_fetch (root : String) (files : Files.Tree) (key : FlowKey) :
    Says root files key (fetch root files key.1 key.2) := by
  unfold fetch
  rw [← Bool.not_and]
  split
  next hkey => exact .unnamed (by simpa only [isPlainKey, Bool.not_eq_true'] using hkey)
  next hkey =>
    have hplain : isPlainKey key = true := by simpa [isPlainKey] using hkey
    split
    next hread => exact .missing hplain hread
    next fault hfault hread => exact .unreadable hplain hread hfault
    next source hread =>
      split
      next flow hparse => exact .flow hplain hread hparse
      next e hparse => exact .malformed hplain hread hparse

theorem Says.fetch_eq {root : String} {files : Files.Tree} {key : FlowKey} {answer : Except StoreError (Option Flow)}
    (h : Says root files key answer) : fetch root files key.1 key.2 = answer := by
  have hguard : (!isPlainName key.1 || !isPlainName key.2) = !isPlainKey key := (Bool.not_and ..).symm
  unfold fetch
  rw [hguard]
  cases h with
  | unnamed hkey => simp [hkey]
  | missing hkey hread => simp [hkey, hread]
  | unreadable hkey hread hfault => simp [hkey, hread]
  | malformed hkey hread hparse => simp [hkey, hread, hparse]
  | flow hkey hread hparse => simp [hkey, hread, hparse]

/-! ### The entries of a key -/

namespace Cache

variable {c c' : Cache} {now loadedAt : Nat} {key other : FlowKey} {fetched : Option Flow} {flow : Flow}
  {store answer : Except StoreError (Option Flow)} {e : CacheEntry}

/-- What is kept of a key. -/
def entriesOf (c : Cache) (key : FlowKey) : List CacheEntry :=
  c.entries.filter fun e => e.key = key

theorem mem_entriesOf : e ∈ c.entriesOf key ↔ e ∈ c.entries ∧ e.key = key := by simp [entriesOf]

theorem lookup_eq (c : Cache) (now : Nat) (key : FlowKey) :
    c.lookup now key = ((c.entriesOf key).find? fun e => now - e.loadedAt < c.ttl).map CacheEntry.flow := by
  simp [lookup, entriesOf, List.find?_filter]

theorem exists_of_lookup (h : c.lookup now key = some flow) :
    ∃ e ∈ c.entries, e.key = key ∧ e.flow = flow ∧ now - e.loadedAt < c.ttl := by
  rw [lookup_eq, Option.map_eq_some_iff] at h
  obtain ⟨e, hfind, hflow⟩ := h
  obtain ⟨he, hkey⟩ := mem_entriesOf.mp (List.mem_of_find?_eq_some hfind)
  exact ⟨e, he, hkey, hflow, by simpa using List.find?_some hfind⟩

theorem lookup_of_entriesOf_eq_nil (h : c.entriesOf key = []) (now : Nat) : c.lookup now key = none := by
  rw [lookup_eq, h]
  rfl

@[simp] theorem ttl_writeBack (c : Cache) (now : Nat) (key : FlowKey) (fetched : Option Flow) :
    (c.writeBack now key fetched).ttl = c.ttl := by
  unfold writeBack remove
  split
  · split <;> rfl
  · rfl

theorem mem_writeBack (h : e ∈ (c.writeBack now key fetched).entries) :
    (∃ flow, fetched = some flow ∧ c.ttl ≠ 0 ∧ e = ⟨key, now, flow⟩) ∨ (e ∈ c.entries ∧ e.key ≠ key) := by
  unfold writeBack remove at h
  split at h
  next flow =>
    split at h
    next => exact Or.inr (by simpa using h)
    next httl =>
      rcases List.mem_cons.mp h with rfl | h
      · exact Or.inl ⟨flow, rfl, httl, rfl⟩
      · exact Or.inr (by simpa using h)
  next => exact Or.inr (by simpa using h)

theorem entriesOf_writeBack_of_ne (h : other ≠ key) (c : Cache) (now : Nat) (fetched : Option Flow) :
    (c.writeBack now key fetched).entriesOf other = c.entriesOf other := by
  have hremove : (c.remove key).entriesOf other = c.entriesOf other := by
    simp only [remove, entriesOf, List.filter_filter]
    refine List.filter_congr fun e _ => ?_
    by_cases he : e.key = other <;> simp [he, h]
  unfold writeBack
  split
  · split
    · exact hremove
    · rw [← hremove, entriesOf, List.filter_cons_of_neg (by simpa using Ne.symm h)]
      rfl
  · exact hremove

theorem entriesOf_writeBack_none (c : Cache) (now : Nat) (key : FlowKey) :
    (c.writeBack now key none).entriesOf key = [] := by
  simp [writeBack, remove, entriesOf]

theorem entriesOf_writeBack_some (c : Cache) (now : Nat) (key : FlowKey) (flow : Flow) :
    (c.writeBack now key (some flow)).entriesOf key = if c.ttl = 0 then [] else [⟨key, now, flow⟩] := by
  by_cases httl : c.ttl = 0 <;> simp [writeBack, remove, entriesOf, httl]

/-! ### One fetch -/

/-- A fetch is answered from the cache, or fails, or reads the store and writes back what it read. -/
theorem fetch_cases (c : Cache) (now : Nat) (store : Except StoreError (Option Flow)) (key : FlowKey) :
    (∃ flow, c.lookup now key = some flow ∧ c.fetch now store key = (.ok (some flow), c)) ∨
    (∃ e, store = .error e ∧ c.fetch now store key = (.error e, c)) ∨
    (∃ fetched, store = .ok fetched ∧ c.fetch now store key = (.ok fetched, c.writeBack now key fetched)) := by
  cases hlookup : c.lookup now key with
  | some flow => exact Or.inl ⟨flow, rfl, by simp [fetch, hlookup]⟩
  | none =>
    cases store with
    | error e => exact Or.inr (Or.inl ⟨e, rfl, by simp [fetch, hlookup]⟩)
    | ok fetched => exact Or.inr (Or.inr ⟨fetched, rfl, by simp [fetch, hlookup]⟩)

theorem entriesOf_fetch_of_ne (h : other ≠ key) (c : Cache) (now : Nat) (store : Except StoreError (Option Flow)) :
    (c.fetch now store key).2.entriesOf other = c.entriesOf other := by
  rcases c.fetch_cases now store key with ⟨_, _, hc⟩ | ⟨_, _, hc⟩ | ⟨fetched, _, hc⟩
  · rw [hc]
  · rw [hc]
  · rw [hc, entriesOf_writeBack_of_ne h]

theorem ttl_fetch (c : Cache) (now : Nat) (store : Except StoreError (Option Flow)) (key : FlowKey) :
    (c.fetch now store key).2.ttl = c.ttl := by
  rcases c.fetch_cases now store key with ⟨_, _, hc⟩ | ⟨_, _, hc⟩ | ⟨fetched, _, hc⟩
  · rw [hc]
  · rw [hc]
  · rw [hc, ttl_writeBack]

/-- A fetch finds nothing only if the store has nothing. Then nothing is kept of the key. -/
theorem fetch_none (h : (c.fetch now store key).1 = .ok none) :
    store = .ok none ∧ (c.fetch now store key).2.entriesOf key = [] := by
  rcases c.fetch_cases now store key with ⟨_, _, hc⟩ | ⟨_, _, hc⟩ | ⟨fetched, hstore, hc⟩
  · rw [hc] at h
    cases h
  · rw [hc] at h
    cases h
  · rw [hc] at h ⊢
    obtain rfl : fetched = none := Except.ok.inj h
    exact ⟨hstore, entriesOf_writeBack_none c now key⟩

/-- A fetch fails only as the store does, and keeps the cache. -/
theorem fetch_error {e : StoreError} (h : (c.fetch now store key).1 = .error e) :
    store = .error e ∧ (c.fetch now store key).2 = c := by
  rcases c.fetch_cases now store key with ⟨_, _, hc⟩ | ⟨e', hstore, hc⟩ | ⟨_, _, hc⟩
  · rw [hc] at h
    cases h
  · rw [hc] at h ⊢
    obtain rfl : e' = e := Except.error.inj h
    exact ⟨hstore, rfl⟩
  · rw [hc] at h
    cases h

theorem fetch_of_entriesOf_eq_nil (h : c.entriesOf key = []) (now : Nat) (store : Except StoreError (Option Flow)) :
    (c.fetch now store key).1 = store := by
  unfold fetch
  rw [lookup_of_entriesOf_eq_nil h]
  cases store <;> rfl

/-- What a fetch answers and what it keeps of its key depends on what was kept of the key alone. -/
theorem fetch_congr (hentries : c.entriesOf key = c'.entriesOf key) (httl : c.ttl = c'.ttl) (now : Nat)
    (store : Except StoreError (Option Flow)) :
    (c.fetch now store key).1 = (c'.fetch now store key).1 ∧
      (c.fetch now store key).2.entriesOf key = (c'.fetch now store key).2.entriesOf key := by
  have hlookup : c.lookup now key = c'.lookup now key := by rw [lookup_eq, lookup_eq, hentries, httl]
  unfold fetch
  rw [← hlookup]
  cases c.lookup now key with
  | some flow => exact ⟨rfl, hentries⟩
  | none =>
    cases store with
    | error e => exact ⟨rfl, hentries⟩
    | ok fetched =>
      refine ⟨rfl, ?_⟩
      cases fetched with
      | none => exact (entriesOf_writeBack_none c now key).trans (entriesOf_writeBack_none c' now key).symm
      | some flow =>
        show (c.writeBack now key (some flow)).entriesOf key = (c'.writeBack now key (some flow)).entriesOf key
        rw [entriesOf_writeBack_some, entriesOf_writeBack_some, httl]

end Cache

/-! ### Fetches one after the other -/

/-- A fetch: the key that is asked for, with the time and the directory as it is at that time. -/
structure Fetch where
  now : Nat
  files : Files.Tree
  key : FlowKey

def Fetch.stored (root : String) (f : Fetch) : Except StoreError (Option Flow) :=
  fetch root f.files f.key.1 f.key.2

/-- A fetch that was made: its answer, and the cache before and after it. -/
structure Served where
  request : Fetch
  before : Cache
  answer : Except StoreError (Option Flow)
  after : Cache

def serve (root : String) (c : Cache) (f : Fetch) : Served :=
  ⟨f, c, (c.fetch f.now (f.stored root) f.key).1, (c.fetch f.now (f.stored root) f.key).2⟩

/-- Makes fetches one after the other. What happens to the directory between them shows in the fetches. -/
def serveAll (root : String) : Cache → List Fetch → List Served
  | _, [] => []
  | c, f :: fetches => serve root c f :: serveAll root (serve root c f).after fetches

/-- The fetches begin with the cache `c`, each with what the one before it left behind, and leave `d`. -/
def Chained (root : String) : Cache → List Served → Cache → Prop
  | c, [], d => d = c
  | c, u :: log, d => u = serve root c u.request ∧ Chained root u.after log d

variable {root : String} {c d : Cache} {log more : List Served} {u : Served} {fetches : List Fetch} {key : FlowKey}

theorem exists_chained (root : String) (c : Cache) (fetches : List Fetch) :
    ∃ d, Chained root c (serveAll root c fetches) d := by
  induction fetches generalizing c with
  | nil => exact ⟨c, rfl⟩
  | cons f fetches ih =>
    obtain ⟨d, hd⟩ := ih (serve root c f).after
    exact ⟨d, rfl, hd⟩

theorem Chained.of_append (h : Chained root c (log ++ more) d) :
    ∃ m, Chained root c log m ∧ Chained root m more d := by
  induction log generalizing c with
  | nil => exact ⟨c, rfl, h⟩
  | cons u log ih =>
    obtain ⟨hu, h⟩ := h
    obtain ⟨m, hlog, hmore⟩ := ih h
    exact ⟨m, ⟨hu, hlog⟩, hmore⟩

theorem map_request_serveAll (root : String) (c : Cache) (fetches : List Fetch) :
    (serveAll root c fetches).map (·.request) = fetches := by
  induction fetches generalizing c with
  | nil => rfl
  | cons f fetches ih =>
    rw [serveAll, List.map_cons, ih]
    rfl

theorem Chained.ttl_eq (h : Chained root c log d) : d.ttl = c.ttl := by
  induction log generalizing c with
  | nil => rw [show d = c from h]
  | cons u log ih =>
    rw [ih h.2, h.1]
    exact Cache.ttl_fetch ..

theorem Chained.entriesOf_eq (h : Chained root c log d) (hkey : ∀ u ∈ log, u.request.key ≠ key) :
    d.entriesOf key = c.entriesOf key := by
  induction log generalizing c with
  | nil => rw [show d = c from h]
  | cons u log ih =>
    rw [ih h.2 fun w hw => hkey w (List.mem_cons_of_mem _ hw), h.1]
    exact Cache.entriesOf_fetch_of_ne (hkey u List.mem_cons_self).symm ..

/-- Every kept flow was read by one of the fetches, under its own key and when it was loaded. -/
def Backed (root : String) (log : List Served) (c : Cache) : Prop :=
  ∀ e ∈ c.entries, ∃ w ∈ log, w.request.key = e.key ∧ w.request.now = e.loadedAt ∧
    w.request.stored root = .ok (some e.flow)

theorem Backed.serve (h : Backed root log c) (f : Fetch) :
    Backed root (log ++ [Server.serve root c f]) (Server.serve root c f).after := by
  have hkept : ∀ e ∈ c.entries, ∃ w ∈ log ++ [Server.serve root c f], w.request.key = e.key ∧
      w.request.now = e.loadedAt ∧ w.request.stored root = .ok (some e.flow) := by
    intro e he
    obtain ⟨w, hw, hread⟩ := h e he
    exact ⟨w, List.mem_append_left _ hw, hread⟩
  intro e he
  unfold Server.serve at he
  rcases c.fetch_cases f.now (f.stored root) f.key with ⟨_, _, hc⟩ | ⟨_, _, hc⟩ | ⟨fetched, hstore, hc⟩
  · rw [hc] at he
    exact hkept e he
  · rw [hc] at he
    exact hkept e he
  · rw [hc] at he
    rcases Cache.mem_writeBack he with ⟨flow, rfl, -, rfl⟩ | ⟨he, -⟩
    · exact ⟨_, List.mem_append_right _ (List.mem_singleton_self _), rfl, rfl, hstore⟩
    · exact hkept e he

theorem Chained.backed (h : Chained root c log d) (hc : Backed root more c) : Backed root (more ++ log) d := by
  induction log generalizing c more with
  | nil =>
    rw [List.append_nil, show d = c from h]
    exact hc
  | cons u log ih =>
    have hu := hc.serve u.request
    rw [← h.1] at hu
    have hrest := ih h.2 hu
    rwa [List.append_assoc, List.singleton_append] at hrest

/-- The answers to the fetches of a key are those that they get without the fetches of other keys. -/
theorem answers_apart {c' : Cache} (hentries : c.entriesOf key = c'.entriesOf key) (httl : c.ttl = c'.ttl)
    (fetches : List Fetch) :
    ((serveAll root c fetches).filter (·.request.key = key)).map (·.answer) =
      (serveAll root c' (fetches.filter (·.key = key))).map (·.answer) := by
  induction fetches generalizing c c' with
  | nil => rfl
  | cons f fetches ih =>
    rw [serveAll]
    by_cases hkey : f.key = key
    · subst hkey
      obtain ⟨hanswer, hafter⟩ : (serve root c f).answer = (serve root c' f).answer ∧
          (serve root c f).after.entriesOf f.key = (serve root c' f).after.entriesOf f.key :=
        Cache.fetch_congr hentries httl f.now (f.stored root)
      have httl' : (serve root c f).after.ttl = (serve root c' f).after.ttl :=
        (Cache.ttl_fetch ..).trans (httl.trans (Cache.ttl_fetch ..).symm)
      rw [List.filter_cons_of_pos (by simp [serve]), List.filter_cons_of_pos (by simp), serveAll, List.map_cons,
        List.map_cons, hanswer, ih hafter httl']
    · rw [List.filter_cons_of_neg (by simp [serve, hkey]), List.filter_cons_of_neg (by simp [hkey])]
      exact ih ((Cache.entriesOf_fetch_of_ne (Ne.symm hkey) ..).trans hentries) ((Cache.ttl_fetch ..).trans httl)

/-- What the answers to fetches have to do with the directory. `log` are the fetches as they were made. -/
structure KeepsToDirectory (root : String) (ttl : Nat) (fetches : List Fetch) (log : List Served) : Prop where
  requests_eq : log.map (·.request) = fetches
  /-- A flow was read under the same key, by the same fetch or by one that is younger than the time to live. -/
  found : ∀ earlier u later flow, log = earlier ++ u :: later → u.answer = .ok (some flow) →
    ∃ w ∈ earlier ++ [u], w.request.key = u.request.key ∧
      Says root w.request.files u.request.key (.ok (some flow)) ∧ w.request.now ≤ u.request.now ∧
      (w = u ∨ u.request.now - w.request.now < ttl)
  absent : ∀ u ∈ log, u.answer = .ok none → Says root u.request.files u.request.key (.ok none)
  failed : ∀ u ∈ log, ∀ e, u.answer = .error e →
    Says root u.request.files u.request.key (.error e) ∧ u.after = u.before
  /-- After nothing was found, the next fetch of the key answers with what the directory says then. -/
  published : ∀ earlier u between w later, log = earlier ++ u :: (between ++ w :: later) → u.answer = .ok none →
    w.request.key = u.request.key → (∀ x ∈ between, x.request.key ≠ u.request.key) →
    Says root w.request.files w.request.key w.answer
  /-- What is fetched under other keys changes no answer. -/
  apart : ∀ key, (log.filter (·.request.key = key)).map (·.answer) =
    (serveAll root { ttl } (fetches.filter (·.key = key))).map (·.answer)

theorem says_stored {f : Fetch} {answer : Except StoreError (Option Flow)} (h : f.stored root = answer) :
    Says root f.files f.key answer :=
  h ▸ says_fetch root f.files f.key

theorem Chained.eq_serve (h : Chained root c (log ++ u :: more) d) :
    ∃ m, Chained root c log m ∧ u = serve root m u.request ∧ Chained root u.after more d := by
  obtain ⟨m, hlog, hu, hmore⟩ := h.of_append
  exact ⟨m, hlog, hu, hmore⟩

theorem serveAll_keepsToDirectory (root : String) (ttl : Nat) (fetches : List Fetch)
    (hclock : fetches.Pairwise (·.now ≤ ·.now)) :
    KeepsToDirectory root ttl fetches (serveAll root { ttl } fetches) := by
  have hrequests := map_request_serveAll root { ttl } fetches
  obtain ⟨d, hchained⟩ := exists_chained root { ttl } fetches
  have hapart (key : FlowKey) : ((serveAll root { ttl } fetches).filter (·.request.key = key)).map (·.answer) =
      (serveAll root { ttl } (fetches.filter (·.key = key))).map (·.answer) := answers_apart rfl rfl fetches
  generalize serveAll root { ttl } fetches = log at *
  rw [← hrequests, List.pairwise_map] at hclock
  constructor
  case requests_eq => exact hrequests
  case found =>
    rintro earlier u later flow rfl hanswer
    obtain ⟨m, hearlier, hu, -⟩ := hchained.eq_serve
    have hstart : Backed root [] { ttl } := by simp [Backed]
    have hbacked : Backed root earlier m := hearlier.backed hstart
    rw [hu] at hanswer
    rcases m.fetch_cases u.request.now (u.request.stored root) u.request.key with
      ⟨kept, hlookup, hc⟩ | ⟨e, -, hc⟩ | ⟨fetched, hstore, hc⟩
    · -- The flow was kept, so an earlier fetch has read it.
      obtain rfl : kept = flow := by simpa [serve, hc] using hanswer
      obtain ⟨e, he, hkey, rfl, hage⟩ := Cache.exists_of_lookup hlookup
      obtain ⟨w, hw, hwkey, hwnow, hwstored⟩ := hbacked e he
      have hle : w.request.now ≤ u.request.now := (List.pairwise_append.mp hclock).2.2 w hw u List.mem_cons_self
      refine ⟨w, List.mem_append_left _ hw, hwkey.trans hkey, ?_, hle, Or.inr ?_⟩
      · have hsays := says_stored hwstored
        rwa [hwkey.trans hkey] at hsays
      · rw [hwnow]
        rwa [hearlier.ttl_eq] at hage
    · simp [serve, hc] at hanswer
    · obtain rfl : fetched = some flow := by simpa [serve, hc] using hanswer
      exact ⟨u, by simp, rfl, says_stored hstore, Nat.le_refl _, Or.inl rfl⟩
  case absent =>
    intro u hu hanswer
    obtain ⟨earlier, later, rfl⟩ := List.append_of_mem hu
    obtain ⟨m, -, hserve, -⟩ := hchained.eq_serve
    rw [hserve] at hanswer
    exact says_stored (Cache.fetch_none hanswer).1
  case failed =>
    intro u hu e hanswer
    obtain ⟨earlier, later, rfl⟩ := List.append_of_mem hu
    obtain ⟨m, -, hserve, -⟩ := hchained.eq_serve
    rw [hserve] at hanswer
    obtain ⟨hstore, hafter⟩ := Cache.fetch_error hanswer
    refine ⟨says_stored hstore, ?_⟩
    rw [hserve]
    exact hafter
  case published =>
    rintro earlier u between w later rfl hanswer hkey hbetween
    obtain ⟨m, -, hserve, hrest⟩ := hchained.eq_serve
    obtain ⟨m', hchain, hw, -⟩ := hrest.eq_serve
    -- Nothing is kept of the key after the first fetch, nor when the second one begins.
    have hnil : m'.entriesOf u.request.key = [] := by
      rw [hchain.entriesOf_eq hbetween, hserve]
      rw [hserve] at hanswer
      exact (Cache.fetch_none hanswer).2
    rw [hw]
    exact says_stored (Cache.fetch_of_entriesOf_eq_nil (hkey ▸ hnil) _ _).symm
  case apart => exact hapart

/-- A directory with one flow of one tenant, or with none. -/
def shelf (text : Option String) : Files.Tree :=
  .directory [("acme", .directory ((text.map fun text => ("greet.json", .file text)).toList))]

theorem read_shelf (text : Option String) :
    (shelf text).read (flowPath "acme" "greet") = (text.map Except.ok).getD (.error .notFound) := by
  have hcomponents : Files.components (flowPath "acme" "greet") = ["acme", "greet.json"] := by decide +kernel
  unfold Files.Tree.read Files.Tree.lookup
  rw [if_neg (by decide), hcomponents]
  cases text <;> rfl

/-- A flow that is asked for, withdrawn, asked for twice, published anew, and asked for again. -/
def withdrawn : List Fetch :=
  [⟨0, shelf (some "[\"one\"]"), ("acme", "greet")⟩, ⟨5, shelf none, ("acme", "greet")⟩,
    ⟨12, shelf none, ("acme", "greet")⟩, ⟨13, shelf (some "[\"two\"]"), ("acme", "greet")⟩]

def withdrawnFlow : Flow := ⟨.mk "one" "" [] [] none, .arr [.str "one"]⟩

/-- The second fetch finds the flow, which is gone by then: it is what the directory held at the first. -/
theorem withdrawn_found : withdrawn.Pairwise (·.now ≤ ·.now) ∧
    ∃ first second later, serveAll "flows" { ttl := 10 } withdrawn = first :: second :: later ∧
      second.answer = .ok (some withdrawnFlow) ∧
      Says "flows" second.request.files ("acme", "greet") (.ok none) ∧
      Says "flows" first.request.files ("acme", "greet") (.ok (some withdrawnFlow)) := by
  have hclock : withdrawn.Pairwise (·.now ≤ ·.now) := by decide
  have hplain : isPlainKey ("acme", "greet") = true := by decide
  have hone : Says "flows" (shelf (some "[\"one\"]")) ("acme", "greet") (.ok (some withdrawnFlow)) :=
    .flow hplain (read_shelf _) rfl
  have hnone : Says "flows" (shelf none) ("acme", "greet") (.ok none) := .missing hplain (read_shelf _)
  have hanswer : (serve "flows" (serve "flows" { ttl := 10 } withdrawn[0]).after withdrawn[1]).answer =
      .ok (some withdrawnFlow) := by
    simp [withdrawn, serve, Fetch.stored, hone.fetch_eq, Cache.fetch, Cache.lookup, Cache.writeBack, Cache.remove]
  refine ⟨hclock, _, _, _, rfl, hanswer, hnone, ?_⟩
  obtain ⟨w, hw, -, hsays, -, -⟩ :=
    (serveAll_keepsToDirectory "flows" 10 withdrawn hclock).found [_] _ _ withdrawnFlow rfl hanswer
  rcases List.mem_cons.mp hw with rfl | hw
  · exact hsays
  · obtain rfl := List.mem_singleton.mp hw
    have heq := hnone.fetch_eq.symm.trans hsays.fetch_eq
    cases heq

end FlowTree.Server
