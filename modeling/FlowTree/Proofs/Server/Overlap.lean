import FlowTree.Proofs.Server.Fetches
import Mathlib.Logic.Relation

/-! # Overlapping fetches

Looking into the cache, reading the store and writing back are three steps of a fetch, and the steps of several
fetches mix, so that what was read first may be written back last. A flow that was replaced comes back only that way:
every answer to a later fetch was read from a state at least as new (`Fresh`), or else was written back late by a fetch
that was already on its way (`Late`). -/

namespace FlowTree.Server

/-- How far a fetch has come. A fetch that has read the store knows which of its states it has seen. -/
inductive Phase where
  | begun
  | missed
  | read (seen : Nat) (fetched : Option Flow)
  | done (time : Nat) (answer : Except StoreError (Option Flow))

/-- Fetches of one key on their way. `states` is what the store has said of the key so far, the newest state last. -/
structure Scene where
  now : Nat
  cache : Cache
  states : List (Except StoreError (Option Flow))
  fetches : List Phase

namespace Scene

def start (ttl : Nat) (state : Except StoreError (Option Flow)) : Scene :=
  ⟨0, { ttl }, [state], []⟩

/-- The fetch `i` goes on to a phase and leaves a cache behind. -/
def advance (s : Scene) (i : Nat) (phase : Phase) (cache : Cache) : Scene :=
  { s with cache, fetches := s.fetches.set i phase }

/-- The fetch `i` writes back what it has read, and is done. -/
def finish (s : Scene) (key : FlowKey) (i : Nat) (fetched : Option Flow) : Scene :=
  s.advance i (.done s.now (.ok fetched)) (s.cache.writeBack s.now key fetched)

end Scene

/-- What a fetch can do in a scene: the phase it is in, the next one, and the cache then. -/
inductive Advance (key : FlowKey) (s : Scene) : Phase → Phase → Cache → Prop where
  | hit {flow : Flow} (hlookup : s.cache.lookup s.now key = some flow) :
      Advance key s .begun (.done s.now (.ok (some flow))) s.cache
  | miss (hlookup : s.cache.lookup s.now key = none) : Advance key s .begun .missed s.cache
  | read {seen : Nat} {fetched : Option Flow} (hnewest : seen + 1 = s.states.length)
      (hstate : s.states[seen]? = some (.ok fetched)) : Advance key s .missed (.read seen fetched) s.cache
  | fail {e : StoreError} (hstate : s.states.getLast? = some (.error e)) :
      Advance key s .missed (.done s.now (.error e)) s.cache
  | writeBack {seen : Nat} {fetched : Option Flow} :
      Advance key s (.read seen fetched) (.done s.now (.ok fetched)) (s.cache.writeBack s.now key fetched)

/-- Time passes, the flow is published, replaced, withdrawn or damaged, a fetch begins, or a fetch goes on. -/
inductive Step (key : FlowKey) : Scene → Scene → Prop where
  | wait (s : Scene) (time : Nat) : Step key s { s with now := s.now + time }
  | store (s : Scene) (state : Except StoreError (Option Flow)) : Step key s { s with states := s.states ++ [state] }
  | begin (s : Scene) : Step key s { s with fetches := s.fetches ++ [.begun] }
  | advance {s : Scene} {i : Nat} {phase next : Phase} {cache : Cache} (hphase : s.fetches[i]? = some phase)
      (hnext : Advance key s phase next cache) : Step key s (s.advance i next cache)

/-- Steps of any number of fetches, in any order. -/
abbrev Reaches (key : FlowKey) : Scene → Scene → Prop :=
  Relation.ReflTransGen (Step key)

variable {key : FlowKey} {s s' s₁ s₂ : Scene} {i j b c seen time ttl : Nat} {phase next : Phase} {cache : Cache}
  {fetched : Option Flow} {flow : Flow} {state : Except StoreError (Option Flow)}

theorem Scene.fetches_advance (h : s.fetches[i]? = some phase) (next : Phase) (cache : Cache) (j : Nat) :
    (s.advance i next cache).fetches[j]? = if i = j then some next else s.fetches[j]? := by
  obtain ⟨hi, -⟩ := List.getElem?_eq_some_iff.mp h
  rw [Scene.advance, List.getElem?_set, if_pos hi]

@[simp] theorem Scene.length_finish (s : Scene) (key : FlowKey) (i : Nat) (fetched : Option Flow) :
    (s.finish key i fetched).fetches.length = s.fetches.length :=
  List.length_set

@[simp] theorem Scene.ttl_finish (s : Scene) (key : FlowKey) (i : Nat) (fetched : Option Flow) :
    (s.finish key i fetched).cache.ttl = s.cache.ttl :=
  Cache.ttl_writeBack ..

/-- A fetch that is left alone does what a fetch at one instant does. -/
theorem reaches_fetch (key : FlowKey) (s : Scene) (hstate : s.states.getLast? = some state) :
    Reaches key s { s with
      cache := (s.cache.fetch s.now state key).2
      fetches := s.fetches ++ [.done s.now (s.cache.fetch s.now state key).1] } := by
  have hlast (phase : Phase) : (s.fetches ++ [phase])[s.fetches.length]? = some phase := List.getElem?_concat_length
  have hset (phase next : Phase) : (s.fetches ++ [phase]).set s.fetches.length next = s.fetches ++ [next] := by simp
  have hbegin : Reaches key s { s with fetches := s.fetches ++ [.begun] } := .single (.begin s)
  cases hlookup : s.cache.lookup s.now key with
  | some flow =>
    have hhit := hbegin.tail (.advance (hlast _) (.hit hlookup))
    rw [Scene.advance, hset] at hhit
    simpa [Cache.fetch, hlookup] using hhit
  | none =>
    have hmiss := hbegin.tail (.advance (hlast _) (.miss hlookup))
    rw [Scene.advance, hset] at hmiss
    cases state with
    | error e =>
      have hfail := hmiss.tail (.advance (hlast _) (.fail hstate))
      rw [Scene.advance, hset] at hfail
      simpa [Cache.fetch, hlookup] using hfail
    | ok fetched =>
      have hne : s.states ≠ [] := fun h => by simp [h] at hstate
      have hnewest : s.states.length - 1 + 1 = s.states.length :=
        Nat.sub_add_cancel (List.length_pos_iff.mpr hne)
      have hread := hmiss.tail (.advance (hlast _) (.read hnewest (List.getLast?_eq_getElem? ▸ hstate)))
      rw [Scene.advance, hset] at hread
      have hwrite := hread.tail (.advance (hlast _) .writeBack)
      rw [Scene.advance, hset] at hwrite
      simpa [Cache.fetch, hlookup] using hwrite

/-! ### What a step can do -/

/-- What a scene and a later one have in common. -/
structure Later (s s' : Scene) : Prop where
  now_le : s.now ≤ s'.now
  ttl_eq : s'.cache.ttl = s.cache.ttl
  states : s.states <+: s'.states
  fetches_le : s.fetches.length ≤ s'.fetches.length
  done : ∀ {i time : Nat} {answer : Except StoreError (Option Flow)},
    s.fetches[i]? = some (.done time answer) → s'.fetches[i]? = some (.done time answer)

theorem Later.refl (s : Scene) : Later s s :=
  ⟨Nat.le_refl _, rfl, List.prefix_refl _, Nat.le_refl _, id⟩

theorem Later.trans (h : Later s s₁) (h' : Later s₁ s₂) : Later s s₂ :=
  ⟨Nat.le_trans h.now_le h'.now_le, h'.ttl_eq.trans h.ttl_eq, h.states.trans h'.states,
    Nat.le_trans h.fetches_le h'.fetches_le, fun hdone => h'.done (h.done hdone)⟩

theorem Later.getElem?_states (h : Later s s') (hi : s.states[i]? = some state) : s'.states[i]? = some state := by
  obtain ⟨more, hmore⟩ := h.states
  rw [← hmore, List.getElem?_append_left (List.getElem?_eq_some_iff.mp hi).1]
  exact hi

theorem Advance.ttl_eq (h : Advance key s phase next cache) : cache.ttl = s.cache.ttl := by
  cases h with
  | writeBack => exact Cache.ttl_writeBack ..
  | _ => rfl

theorem Step.later (h : Step key s s') : Later s s' := by
  cases h with
  | wait time => exact { Later.refl s with now_le := Nat.le_add_right _ _ }
  | store state => exact { Later.refl s with states := List.prefix_append _ _ }
  | begin =>
    refine { Later.refl s with fetches_le := by simp, done := fun hdone => ?_ }
    rw [List.getElem?_append_left (List.getElem?_eq_some_iff.mp hdone).1]
    exact hdone
  | @advance i phase next cache hphase hnext =>
    refine { Later.refl s with ttl_eq := hnext.ttl_eq, fetches_le := by simp [Scene.advance], done := ?_ }
    intro j time answer hdone
    rw [Scene.fetches_advance hphase, if_neg]
    · exact hdone
    · -- Nothing comes after the answer.
      rintro rfl
      obtain rfl : phase = .done time answer := Option.some.inj (hphase.symm.trans hdone)
      cases hnext

theorem Reaches.later (h : Reaches key s s') : Later s s' := by
  induction h with
  | refl => exact Later.refl s
  | tail _ hstep ih => exact ih.trans hstep.later

/-- Every fetch was in its phase before, or has just begun, or has just come to it. -/
theorem Step.fetch_cases (h : Step key s s') (hphase : s'.fetches[i]? = some phase) :
    s.fetches[i]? = some phase ∨ phase = .begun ∨
      ∃ before cache, s.fetches[i]? = some before ∧ Advance key s before phase cache := by
  cases h with
  | wait time => exact Or.inl hphase
  | store state => exact Or.inl hphase
  | begin =>
    rcases Nat.lt_or_ge i s.fetches.length with hi | hi
    · exact Or.inl (by rwa [List.getElem?_append_left hi] at hphase)
    · rw [List.getElem?_append_right hi, List.getElem?_singleton] at hphase
      split at hphase
      · exact Or.inr (Or.inl (Option.some.inj hphase).symm)
      · cases hphase
  | @advance j before next cache hbefore hnext =>
    rw [Scene.fetches_advance hbefore] at hphase
    split at hphase
    next hij =>
      obtain rfl : next = phase := Option.some.inj hphase
      exact Or.inr (Or.inr ⟨before, cache, hij ▸ hbefore, hnext⟩)
    next => exact Or.inl hphase

/-- Every kept flow was kept before, or has just been written back by a fetch that had read it. -/
theorem Step.entry_cases {e : CacheEntry} (h : Step key s s') (he : e ∈ s'.cache.entries) :
    e ∈ s.cache.entries ∨ (e.loadedAt = s.now ∧ ∃ i seen : Nat, s.fetches[i]? = some (.read seen (some e.flow)) ∧
      s'.fetches[i]? = some (.done s.now (.ok (some e.flow)))) := by
  cases h with
  | wait time => exact Or.inl he
  | store state => exact Or.inl he
  | begin => exact Or.inl he
  | @advance i phase next cache hphase hnext =>
    cases hnext with
    | @writeBack seen fetched =>
      rcases Cache.mem_writeBack he with ⟨flow, rfl, -, rfl⟩ | ⟨he, -⟩
      · exact Or.inr ⟨rfl, i, seen, hphase, by rw [Scene.fetches_advance hphase, if_pos rfl]⟩
      · exact Or.inl he
    | _ => exact Or.inl he

/-! ### What is on its way -/

/-- What the fetches on their way have read is what the store said then. -/
def Sound (s : Scene) : Prop :=
  ∀ (i seen : Nat) (fetched : Option Flow), s.fetches[i]? = some (.read seen fetched) → s.states[seen]? = some (.ok fetched)

theorem Sound.step (h : Sound s) (hstep : Step key s s') : Sound s' := by
  intro i seen fetched hphase
  refine hstep.later.getElem?_states ?_
  rcases hstep.fetch_cases hphase with hphase | hbegun | ⟨before, cache, -, hadvance⟩
  · exact h _ _ _ hphase
  · cases hbegun
  · cases hadvance with
    | read _ hstate => exact hstate

theorem sound_of_reaches (h : Reaches key (.start ttl state) s) : Sound s := by
  induction h with
  | refl => exact fun _ _ _ hphase => by simp [Scene.start] at hphase
  | tail _ hstep ih => exact ih.step hstep

/-- A flow is in one of the states from `seen` on. -/
def Fresh (seen : Nat) (s : Scene) (flow : Flow) : Prop :=
  ∃ m, seen ≤ m ∧ s.states[m]? = some (.ok (some flow))

/-- A flow of an older state, written back at a time by a fetch that had read it in the scene `s₁` already. -/
def Late (s₁ : Scene) (seen : Nat) (s : Scene) (flow : Flow) (time : Nat) : Prop :=
  ∃ i m : Nat, m < seen ∧ s₁.fetches[i]? = some (.read m (some flow)) ∧ s.fetches[i]? = some (.done time (.ok (some flow)))

theorem Fresh.later (h : Fresh seen s flow) (hlater : Later s s') : Fresh seen s' flow := by
  obtain ⟨m, hm, hstate⟩ := h
  exact ⟨m, hm, hlater.getElem?_states hstate⟩

theorem Late.later (h : Late s₁ seen s flow time) (hlater : Later s s') : Late s₁ seen s' flow time := by
  obtain ⟨i, m, hm, hread, hdone⟩ := h
  exact ⟨i, m, hm, hread, hlater.done hdone⟩

/-- What holds since the scene `s₁`, in which the state `seen` was known already. -/
structure Since (key : FlowKey) (s₁ : Scene) (seen : Nat) (s : Scene) : Prop where
  later : Later s₁ s
  /-- What is on its way and older than `seen` was on its way then. -/
  pending : ∀ {i m : Nat} {fetched : Option Flow}, s.fetches[i]? = some (.read m fetched) → m < seen →
    s₁.fetches[i]? = some (.read m fetched)
  kept : ∀ e ∈ s.cache.entries, e.key = key →
    e.loadedAt ≤ s.now ∧ (Fresh seen s e.flow ∨ Late s₁ seen s e.flow e.loadedAt)
  answered : ∀ {c time : Nat} {flow : Flow}, s₁.fetches.length ≤ c →
    s.fetches[c]? = some (.done time (.ok (some flow))) →
    Fresh seen s flow ∨ ∃ t, Late s₁ seen s flow t ∧ t ≤ time ∧ time - t < s₁.cache.ttl

theorem Since.step (h : Since key s₁ seen s) (hsound : Sound s) (hseen : seen < s₁.states.length)
    (hstep : Step key s s') : Since key s₁ seen s' := by
  have hlater := hstep.later
  have hnewest : seen < s.states.length := Nat.lt_of_lt_of_le hseen h.later.states.length_le
  constructor
  case later => exact h.later.trans hlater
  case pending =>
    intro i m fetched hphase hm
    rcases hstep.fetch_cases hphase with hphase | hbegun | ⟨before, cache, -, hadvance⟩
    · exact h.pending hphase hm
    · cases hbegun
    · -- What is read now is the newest state.
      cases hadvance with
      | read hlast => omega
  case kept =>
    intro e he hkey
    rcases hstep.entry_cases he with he | ⟨htime, i, m, hread, hdone⟩
    · obtain ⟨hle, hflow⟩ := h.kept e he hkey
      exact ⟨Nat.le_trans hle hlater.now_le, hflow.imp (·.later hlater) (·.later hlater)⟩
    · refine ⟨htime ▸ hlater.now_le, ?_⟩
      rcases Nat.lt_or_ge m seen with hm | hm
      · exact Or.inr ⟨i, m, hm, h.pending hread hm, htime ▸ hdone⟩
      · exact Or.inl ⟨m, hm, hlater.getElem?_states (hsound _ _ _ hread)⟩
  case answered =>
    intro c time flow hc hdone
    rcases hstep.fetch_cases hdone with hdone | hbegun | ⟨before, cache, hbefore, hadvance⟩
    · exact (h.answered hc hdone).imp (·.later hlater) fun ⟨t, hlate, ht⟩ => ⟨t, hlate.later hlater, ht⟩
    · cases hbegun
    · cases hadvance with
      | hit hlookup =>
        obtain ⟨e, he, hkey, rfl, hage⟩ := Cache.exists_of_lookup hlookup
        obtain ⟨hle, hflow⟩ := h.kept e he hkey
        rw [h.later.ttl_eq] at hage
        exact hflow.imp (·.later hlater) fun hlate => ⟨e.loadedAt, hlate.later hlater, hle, hage⟩
      | @writeBack m fetched =>
        -- The fetch has begun since, so it was not on its way then.
        rcases Nat.lt_or_ge m seen with hm | hm
        · have hi := (List.getElem?_eq_some_iff.mp (h.pending hbefore hm)).1
          omega
        · exact Or.inl ⟨m, hm, hlater.getElem?_states (hsound _ _ _ hbefore)⟩

/-- Once a fetch has written back what it read, nothing older is kept. -/
theorem since_finish (hsound : Sound s) (hphase : s.fetches[b]? = some (.read seen fetched)) :
    Since key (s.finish key b fetched) seen (s.finish key b fetched) := by
  have hstate : (s.finish key b fetched).states[seen]? = some (.ok fetched) := hsound _ _ _ hphase
  constructor
  case later => exact Later.refl _
  case pending => exact fun hread _ => hread
  case kept =>
    intro e he hkey
    rcases Cache.mem_writeBack he with ⟨flow, rfl, -, rfl⟩ | ⟨-, hne⟩
    · exact ⟨Nat.le_refl _, Or.inl ⟨seen, Nat.le_refl _, hstate⟩⟩
    · exact absurd hkey hne
  case answered =>
    intro c time flow hc hdone
    have hlt := (List.getElem?_eq_some_iff.mp hdone).1
    omega

theorem since_of_reaches (hstart : Reaches key (.start ttl state) s) (hphase : s.fetches[b]? = some (.read seen fetched))
    (hrun : Reaches key (s.finish key b fetched) s₂) : Since key (s.finish key b fetched) seen s₂ ∧ Sound s₂ := by
  have hsound : Sound s := sound_of_reaches hstart
  have hseen : seen < (s.finish key b fetched).states.length :=
    (List.getElem?_eq_some_iff.mp (hsound _ _ _ hphase)).1
  induction hrun with
  | refl => exact ⟨since_finish hsound hphase, hsound.step (.advance hphase .writeBack)⟩
  | tail _ hstep ih => exact ⟨ih.1.step ih.2 hseen hstep, ih.2.step hstep⟩

/-! ### A flow that comes back -/

def version (id : String) : Flow :=
  ⟨.mk id "" [] [] none, .null⟩

/-- Two fetches are on their way and a flow has been replaced. The cache keeps at most one flow, loaded now. -/
def crossing (key : FlowKey) (ttl : Nat) (kept : Option String) (fetches : List Phase) : Scene :=
  ⟨0, ⟨ttl, (kept.map fun id => ⟨key, 0, version id⟩).toList⟩,
    [.ok (some (version "old")), .ok (some (version "new"))], fetches⟩

theorem finish_crossing (httl : 0 < ttl) (key : FlowKey) (kept : Option String) (fetches : List Phase) (i : Nat)
    (id : String) : (crossing key ttl kept fetches).finish key i (some (version id)) =
      crossing key ttl (some id) (fetches.set i (.done 0 (.ok (some (version id))))) := by
  have hremoved : (crossing key ttl kept fetches).cache.entries.filter (fun e => e.key ≠ key) = [] := by
    cases kept <;> simp [crossing]
  have hne : (crossing key ttl kept fetches).cache.ttl ≠ 0 := Nat.ne_of_gt httl
  rw [Scene.finish, Cache.writeBack, Cache.remove, hremoved, if_neg hne]
  rfl

/-- The first fetch has read the flow before it was replaced, the second one after. -/
def bothRead (key : FlowKey) (ttl : Nat) : Scene :=
  crossing key ttl none [.read 0 (some (version "old")), .read 1 (some (version "new"))]

/-- The second fetch has written back, then the first one has, and a third one has found what the first one wrote. -/
def overtaken (key : FlowKey) (ttl : Nat) : Scene :=
  crossing key ttl (some "old") [.done 0 (.ok (some (version "old"))), .done 0 (.ok (some (version "new"))),
    .done 0 (.ok (some (version "old")))]

theorem reaches_bothRead (key : FlowKey) (ttl : Nat) :
    Reaches key (.start ttl (.ok (some (version "old")))) (bothRead key ttl) := by
  refine .head (.begin _) (.head (.advance (i := 0) rfl (.miss rfl)) (.head (.advance (i := 0) rfl (.read rfl rfl)) ?_))
  refine .head (.store _ (.ok (some (version "new")))) (.head (.begin _) ?_)
  exact .head (.advance (i := 1) rfl (.miss rfl)) (.single (.advance (i := 1) rfl (.read rfl rfl)))

theorem reaches_overtaken (key : FlowKey) (httl : 0 < ttl) :
    Reaches key ((bothRead key ttl).finish key 1 (some (version "new"))) (overtaken key ttl) := by
  unfold bothRead
  rw [finish_crossing httl]
  refine .head (.advance (i := 0) rfl .writeBack) ?_
  show Reaches key ((crossing key ttl _ _).finish key 0 (some (version "old"))) _
  rw [finish_crossing httl]
  have hlookup (fetches : List Phase) :
      (crossing key ttl (some "old") fetches).cache.lookup 0 key = some (version "old") := by
    simp [crossing, Cache.lookup, httl]
  exact .head (.begin _) (.single (.advance (i := 2) rfl (.hit (hlookup _))))

theorem not_fresh_old (key : FlowKey) (ttl : Nat) (kept : Option String) (fetches : List Phase) :
    ¬ Fresh 1 (crossing key ttl kept fetches) (version "old") := by
  rintro ⟨m, hm, hstate⟩
  match m, hm with
  | 1, _ => simp [crossing, version] at hstate
  | m + 2, _ => simp [crossing] at hstate

/-! ### Later fetches -/

/-- A fetch that begins after another one has read a state and is done finds a flow of that state or of a newer one,
or one of an older state that was written back late, less than the time to live ago. -/
theorem fresh_or_late {s₀ : Scene} (hstart : Reaches key (.start ttl state) s₀)
    (hphase : s₀.fetches[b]? = some (.read seen fetched)) (hrun : Reaches key (s₀.finish key b fetched) s₂)
    (hlater : s₀.fetches.length ≤ c) (hdone : s₂.fetches[c]? = some (.done time (.ok (some flow)))) :
    Fresh seen s₂ flow ∨
      ∃ t, Late (s₀.finish key b fetched) seen s₂ flow t ∧ t ≤ time ∧ time - t < ttl := by
  have hanswer := (since_of_reaches hstart hphase hrun).1.answered (s₀.length_finish .. ▸ hlater) hdone
  rwa [s₀.ttl_finish, hstart.later.ttl_eq] at hanswer

/-- What was written back last had been read first. -/
theorem overtaken_late :
    ∃ t, Late ((bothRead ("acme", "greet") 10).finish ("acme", "greet") 1 (some (version "new"))) 1
      (overtaken ("acme", "greet") 10) (version "old") t ∧ t ≤ 0 ∧ 0 - t < 10 :=
  (fresh_or_late (c := 2) (reaches_bothRead _ _) rfl (reaches_overtaken _ (by decide)) (Nat.le_refl 2)
    rfl).resolve_left (not_fresh_old _ _ _ _)

/-- After a fetch has read a state and is done, no fetch that begins then finds a flow that is in no state since. -/
def NeverGoesBack (ttl : Nat) : Prop :=
  ∀ {key : FlowKey} {state : Except StoreError (Option Flow)} {s₀ s₂ : Scene} {b seen : Nat} {fetched : Option Flow}
    {c time : Nat} {flow : Flow},
    Reaches key (.start ttl state) s₀ → s₀.fetches[b]? = some (.read seen fetched) →
    Reaches key (s₀.finish key b fetched) s₂ → s₀.fetches.length ≤ c →
    s₂.fetches[c]? = some (.done time (.ok (some flow))) → Fresh seen s₂ flow

theorem not_neverGoesBack (httl : 0 < ttl) : ¬ NeverGoesBack ttl := fun h =>
  not_fresh_old ("acme", "greet") ttl _ _
    (h (c := 2) (reaches_bothRead _ _) rfl (reaches_overtaken _ httl) (Nat.le_refl 2) rfl)

/-- A flow comes back after it was replaced. -/
theorem not_neverGoesBack_ten : ¬ NeverGoesBack 10 :=
  not_neverGoesBack (by decide)

/-- Exactly a cache that keeps nothing never goes back. -/
theorem neverGoesBack_iff (ttl : Nat) : NeverGoesBack ttl ↔ ttl = 0 := by
  constructor
  · exact fun h => Nat.eq_zero_of_not_pos fun httl => not_neverGoesBack httl h
  · rintro rfl key state s₀ s₂ b seen fetched c time flow hstart hphase hrun hlater hdone
    rcases (since_of_reaches hstart hphase hrun).1.answered (s₀.length_finish .. ▸ hlater) hdone with
      hfresh | ⟨t, -, -, hage⟩
    · exact hfresh
    · rw [s₀.ttl_finish, hstart.later.ttl_eq] at hage
      exact absurd hage (Nat.not_lt_zero _)

end FlowTree.Server
