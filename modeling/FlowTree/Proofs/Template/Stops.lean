import FlowTree.Proofs.Template.Resolution

/-! # Where a walk stops

A walk that finds a value finds one at every segment on the way. A walk that finds none tells how many segments come
before the first that leads nowhere, whether that is a field, an item, or a segment behind a length; and a map of
named values is walked like the object with these fields. So this number is one less than that of all segments if
and only if only the last segment leads nowhere, whatever kind of root the segments are followed from. -/

namespace FlowTree.Path

variable {root : Json} {segs init : List String} {i j : Nat}

/-- The walk comes to a value. -/
def Walk.Arrives (w : Walk) : Prop :=
  ∃ value, w = .found value

instance : (w : Walk) → Decidable w.Arrives
  | .found value => .isTrue ⟨value, rfl⟩
  | .missing _ => .isFalse nofun

theorem arrives_walk_iff : (walk root segs).Arrives ↔ Resolves root segs :=
  exists_congr fun _ => ⟨leads_of_walk, Leads.walk_eq⟩

theorem arrives_walkScope_iff {scope : Scope} : (walkScope scope segs).Arrives ↔ Resolves scope.toJson segs := by
  rw [walkScope_eq, arrives_walk_iff]

theorem Resolves.begins (h : Resolves root segs) (hinit : init <+: segs) : Resolves root init := by
  rw [List.prefix_iff_eq_take.mp hinit]
  exact h.take init.length

/-! ### The number of a walk -/

theorem Stops.le (h : Stops root segs i) (h' : Stops root segs j) : i ≤ j := by
  refine Nat.le_of_not_lt fun hlt => h'.not_resolves ?_
  have hresolves := h.resolves.take (j + 1)
  rwa [List.take_take, Nat.min_eq_left hlt] at hresolves

theorem walk_eq_missing_iff : walk root segs = .missing i ↔ Stops root segs i := by
  constructor
  · exact stops_of_walk
  · intro h
    cases hwalk : walk root segs with
    | found value => exact absurd (Resolves.take ⟨value, leads_of_walk hwalk⟩ (i + 1)) h.not_resolves
    | missing j =>
      have hj := stops_of_walk hwalk
      rw [Nat.le_antisymm (hj.le h) (h.le hj)]

/-! ### Roots -/

theorem found?_eq_none_iff_arrives {rs : List Scope} :
    found? rs segs = none ↔ ∀ root ∈ rs, ¬(walkScope root segs).Arrives := by
  rw [found?, List.findSome?_eq_none_iff]
  refine forall₂_congr fun root _ => ?_
  cases walkScope root segs with
  | found value => simp [Walk.Arrives]
  | missing i => simp [Walk.Arrives]

/-- What a walk tells of the segments that it follows. -/
structure TellsStop : Prop where
  /-- Where segments lead to a value, those they begin with do. -/
  begins : ∀ root segs init, (walk root segs).Arrives → init <+: segs → (walk root init).Arrives
  /-- The number is that of the segments before the first that leads nowhere. -/
  missing_iff : ∀ root segs i, walk root segs = .missing i ↔ i < segs.length ∧
    (walk root (segs.take i)).Arrives ∧ ¬(walk root (segs.take (i + 1))).Arrives
  /-- A map is walked like the object with the same fields. -/
  fields : ∀ fields segs, walkScope (.fields fields) segs = walk (.obj fields) segs
  /-- All roots are passed over if and only if the segments lead nowhere from any of them. -/
  passed_iff : ∀ rs segs, found? rs segs = none ↔ ∀ root ∈ rs, ¬(walkScope root segs).Arrives
  /-- If all are passed over, some root lacks only the last segment if and only if it has all before it. -/
  lacksLast_iff : ∀ rs segs, segs ≠ [] → found? rs segs = none →
    (missesLast rs segs = true ↔ ∃ root ∈ rs, (walkScope root segs.dropLast).Arrives)

theorem walk_tellsStop : TellsStop where
  begins root segs init h hinit := arrives_walk_iff.mpr ((arrives_walk_iff.mp h).begins hinit)
  missing_iff root segs i := by
    rw [walk_eq_missing_iff, arrives_walk_iff, arrives_walk_iff]
    exact ⟨fun h => ⟨h.lt_length, h.resolves, h.not_resolves⟩, fun ⟨hlt, htake, hnext⟩ => ⟨hlt, htake, hnext⟩⟩
  fields fields segs := walkScope_eq (.fields fields) segs
  passed_iff rs segs := found?_eq_none_iff_arrives
  lacksLast_iff rs segs hsegs hfound := by
    obtain ⟨init, last, rfl⟩ := (List.eq_nil_or_concat' segs).resolve_left hsegs
    have hnone : ∀ root ∈ rs, ¬Resolves root.toJson (init ++ [last]) := fun root hmem hroot =>
      found?_eq_none_iff_arrives.mp hfound root hmem (arrives_walkScope_iff.mpr hroot)
    rw [missesLast_iff_of_none hnone, List.dropLast_concat]
    simp only [arrives_walkScope_iff]

/-- Only the segment behind the length of an item is missing. -/
theorem lacksLast_length : missesLast [.fields [("row", .arr [.null, .str "ab"])]] ["row", "1", "length", "x"] = true :=
  (walk_tellsStop.lacksLast_iff _ _ (by simp) rfl).mpr ⟨_, List.mem_singleton_self _, by decide⟩

end FlowTree.Path
