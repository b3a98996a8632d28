import FlowTree.Proofs.Template.Segments
import Mathlib.Data.List.ReduceOption

/-! # What a path names

The value of a path is told without walking: `Leads` says what segments lead to from a value, and `Denotes`
which of the roots, the helper or the name at the end of the path counts. A walk stops at the first segment
that leads nowhere (`Stops`). So a root lacks only the last segment if and only if all before it lead
somewhere. -/

namespace FlowTree.Path

variable {a : Ambient} {c : Context} {defaults : Fields Json} {root next value : Json} {s first : String}
  {segs rest : List String} {i : Nat}

/-! ### Following segments -/

/-- From the first value the segments lead to the second: through the fields of objects, the items of arrays,
    and the length of an array or a string. -/
inductive Leads : Json → List String → Json → Prop where
  | here (value : Json) : Leads value [] value
  | field {fields : List (String × Json)} {s : String} {next value : Json} {rest : List String}
      (hfield : Fields.get? fields s = some next) (hrest : Leads next rest value) : Leads (.obj fields) (s :: rest) value
  | item {items : List Json} {s : String} {i : Nat} {next value : Json} {rest : List String} (hs : index? s = some i)
      (hitem : items[i]? = some next) (hrest : Leads next rest value) : Leads (.arr items) (s :: rest) value
  | items (items : List Json) : Leads (.arr items) ["length"] (.ofNat items.length)
  | characters (t : String) : Leads (.str t) ["length"] (.ofNat t.length)

/-- From the value the segments lead somewhere. -/
def Resolves (root : Json) (segs : List String) : Prop :=
  ∃ value, Leads root segs value

theorem ne_length_of_index? (h : index? s = some i) : s ≠ "length" := by
  rintro rfl
  have hnone : index? "length" = none := by decide
  rw [hnone] at h
  cases h

theorem resolves_field {fields : List (String × Json)} (h : Fields.get? fields s = some next) :
    Resolves (.obj fields) (s :: rest) ↔ Resolves next rest := by
  constructor
  · rintro ⟨value, hleads⟩
    cases hleads with
    | field hfield hrest =>
      obtain rfl := Option.some.inj (h.symm.trans hfield)
      exact ⟨value, hrest⟩
  · rintro ⟨value, hrest⟩
    exact ⟨value, .field h hrest⟩

theorem resolves_item {items : List Json} (hs : index? s = some i) (hitem : items[i]? = some next) :
    Resolves (.arr items) (s :: rest) ↔ Resolves next rest := by
  constructor
  · rintro ⟨value, hleads⟩
    cases hleads with
    | item hs' hitem' hrest =>
      obtain rfl := Option.some.inj (hs.symm.trans hs')
      obtain rfl := Option.some.inj (hitem.symm.trans hitem')
      exact ⟨value, hrest⟩
    | items => exact absurd rfl (ne_length_of_index? hs)
  · rintro ⟨value, hrest⟩
    exact ⟨value, .item hs hitem hrest⟩

theorem Resolves.take (h : Resolves root segs) (n : Nat) : Resolves root (segs.take n) := by
  obtain ⟨value, hleads⟩ := h
  induction hleads generalizing n with
  | here value => exact ⟨value, by simpa using .here value⟩
  | field hfield _ ih =>
    cases n with
    | zero => exact ⟨_, .here _⟩
    | succ n => exact (resolves_field hfield).mpr (ih n)
  | item hs hitem _ ih =>
    cases n with
    | zero => exact ⟨_, .here _⟩
    | succ n => exact (resolves_item hs hitem).mpr (ih n)
  | items items =>
    cases n with
    | zero => exact ⟨_, .here _⟩
    | succ n => exact ⟨_, by simpa using .items items⟩
  | characters t =>
    cases n with
    | zero => exact ⟨_, .here _⟩
    | succ n => exact ⟨_, by simpa using .characters t⟩

/-- A length has no segments of its own. -/
theorem not_resolves_length {t : String} (hroot : ∀ fields, root ≠ .obj fields) :
    ¬Resolves root ("length" :: t :: rest) := by
  rintro ⟨value, hleads⟩
  cases hleads with
  | field => exact hroot _ rfl
  | item hs => exact ne_length_of_index? hs rfl

/-! ### Walks -/

theorem later_eq_missing {w : Walk} (h : w.later = .missing i) : ∃ j, i = j + 1 ∧ w = .missing j := by
  cases w with
  | found => cases h
  | missing j =>
    cases h
    exact ⟨j, rfl, rfl⟩

theorem later_eq_found {w : Walk} (h : w.later = .found value) : w = .found value := by
  cases w with
  | found => exact h
  | missing => cases h

theorem Leads.walk_eq (h : Leads root segs value) : walk root segs = .found value := by
  induction h with
  | here value => rw [walk]
  | field hfield _ ih => simp only [walk, hfield, ih, Walk.later]
  | item hs hitem _ ih => simp only [walk, if_neg (ne_length_of_index? hs), hs, Option.bind_some, hitem, ih, Walk.later]
  | items items => simp only [walk, if_true, ofLength]
  | characters t => simp only [walk, if_true, ofLength]

theorem leads_of_walk (h : walk root segs = .found value) : Leads root segs value := by
  fun_induction walk root segs with
  | case1 =>
    cases h
    exact .here _
  | case2 fields s rest next hfield ih => exact .field hfield (ih (later_eq_found h))
  | case4 items rest =>
    cases rest with
    | nil =>
      cases h
      exact .items items
    | cons => cases h
  | case5 items s rest _ next hitem ih =>
    obtain ⟨i, hs, hitem⟩ := Option.bind_eq_some_iff.mp hitem
    exact .item hs hitem (ih (later_eq_found h))
  | case7 t rest =>
    cases rest with
    | nil =>
      cases h
      exact .characters t
    | cons => cases h
  | case3 | case6 | case8 | case9 => cases h

/-- The segments lead somewhere up to number `i`, and not beyond. -/
structure Stops (root : Json) (segs : List String) (i : Nat) : Prop where
  lt_length : i < segs.length
  resolves : Resolves root (segs.take i)
  not_resolves : ¬Resolves root (segs.take (i + 1))

theorem Stops.later (h : Stops next rest i) (hstep : ∀ segs, Resolves root (s :: segs) ↔ Resolves next segs) :
    Stops root (s :: rest) (i + 1) where
  lt_length := by simpa using h.lt_length
  resolves := (hstep _).mpr h.resolves
  not_resolves hresolves := h.not_resolves ((hstep _).mp hresolves)

theorem stops_first (h : ¬Resolves root [s]) : Stops root (s :: rest) 0 where
  lt_length := by simp
  resolves := ⟨root, .here root⟩
  not_resolves := by simpa using h

theorem stops_length {n : Nat} (hroot : ∀ fields, root ≠ .obj fields) (hlength : Resolves root ["length"])
    (h : ofLength n rest = .missing i) : Stops root ("length" :: rest) i := by
  cases rest with
  | nil => cases h
  | cons t rest =>
    cases h
    exact ⟨by simp, hlength, not_resolves_length hroot⟩

/-- A walk that finds nothing stops at the first segment that leads nowhere. -/
theorem stops_of_walk (h : walk root segs = .missing i) : Stops root segs i := by
  fun_induction walk root segs generalizing i with
  | case1 => cases h
  | case2 fields s rest next hfield ih =>
    obtain ⟨j, rfl, hwalk⟩ := later_eq_missing h
    exact (ih hwalk).later fun segs => resolves_field hfield
  | case3 fields s rest hfield =>
    cases h
    refine stops_first fun ⟨value, hleads⟩ => ?_
    cases hleads with
    | field hfield' => rw [hfield] at hfield'; cases hfield'
  | case4 items rest => exact stops_length (by simp) ⟨_, .items items⟩ h
  | case5 items s rest _ next hitem ih =>
    obtain ⟨k, hs, hitem⟩ := Option.bind_eq_some_iff.mp hitem
    obtain ⟨j, rfl, hwalk⟩ := later_eq_missing h
    exact (ih hwalk).later fun segs => resolves_item hs hitem
  | case6 items s rest hne hitem =>
    cases h
    refine stops_first fun ⟨value, hleads⟩ => ?_
    cases hleads with
    | item hs hitem' => rw [hs, Option.bind_some, hitem'] at hitem; cases hitem
    | items => exact hne rfl
  | case7 t rest => exact stops_length (by simp) ⟨_, .characters t⟩ h
  | case8 t s rest hne =>
    cases h
    refine stops_first fun ⟨value, hleads⟩ => ?_
    cases hleads with
    | characters => exact hne rfl
  | case9 root s rest hobj harr hstr =>
    cases h
    refine stops_first fun ⟨value, hleads⟩ => ?_
    cases hleads with
    | field => exact hobj _ rfl
    | item => exact harr _ rfl
    | items => exact harr _ rfl
    | characters => exact hstr _ rfl

/-- Only the last segment leads nowhere if and only if those before it lead somewhere. -/
theorem Stops.last_iff {init : List String} {last : String} (h : Stops root (init ++ [last]) i) :
    i + 1 = (init ++ [last]).length ↔ Resolves root init := by
  have hlt : i < init.length + 1 := by simpa using h.lt_length
  constructor
  · intro hi
    have hlength : i = init.length := by simpa using hi
    simpa [hlength] using h.resolves
  · intro hinit
    rcases Nat.lt_or_ge i init.length with hi | hi
    · refine absurd (hinit.take (i + 1)) ?_
      simpa [List.take_append_of_le_length hi] using h.not_resolves
    · simp only [List.length_append, List.length_singleton]
      omega

/-! ### Roots -/

/-- The values that a first segment picks, in the order in which they count: the reserved name, the local, the
    result, the parameter, the variable and the default of that name, as far as they exist. -/
def rootValues (c : Context) (defaults : Fields Json) (first : String) : List Json :=
  [(c.scope? first).map Scope.toJson, c.locals.get? first, c.results.get? first, c.params.get? first,
    c.vars.get? first, defaults.get? first].reduceOption

theorem walkScope_eq (root : Scope) (segs : List String) : walkScope root segs = walk root.toJson segs := by
  cases root with
  | value j => rfl
  | fields fs =>
    cases segs with
    | nil => rfl
    | cons s rest => rw [walkScope, Scope.toJson, walk]

theorem map_roots (c : Context) (defaults : Fields Json) (first : String) :
    (roots c defaults first).map Scope.toJson = rootValues c defaults first := by
  have hmaps : ∀ maps : List (Fields Json),
      ((maps.filterMap fun fields => (fields.get? first).map Scope.value).map Scope.toJson) =
        (maps.map (·.get? first)).reduceOption := by
    intro maps
    rw [List.map_filterMap, List.reduceOption, List.filterMap_map]
    exact List.filterMap_congr fun fields _ => by
      cases h : fields.get? first <;> simp [h, Scope.toJson]
  rw [roots, List.map_append, hmaps, rootValues]
  cases c.scope? first <;> rfl

/-- What the segments lead to from a value, if they lead anywhere. -/
def valueFrom? (segs : List String) (root : Json) : Option Json :=
  match walk root segs with
  | .found value => some value
  | .missing _ => none

theorem valueFrom?_eq_some_iff : valueFrom? segs root = some value ↔ Leads root segs value := by
  constructor
  · intro h
    unfold valueFrom? at h
    split at h
    next hwalk => exact leads_of_walk (hwalk.trans (congrArg _ (Option.some.inj h)))
    next => cases h
  · intro h
    rw [valueFrom?, h.walk_eq]

theorem valueFrom?_eq_none_iff : valueFrom? segs root = none ↔ ¬Resolves root segs := by
  rw [Option.eq_none_iff_forall_ne_some]
  simp only [ne_eq, valueFrom?_eq_some_iff, Resolves, not_exists]

theorem found?_eq (rs : List Scope) (rest : List String) :
    found? rs rest = (rs.map Scope.toJson).findSome? (valueFrom? rest) := by
  rw [found?, List.findSome?_map]
  refine congrArg (List.findSome? · rs) (funext fun root => ?_)
  rw [walkScope_eq]
  rfl

/-- The value that counts is that of the first root from which the segments lead somewhere. -/
theorem found?_eq_some_iff : found? (roots c defaults first) rest = some value ↔
    ∃ earlier root later, rootValues c defaults first = earlier ++ root :: later ∧
      Leads root rest value ∧ ∀ r ∈ earlier, ¬Resolves r rest := by
  rw [found?_eq, map_roots, List.findSome?_eq_some_iff]
  simp only [valueFrom?_eq_some_iff, valueFrom?_eq_none_iff]

theorem found?_eq_none_iff : found? (roots c defaults first) rest = none ↔
    ∀ r ∈ rootValues c defaults first, ¬Resolves r rest := by
  rw [found?_eq, map_roots, List.findSome?_eq_none_iff]
  simp only [valueFrom?_eq_none_iff]

/-- Where no root has the whole path, one lacks only the last segment if and only if one has all before it. -/
theorem missesLast_iff_of_none {rs : List Scope} {init : List String} {last : String}
    (hnone : ∀ root ∈ rs, ¬Resolves root.toJson (init ++ [last])) :
    missesLast rs (init ++ [last]) = true ↔ ∃ root ∈ rs, Resolves root.toJson init := by
  rw [missesLast, List.any_eq_true]
  refine exists_congr fun root => and_congr_right fun hmem => ?_
  rw [walkScope_eq]
  split
  next value hwalk => exact absurd ⟨value, leads_of_walk hwalk⟩ (hnone root hmem)
  next i hwalk => rw [decide_eq_true_iff, (stops_of_walk hwalk).last_iff]

theorem missesLast_iff {init : List String} {last : String}
    (hnone : ∀ r ∈ rootValues c defaults first, ¬Resolves r (init ++ [last])) :
    missesLast (roots c defaults first) (init ++ [last]) = true ↔
      ∃ r ∈ rootValues c defaults first, Resolves r init := by
  rw [← map_roots] at hnone ⊢
  have hroots : ∀ root ∈ roots c defaults first, ¬Resolves root.toJson (init ++ [last]) :=
    fun root hmem => hnone root.toJson (List.mem_map_of_mem hmem)
  rw [missesLast_iff_of_none hroots]
  simp only [List.mem_map, exists_exists_and_eq_and]

/-! ### Paths -/

/-- The argument that the rest of a path makes up: its text without blanks and without quotes around it. -/
inductive Argument : List String → Option Json → Prop where
  | absent : Argument [] none
  | text {rest : List String} {t : String} (hrest : rest ≠ [])
      (ht : Text.Unquoted (Text.trim (".".intercalate rest)).toList t.toList) : Argument rest (some (.str t))

/-- What the last name of a path stands for alone: the variable, the default or the value of the helper of that
    name, as far as they exist. -/
def lastValues (a : Ambient) (c : Context) (defaults : Fields Json) (last : String) : List Json :=
  [c.vars.get? last, defaults.get? last, (Helper.ofName? last).map fun h => h.call a none].reduceOption

/-- The value that a path with the given segments names. -/
inductive Denotes (a : Ambient) (c : Context) (defaults : Fields Json) : List String → Json → Prop where
  | empty_segment {segs : List String} (hsegs : "" ∈ segs) : Denotes a c defaults segs (.str "")
  | root {first : String} {rest : List String} {earlier later : List Json} {root value : Json}
      (hsegs : "" ∉ first :: rest) (hroots : rootValues c defaults first = earlier ++ root :: later)
      (hearlier : ∀ r ∈ earlier, ¬Resolves r rest) (hroot : Leads root rest value) :
      Denotes a c defaults (first :: rest) value
  | helper {first : String} {rest : List String} {h : Helper} {arg : Option Json} (hsegs : "" ∉ first :: rest)
      (hnone : ∀ r ∈ rootValues c defaults first, ¬Resolves r rest) (hhelper : Helper.ofName? first = some h)
      (harg : Argument rest arg) : Denotes a c defaults (first :: rest) (h.call a arg)
  | last {first last : String} {init : List String} {value : Json} (hsegs : "" ∉ first :: (init ++ [last]))
      (hnone : ∀ r ∈ rootValues c defaults first, ¬Resolves r (init ++ [last])) (hhelper : Helper.ofName? first = none)
      (hinit : ∃ r ∈ rootValues c defaults first, Resolves r init)
      (hvalue : (lastValues a c defaults last).head? = some value) :
      Denotes a c defaults (first :: (init ++ [last])) value
  | nothing {first : String} {rest : List String} (hsegs : "" ∉ first :: rest)
      (hnone : ∀ r ∈ rootValues c defaults first, ¬Resolves r rest) (hhelper : Helper.ofName? first = none)
      (hlast : ∀ init last, rest = init ++ [last] → (∃ r ∈ rootValues c defaults first, Resolves r init) →
        lastValues a c defaults last = []) :
      Denotes a c defaults (first :: rest) (.str "")

theorem named?_eq (a : Ambient) (c : Context) (defaults : Fields Json) (last : String) :
    named? a c defaults last = (lastValues a c defaults last).head? := by
  rw [named?, lastValues]
  cases c.vars.get? last <;> cases defaults.get? last <;> cases Helper.ofName? last <;> rfl

theorem Argument.eq {arg : Option Json} (h : Argument rest arg) :
    (if rest.isEmpty then none else some (helperArg rest)) = arg := by
  cases h with
  | absent => rfl
  | text hrest ht => rw [if_neg (by simpa using hrest), helperArg, Text.unquoted_text_iff.mp ht]

theorem argument_exists (rest : List String) : Argument rest (if rest.isEmpty then none else some (helperArg rest)) := by
  cases rest with
  | nil => exact .absent
  | cons s rest => exact .text (by simp) (Text.unquoted_text_iff.mpr rfl)

theorem resolve_eq_of_segments {path : String} (hsegs : segments path = first :: rest) (hne : "" ∉ first :: rest) :
    resolve a c defaults path = resolveSegments a c defaults first rest := by
  have hany : (first :: rest).any String.isEmpty = false := by
    rw [List.any_eq_false]
    intro s hs hempty
    exact hne (String.isEmpty_iff.mp hempty ▸ hs)
  simp only [resolve, hsegs, hany, Bool.false_eq_true, if_false]

theorem Denotes.resolve_eq {path : String} (h : Denotes a c defaults (segments path) value) :
    resolve a c defaults path = value := by
  generalize hpath : segments path = segs at h
  cases h with
  | empty_segment hsegs =>
    have hany : segs.any String.isEmpty = true := List.any_eq_true.mpr ⟨"", hsegs, rfl⟩
    simp only [resolve, hpath, hany, if_true]
  | root hsegs hroots hearlier hroot =>
    rw [resolve_eq_of_segments hpath hsegs, resolveSegments,
      found?_eq_some_iff.mpr ⟨_, _, _, hroots, hroot, hearlier⟩]
  | helper hsegs hnone hhelper harg =>
    rw [resolve_eq_of_segments hpath hsegs, resolveSegments, found?_eq_none_iff.mpr hnone]
    simp only [hhelper, harg.eq]
  | last hsegs hnone hhelper hinit hvalue =>
    rw [resolve_eq_of_segments hpath hsegs, resolveSegments, found?_eq_none_iff.mpr hnone]
    simp only [hhelper, List.getLast?_concat, (missesLast_iff hnone).mpr hinit, if_true, named?_eq, hvalue,
      Option.getD_some]
  | @nothing first rest hsegs hnone hhelper hlast =>
    rw [resolve_eq_of_segments hpath hsegs, resolveSegments, found?_eq_none_iff.mpr hnone]
    rcases List.eq_nil_or_concat' rest with rfl | ⟨init, last, rfl⟩
    · simp only [hhelper, List.getLast?_nil]
    · simp only [hhelper, List.getLast?_concat]
      by_cases hinit : ∃ r ∈ rootValues c defaults first, Resolves r init
      · rw [if_pos ((missesLast_iff hnone).mpr hinit), named?_eq, hlast init last rfl hinit]
        rfl
      · rw [if_neg fun hmisses => hinit ((missesLast_iff hnone).mp hmisses)]

theorem exists_denotes (hsegs : segs ≠ []) : ∃ value, Denotes a c defaults segs value := by
  obtain ⟨first, rest, rfl⟩ := List.exists_cons_of_ne_nil hsegs
  by_cases hempty : "" ∈ first :: rest
  · exact ⟨_, .empty_segment hempty⟩
  cases hfound : found? (roots c defaults first) rest with
  | some value =>
    obtain ⟨earlier, root, later, hroots, hroot, hearlier⟩ := found?_eq_some_iff.mp hfound
    exact ⟨value, .root hempty hroots hearlier hroot⟩
  | none =>
    have hnone := found?_eq_none_iff.mp hfound
    cases hhelper : Helper.ofName? first with
    | some h => exact ⟨_, .helper hempty hnone hhelper (argument_exists rest)⟩
    | none =>
      by_cases hlast : ∀ init last, rest = init ++ [last] → (∃ r ∈ rootValues c defaults first, Resolves r init) →
          lastValues a c defaults last = []
      · exact ⟨_, .nothing hempty hnone hhelper hlast⟩
      · push Not at hlast
        obtain ⟨init, last, rfl, hinit, hvalues⟩ := hlast
        obtain ⟨value, hvalue⟩ := Option.isSome_iff_exists.mp (List.isSome_head?.mpr hvalues)
        exact ⟨value, .last hempty hnone hhelper hinit hvalue⟩

theorem denotes_iff {path : String} : Denotes a c defaults (segments path) value ↔ resolve a c defaults path = value := by
  constructor
  · exact Denotes.resolve_eq
  · rintro rfl
    obtain ⟨value, hvalue⟩ := exists_denotes (a := a) (c := c) (segments_ne_nil path)
    rw [hvalue.resolve_eq]
    exact hvalue

/-! ### Short paths -/

/-- The names that stand for a part of the context. -/
def reservedRoots : List String :=
  ["local", "params", "result", "variables", "flow", "endpoint", "req", "error"]

theorem scope?_eq_none_iff : c.scope? s = none ↔ s ∉ reservedRoots := by
  unfold Context.scope? reservedRoots
  constructor
  · intro h hs
    simp only [List.mem_cons, List.not_mem_nil, or_false] at hs
    rcases hs with rfl | rfl | rfl | rfl | rfl | rfl | rfl | rfl <;> simp at h
  · intro hs
    simp only [List.mem_cons, List.not_mem_nil, or_false, not_or] at hs
    simp [hs]

theorem resolve_of_first_root {path : String} (hsegs : segments path = first :: rest) (hne : "" ∉ first :: rest)
    (hhead : (rootValues c defaults first).head? = some root) (hroot : Leads root rest value) :
    resolve a c defaults path = value := by
  obtain ⟨later, hlater⟩ := List.head?_eq_some_iff.mp hhead
  have hroots : rootValues c defaults first = [] ++ root :: later := hlater
  exact denotes_iff.mp (hsegs ▸ .root hne hroots (by simp) hroot)

/-- A local is found by its name alone. -/
theorem resolve_local (hplain : IsPlain s) (hroot : s ∉ reservedRoots) (h : c.locals.get? s = some value) :
    resolve a c defaults s = value := by
  have hpath : ".".intercalate [s] = s := by simp
  have hsegs : segments s = [s] := by
    conv => lhs; rw [← hpath]
    exact segments_intercalate (by simp) (by simpa using hplain)
  have hroots : (rootValues c defaults s).head? = some value := by
    rw [rootValues, scope?_eq_none_iff.mpr hroot, h]
    rfl
  exact resolve_of_first_root hsegs (by simpa using hplain.ne_empty.symm) hroots (.here value)

theorem isPlain_params : IsPlain "params" := by decide

/-- A parameter is found behind `params`, whatever else has its name or that of the parameters. -/
theorem resolve_param (hplain : IsPlain s) (h : c.params.get? s = some value) :
    resolve a c defaults ("params." ++ s) = value := by
  have hpath : ".".intercalate ["params", s] = "params." ++ s := by
    rw [← String.toList_inj]
    simp
  have hsegs : segments ("params." ++ s) = ["params", s] := by
    rw [← hpath]
    exact segments_intercalate (by simp) (by simpa using ⟨isPlain_params, hplain⟩)
  have hroots : (rootValues c defaults "params").head? = some (.obj c.params) := rfl
  exact resolve_of_first_root hsegs (by simpa using hplain.ne_empty.symm) hroots (.field h (.here value))

/-- What a path comes to: its segments are the texts between the dots of its expanded form, and its value is
    the one that they denote. -/
structure Resolution (a : Ambient) (c : Context) (defaults : Fields Json) (path : String) : Prop where
  segments_ne_nil : segments path ≠ []
  segments_dotless : ∀ s ∈ segments path, '.' ∉ s.toList
  segments_joined : ".".intercalate (segments path) = expand (Text.trim path)
  value_iff : ∀ value, resolve a c defaults path = value ↔ Denotes a c defaults (segments path) value

theorem resolution_of_path (a : Ambient) (c : Context) (defaults : Fields Json) (path : String) :
    Resolution a c defaults path where
  segments_ne_nil := segments_ne_nil path
  segments_dotless := segments_dotless path
  segments_joined := intercalate_segments path
  value_iff _ := denotes_iff.symm

end FlowTree.Path
