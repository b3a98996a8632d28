import FlowTree.Server.Store
import FlowTree.Proofs.Text.Search

/-! # Flow files

A plain name holds no slash and no dot. So the path of a flow whose tenant and slug are plain has two components,
neither of which leads upwards: what is read there lies directly inside the directory of the tenant. No two flows
have the same path. -/

namespace FlowTree

/-! ### Names on the way -/

namespace Files.Tree

/-- A name that leads downwards is looked up in a directory. -/
theorem lookupFrom_name {above : List Tree} {tree found : Tree} {name : String} {rest : List String}
    (hidle : isIdle name = false) (hup : name ≠ "..") (h : lookupFrom above tree (name :: rest) = .ok found) :
    ∃ entries child, tree = .directory entries ∧ Fields.get? entries name = some child ∧
      lookupFrom (tree :: above) child rest = .ok found := by
  cases tree with
  | file content => cases h
  | directory entries =>
    rw [lookupFrom.eq_def] at h
    simp only [hidle, hup, Bool.false_eq_true, if_false] at h
    split at h
    next => cases h
    next =>
      cases hget : Fields.get? entries name with
      | none => simp [hget] at h
      | some child =>
        simp only [hget] at h
        exact ⟨entries, child, rfl, hget, h⟩

theorem lookup_of_read {tree : Tree} {path content : String} (h : tree.read path = .ok content) :
    tree.lookup path = .ok (.file content) := by
  unfold read at h
  split at h
  next hlookup => rw [hlookup, Except.ok.inj h]
  next => cases h
  next => cases h

theorem lookupFrom_of_lookup {tree found : Tree} {path : String} (h : tree.lookup path = .ok found) :
    lookupFrom [] tree (components path) = .ok found := by
  unfold lookup at h
  split at h
  · cases h
  · exact h

end Files.Tree

namespace Server

variable {name tenant slug tenant' slug' : String}

/-! ### Plain names -/

/-- At least one character, and only letters and digits of ASCII, hyphens and underscores. -/
structure IsPlain (name : String) : Prop where
  ne_empty : name ≠ ""
  chars : ∀ c ∈ name.toList, c.isAlphanum = true ∨ c = '-' ∨ c = '_'

theorem isPlainName_iff : isPlainName name = true ↔ IsPlain name := by
  rw [isPlainName, Bool.and_eq_true, List.all_eq_true]
  constructor
  · rintro ⟨hne, hchars⟩
    exact ⟨by simpa using hne, fun c hc => by simpa [or_assoc] using hchars c hc⟩
  · rintro ⟨hne, hchars⟩
    exact ⟨by simpa using hne, fun c hc => by simpa [or_assoc] using hchars c hc⟩

theorem IsPlain.ne_of_mem {c d : Char} (h : IsPlain name) (hc : c ∈ name.toList)
    (hd : ¬ (d.isAlphanum = true ∨ d = '-' ∨ d = '_')) : c ≠ d := by
  rintro rfl
  exact hd (h.chars c hc)

theorem IsPlain.not_mem_slash (h : IsPlain name) : '/' ∉ name.toList := fun hc =>
  h.ne_of_mem hc (by decide) rfl

theorem IsPlain.not_mem_dot (h : IsPlain name) : '.' ∉ name.toList := fun hc =>
  h.ne_of_mem hc (by decide) rfl

/-- A plain name leads downwards. -/
theorem IsPlain.leads_down (h : IsPlain name) : Files.isIdle name = false ∧ name ≠ ".." := by
  have hdot : name ≠ "." := by
    rintro rfl
    exact h.not_mem_dot (by decide)
  refine ⟨by simp [Files.isIdle, h.ne_empty, hdot], ?_⟩
  rintro rfl
  exact h.not_mem_dot (by decide)

/-- So does the name of a file with an ending. -/
theorem fileName_leads_down (slug : String) : Files.isIdle (slug ++ ".json") = false ∧ slug ++ ".json" ≠ ".." := by
  have hlength : (slug ++ ".json").length = slug.length + 5 := String.length_append slug ".json"
  have hne {other : String} (h : other.length < 5) : slug ++ ".json" ≠ other := by
    rintro rfl
    omega
  have hempty : slug ++ ".json" ≠ "" := hne (by decide)
  have hdot : slug ++ ".json" ≠ "." := hne (by decide)
  exact ⟨by simp [Files.isIdle, hempty, hdot], hne (by decide)⟩

/-! ### The path of a flow -/

theorem toList_flowPath (tenant slug : String) :
    (flowPath tenant slug).toList = tenant.toList ++ '/' :: (slug ++ ".json").toList := by
  simp [flowPath]

theorem components_flowPath (htenant : IsPlain tenant) (hslug : IsPlain slug) :
    Files.components (flowPath tenant slug) = [tenant, slug ++ ".json"] := by
  have hfile : '/' ∉ (slug ++ ".json").toList := by
    rw [String.toList_append, List.mem_append, not_or]
    exact ⟨hslug.not_mem_slash, by decide⟩
  have hsplit : Text.splitChars ['/'] (flowPath tenant slug).toList = [tenant.toList, (slug ++ ".json").toList] := by
    rw [toList_flowPath, Text.splitChars_append htenant.not_mem_slash, Text.splitChars_eq_singleton hfile]
  have hmap : [tenant.toList, (slug ++ ".json").toList].map String.ofList = [tenant, slug ++ ".json"] := by simp
  exact (congrArg (List.map String.ofList) hsplit).trans hmap

/-- What is read at the path of a flow is a file directly inside the directory of the tenant. -/
theorem read_flowPath {files : Files.Tree} {content : String} (htenant : IsPlain tenant) (hslug : IsPlain slug)
    (h : files.read (flowPath tenant slug) = .ok content) :
    ∃ tenants flows, files = .directory tenants ∧ Fields.get? tenants tenant = some (.directory flows) ∧
      Fields.get? flows (slug ++ ".json") = some (.file content) := by
  have hfound := Files.Tree.lookupFrom_of_lookup (Files.Tree.lookup_of_read h)
  rw [components_flowPath htenant hslug] at hfound
  obtain ⟨tenants, child, rfl, hchild, hrest⟩ :=
    Files.Tree.lookupFrom_name htenant.leads_down.1 htenant.leads_down.2 hfound
  obtain ⟨flows, leaf, rfl, hleaf, hend⟩ :=
    Files.Tree.lookupFrom_name (fileName_leads_down slug).1 (fileName_leads_down slug).2 hrest
  rw [Files.Tree.lookupFrom] at hend
  obtain rfl : leaf = .file content := Except.ok.inj hend
  exact ⟨tenants, flows, rfl, hchild, hleaf⟩

theorem flowPath_inj (htenant : IsPlain tenant) (hslug : IsPlain slug) (htenant' : IsPlain tenant')
    (hslug' : IsPlain slug') (h : flowPath tenant slug = flowPath tenant' slug') :
    tenant = tenant' ∧ slug = slug' := by
  have hcomponents := components_flowPath htenant hslug
  rw [h, components_flowPath htenant' hslug'] at hcomponents
  obtain ⟨rfl, hfile, -⟩ : tenant' = tenant ∧ slug' ++ ".json" = slug ++ ".json" ∧ _ := by
    simpa only [List.cons.injEq] using hcomponents
  refine ⟨rfl, String.toList_inj.mp ?_⟩
  have hchars := congrArg String.toList hfile
  rw [String.toList_append, String.toList_append] at hchars
  exact (List.append_cancel_right hchars).symm

theorem not_isAbsolute_flowPath (htenant : IsPlain tenant) (slug : String) :
    Files.isAbsolute (flowPath tenant slug) = false := by
  have hne : tenant.toList ≠ [] := by simpa using htenant.ne_empty
  obtain ⟨c, cs, hcs⟩ := List.exists_cons_of_ne_nil hne
  have hc : '/' ≠ c := (htenant.ne_of_mem (by simp [hcs]) (by decide)).symm
  rw [Files.isAbsolute, Text.startsWith, toList_flowPath, hcs, List.cons_append]
  show (Text.after? ['/'] _).isSome = false
  rw [Text.after?, if_neg hc]
  rfl

/-- Seen from the root, every path inside it begins alike. -/
theorem join_eq_append {path : String} (root : String) (h : Files.isAbsolute path = false) :
    Files.join root path = (if root.isEmpty then "" else if Text.endsWith root "/" then root else root ++ "/") ++ path := by
  unfold Files.join
  rw [h, Bool.false_or]
  split
  · exact (String.empty_append ..).symm
  · split <;> rfl

/-- Two flows never have the same file. -/
theorem join_flowPath_inj {root : String} (htenant : IsPlain tenant) (hslug : IsPlain slug)
    (htenant' : IsPlain tenant') (hslug' : IsPlain slug')
    (h : Files.join root (flowPath tenant slug) = Files.join root (flowPath tenant' slug')) :
    tenant = tenant' ∧ slug = slug' := by
  rw [join_eq_append root (not_isAbsolute_flowPath htenant slug),
    join_eq_append root (not_isAbsolute_flowPath htenant' slug')] at h
  have hchars := congrArg String.toList h
  rw [String.toList_append, String.toList_append] at hchars
  exact flowPath_inj htenant hslug htenant' hslug' (String.toList_inj.mp (List.append_cancel_left hchars))

end Server
end FlowTree
