import FlowTree.Proofs.Server.Fetches
import FlowTree.Proofs.Server.Paths
import FlowTree.Proofs.Server.Requests
import FlowTree.Proofs.Text.Case
import Mathlib.Data.List.TakeWhile

/-! # Tenants

The first label of the `Host` header names a tenant, and a request sees of the directory at most one file: the flow
of that tenant with the slug that is asked for. Labels and slugs that are not plain never reach the directory, nor
does anything in the cache stand under them, since what is kept was once read (`KeepsPlain`). So they find nothing,
before and after any other request.

A label is read without regard to letter case. It ends at a colon or dot, so ports and further labels do not matter. A
value with characters beyond ASCII, however, does not read as text at all and counts as a header that is missing. -/

namespace FlowTree.Server

open Text (IsAscii)

/-! ### Labels -/

section Labels
variable {host label : String} {before rest cs : List Char}

/-- A label ends here: with the text, or at a colon or dot. -/
def EndsLabel (rest : List Char) : Prop :=
  ∀ c, rest.head? = some c → c = ':' ∨ c = '.'

/-- The label of a host: what stands before the first colon and the first dot, without the blanks around it and in
lower case. -/
def IsLabel (host label : String) : Prop :=
  ∃ before rest, host.toList = before ++ rest ∧ (∀ c ∈ before, c ≠ ':' ∧ c ≠ '.') ∧ EndsLabel rest ∧
    label = Text.lower (String.ofList (Text.trimChars before))

/-- A character that ends no label. -/
def inLabel (c : Char) : Bool :=
  c ≠ ':' ∧ c ≠ '.'

theorem EndsLabel.takeWhile_append (h : EndsLabel rest) (cs : List Char) :
    (cs ++ rest).takeWhile inLabel = cs.takeWhile inLabel := by
  induction cs with
  | nil =>
    cases rest with
    | nil => rfl
    | cons c rest =>
      have hc : inLabel c = false := by rcases h c rfl with rfl | rfl <;> decide
      rw [List.nil_append, List.takeWhile_cons_of_neg (by simp [hc]), List.takeWhile_nil]
  | cons c cs ih => rw [List.cons_append, List.takeWhile_cons, List.takeWhile_cons, ih]

theorem hostLabel_eq (host : String) :
    hostLabel host = String.ofList (Text.trimChars (host.toList.takeWhile inLabel)) := by
  have htake : (host.toList.takeWhile (· ≠ ':')).takeWhile (· ≠ '.') = host.toList.takeWhile inLabel := by
    rw [List.takeWhile_takeWhile]
    congr 1
    funext c
    simp [inLabel, and_comm]
  rw [← htake]
  rfl

theorem isLabel_iff : IsLabel host label ↔ Text.lower (hostLabel host) = label := by
  constructor
  · rintro ⟨before, rest, hhost, hbefore, hrest, rfl⟩
    have hall : before.takeWhile inLabel = before :=
      List.takeWhile_eq_self_iff.mpr fun c hc => by simpa [inLabel] using hbefore c hc
    rw [hostLabel_eq, hhost, hrest.takeWhile_append, hall]
  · rintro rfl
    refine ⟨host.toList.takeWhile inLabel, host.toList.dropWhile inLabel, List.takeWhile_append_dropWhile.symm, ?_, ?_,
      by rw [hostLabel_eq]⟩
    · intro c hc
      simpa [inLabel] using List.mem_takeWhile_imp hc
    · intro c hc
      have hnot := List.head?_dropWhile_not inLabel host.toList
      rw [hc] at hnot
      by_contra hother
      rw [not_or] at hother
      simp [inLabel, hother.1, hother.2] at hnot

theorem isAscii_hostLabel (h : IsAscii host.toList) : IsAscii (hostLabel host).toList := by
  intro c hc
  rw [hostLabel_eq, String.toList_ofList] at hc
  exact h c ((List.takeWhile_prefix _).mem (Text.mem_of_mem_trimChars hc))

/-- Of a host in ASCII the label can be read after all of it is put in lower case. -/
theorem IsLabel.eq_of_ascii (hlabel : IsLabel host label) (h : IsAscii host.toList) :
    label = String.ofList (Text.trimChars ((host.toList.map Char.toLower).takeWhile inLabel)) := by
  have hmarks : inLabel ∘ Char.toLower = inLabel := by
    funext c
    simp [inLabel, Text.toLower_eq_iff]
  rw [← isLabel_iff.mp hlabel, Text.lower_ascii (isAscii_hostLabel h), hostLabel_eq, String.toList_ofList,
    List.takeWhile_map, hmarks, Text.trimChars_map_toLower]

/-- The values differ at most in letter case, and in what follows the first label. -/
def Alike (value value' : String) : Prop :=
  ∃ common common' rest rest', value.toList = common ++ rest ∧ value'.toList = common' ++ rest' ∧
    common.map Char.toLower = common'.map Char.toLower ∧ EndsLabel rest ∧ EndsLabel rest'

theorem EndsLabel.map_toLower (h : EndsLabel rest) : EndsLabel (rest.map Char.toLower) := by
  intro d hd
  rw [List.head?_map, Option.map_eq_some_iff] at hd
  obtain ⟨c, hc, rfl⟩ := hd
  rcases h c hc with rfl | rfl
  · exact Or.inl rfl
  · exact Or.inr rfl

theorem Alike.label_eq {value value' label' : String} (h : Alike value value') (hascii : IsAscii value.toList)
    (hascii' : IsAscii value'.toList) (hlabel : IsLabel value label) (hlabel' : IsLabel value' label') :
    label = label' := by
  obtain ⟨common, common', rest, rest', hvalue, hvalue', hcommon, hrest, hrest'⟩ := h
  rw [hlabel.eq_of_ascii hascii, hlabel'.eq_of_ascii hascii', hvalue, hvalue', List.map_append, List.map_append,
    hrest.map_toLower.takeWhile_append, hrest'.map_toLower.takeWhile_append, hcommon]

end Labels

/-! ### The tenant of a request -/

section Hosts
variable {r r' : Incoming} {host value label : String}

/-- Only visible characters of ASCII, blanks and tabs. -/
def IsReadable (value : String) : Prop :=
  ∀ c ∈ value.toList, c = '\t' ∨ (0x20 ≤ c.toNat ∧ c.toNat < 0x7F)

/-- The value of the first `Host` header. -/
def hostValue? (r : Incoming) : Option String :=
  (r.headers.find? fun header => headerName header.1 = "host").map Prod.snd

/-- What a request says of its host. A value that does not read as text counts as missing, which is as if empty. -/
inductive HostText (r : Incoming) : String → Prop where
  | read {value : String} (hvalue : hostValue? r = some value) (hread : IsReadable value) : HostText r value
  | unread {value : String} (hvalue : hostValue? r = some value) (hread : ¬ IsReadable value) : HostText r ""
  | missing (hvalue : hostValue? r = none) : HostText r ""

theorem isReadable_iff : IsReadable value ↔ headerText? value = some value := by
  rw [headerText?, Option.ite_none_right_eq_some, List.all_eq_true]
  simp [IsReadable]

theorem IsReadable.isAscii (h : IsReadable value) : IsAscii value.toList := by
  intro c hc
  rcases h c hc with rfl | ⟨-, hlt⟩
  · decide
  · omega

theorem headerText?_of_not (h : ¬ IsReadable value) : headerText? value = none := by
  rw [isReadable_iff] at h
  unfold headerText? at h ⊢
  split
  next hall => exact absurd (if_pos hall) h
  next => rfl

theorem exists_hostText (r : Incoming) : ∃ host, HostText r host := by
  cases hvalue : hostValue? r with
  | none => exact ⟨_, .missing hvalue⟩
  | some value =>
    by_cases hread : IsReadable value
    · exact ⟨_, .read hvalue hread⟩
    · exact ⟨_, .unread hvalue hread⟩

theorem HostText.isAscii (h : HostText r host) : IsAscii host.toList := by
  cases h with
  | read hvalue hread => exact hread.isAscii
  | unread hvalue hread => exact fun c hc => absurd hc (by simp)
  | missing hvalue => exact fun c hc => absurd hc (by simp)

theorem HostText.tenant_eq (h : HostText r host) : tenant r = tenantOf host := by
  have htenant : tenant r = tenantOf (((hostValue? r).bind headerText?).getD "") := by
    rw [tenant, hostValue?, Option.bind_map]
    rfl
  rw [htenant]
  cases h with
  | read hvalue hread => rw [hvalue, Option.bind_some, isReadable_iff.mp hread, Option.getD_some]
  | unread hvalue hread => rw [hvalue, Option.bind_some, headerText?_of_not hread, Option.getD_none]
  | missing hvalue => rw [hvalue, Option.bind_none, Option.getD_none]

theorem IsLabel.tenantOf_eq (hlabel : IsLabel host label) (hascii : IsAscii host.toList) :
    tenantOf host = if label = "" then .error .missingHost else if label = "www" then .error .noTenant else .ok label := by
  have hlower := isLabel_iff.mp hlabel
  have hempty : (hostLabel host).isEmpty = decide (label = "") := by
    rw [← hlower, Text.lower_ascii (isAscii_hostLabel hascii), Bool.eq_iff_iff]
    simp
  unfold tenantOf
  simp only [hempty, hlower, decide_eq_true_eq]

/-- The tenant that a label names. -/
theorem tenant_eq_of_label (hhost : HostText r host) (hlabel : IsLabel host label) :
    tenant r = if label = "" then .error .missingHost else if label = "www" then .error .noTenant else .ok label :=
  hhost.tenant_eq.trans (hlabel.tenantOf_eq hhost.isAscii)

theorem Alike.tenant_eq {value' : String} (h : Alike value value') (hvalue : hostValue? r = some value)
    (hvalue' : hostValue? r' = some value') (hread : IsReadable value) (hread' : IsReadable value') :
    tenant r = tenant r' := by
  have hlabel : IsLabel value (Text.lower (hostLabel value)) := isLabel_iff.mpr rfl
  have hlabel' : IsLabel value' (Text.lower (hostLabel value')) := isLabel_iff.mpr rfl
  rw [tenant_eq_of_label (.read hvalue hread) hlabel, tenant_eq_of_label (.read hvalue' hread') hlabel',
    h.label_eq hread.isAscii hread'.isAscii hlabel hlabel']

end Hosts

/-! ### What is kept -/

section Kept
variable {c : Cache} {h : Host} {now : Nat} {key : FlowKey}

theorem isPlainKey_iff : isPlainKey key = true ↔ IsPlain key.1 ∧ IsPlain key.2 := by
  rw [isPlainKey, Bool.and_eq_true, isPlainName_iff, isPlainName_iff]

/-- Whatever is kept has a plain key. -/
def KeepsPlain (c : Cache) : Prop :=
  ∀ e ∈ c.entries, isPlainKey e.key = true

theorem KeepsPlain.fetch (hc : KeepsPlain c) (now : Nat) (root : String) (files : Files.Tree) (key : FlowKey) :
    KeepsPlain (c.fetch now (Server.fetch root files key.1 key.2) key).2 := by
  rcases c.fetch_cases now (Server.fetch root files key.1 key.2) key with ⟨_, _, heq⟩ | ⟨_, _, heq⟩ | ⟨fetched, hstore, heq⟩
  · rwa [heq]
  · rwa [heq]
  · rw [heq]
    intro e he
    rcases Cache.mem_writeBack he with ⟨flow, rfl, -, rfl⟩ | ⟨he, -⟩
    · -- Only under plain names does the directory hold a flow.
      have hsays := says_fetch root files key
      rw [hstore] at hsays
      cases hsays with
      | flow hkey _ _ => exact hkey
    · exact hc e he

theorem KeepsPlain.find (hc : KeepsPlain h.cache) (now : Nat) (key : FlowKey) : KeepsPlain (h.find now key).2 :=
  hc.fetch now h.root h.files key

theorem KeepsPlain.serve (hc : KeepsPlain h.cache) (now : Nat) (r : Incoming) :
    KeepsPlain (h.serve now r).2.cache := by
  rcases asksFor_or_fixed r with ⟨slug, query, hr⟩ | ⟨reply, hsame⟩
  · rw [hr.host_serve]
    cases htenant : tenant r with
    | error e => rwa [serveFlow_of_refused htenant]
    | ok label =>
      rw [cache_serveFlow htenant]
      exact hc.find now (label, slug)
  · rwa [hsame]

theorem KeepsPlain.after (hc : KeepsPlain h.cache) (arrivals : List Arrival) : KeepsPlain (h.after arrivals).cache := by
  induction arrivals generalizing h with
  | nil => exact hc
  | cons a arrivals ih =>
    have hfiles : KeepsPlain { h with files := a.files }.cache := hc
    exact ih (hfiles.serve a.now a.request)

theorem fetch_of_not_plain {label slug : String} (hplain : ¬ (IsPlain label ∧ IsPlain slug)) (root : String)
    (files : Files.Tree) : fetch root files label slug = .ok none := by
  have hkey : isPlainKey (label, slug) = false := by rwa [← Bool.not_eq_true, isPlainKey_iff]
  exact (Says.unnamed hkey).fetch_eq

/-- Nothing is found under a name that is not plain. -/
theorem find_of_not_plain {label slug : String} (hc : KeepsPlain h.cache) (hplain : ¬ (IsPlain label ∧ IsPlain slug))
    (now : Nat) : (h.find now (label, slug)).1 = .ok none := by
  have hnil : h.cache.entriesOf (label, slug) = [] := by
    rw [List.eq_nil_iff_forall_not_mem]
    intro e he
    obtain ⟨hmem, hkey⟩ := Cache.mem_entriesOf.mp he
    have hnames := isPlainKey_iff.mp (hc e hmem)
    rw [hkey] at hnames
    exact hplain hnames
  rw [Host.find, Cache.fetch_of_entriesOf_eq_nil hnil, fetch_of_not_plain hplain]

end Kept

/-! ### What a request reaches -/

section Reach
variable {h : Host} {now : Nat} {r : Incoming} {host label slug : String} {query : List Char}

/-- What a request for a slug reaches, by the label of its host. -/
structure Confined (h : Host) (now : Nat) (r : Incoming) (label slug : String) : Prop where
  /-- Of the whole directory only the file of the flow matters. -/
  one_file : ∀ files, files.read (flowPath label slug) = h.files.read (flowPath label slug) → h.Ignores now r files
  /-- That file lies directly inside the directory of the tenant. -/
  inside : IsPlain label → IsPlain slug → ∀ content, h.files.read (flowPath label slug) = .ok content →
    ∃ tenants flows, h.files = .directory tenants ∧ Fields.get? tenants label = some (.directory flows) ∧
      Fields.get? flows (slug ++ ".json") = some (.file content)
  /-- Without a tenant the request is refused, whatever the directory holds. -/
  untenanted : label = "" ∨ label = "www" → (h.serve now r).1.status = 400 ∧ ∀ files, h.Ignores now r files
  /-- Under a name that is not plain nothing is found, whatever the directory holds. -/
  unnamed : label ≠ "" → label ≠ "www" → ¬ (IsPlain label ∧ IsPlain slug) →
    (h.serve now r).1.status = 404 ∧ ∀ files, h.Ignores now r files

theorem fetch_congr_read {root : String} {files files' : Files.Tree}
    (hread : files.read (flowPath label slug) = files'.read (flowPath label slug)) :
    fetch root files label slug = fetch root files' label slug := by
  unfold fetch
  rw [hread]

theorem confined (hc : KeepsPlain h.cache) (hr : AsksFor r slug query) (hhost : HostText r host)
    (hlabel : IsLabel host label) (now : Nat) : Confined h now r label slug := by
  have htenant := tenant_eq_of_label hhost hlabel
  have hsame {tenant' : String} (ht : tenant r = .ok tenant') : tenant' = label := by
    rw [htenant] at ht
    split at ht
    · cases ht
    · split at ht
      · cases ht
      · exact (Except.ok.inj ht).symm
  constructor
  case one_file =>
    intro files hread
    refine hr.ignores fun tenant' ht => ?_
    obtain rfl := hsame ht
    exact fetch_congr_read hread
  case inside => exact fun htenant hslug content hread => read_flowPath htenant hslug hread
  case untenanted =>
    intro hrefused
    have hfault : ∃ e : ApiError, tenant r = .error e ∧ e.status = 400 := by
      rcases hrefused with rfl | rfl
      · exact ⟨.missingHost, htenant, rfl⟩
      · exact ⟨.noTenant, htenant, rfl⟩
    obtain ⟨e, he, hstatus⟩ := hfault
    constructor
    · rw [hr.status_serve, serveFlow_of_refused he]
      exact hstatus
    · refine fun files => hr.ignores fun tenant' ht => ?_
      rw [he] at ht
      cases ht
  case unnamed =>
    intro hempty hwww hplain
    rw [if_neg hempty, if_neg hwww] at htenant
    constructor
    · rw [hr.status_serve, serveFlow_of_missing htenant (find_of_not_plain hc hplain now)]
      rfl
    · refine fun files => hr.ignores fun tenant' ht => ?_
      obtain rfl := hsame ht
      rw [fetch_of_not_plain hplain, fetch_of_not_plain hplain]

/-- The tenants of a host are apart: a request reaches no file but that of its own tenant and slug. -/
structure KeepsApart (h : Host) : Prop where
  /-- Every request has a label, which may be empty. -/
  labelled : ∀ r, ∃ host label, HostText r host ∧ IsLabel host label
  /-- What asks for no flow reaches no file. -/
  silent : ∀ {r : Incoming}, (∀ slug query, ¬ AsksFor r slug query) → ∀ now files, h.Ignores now r files
  confined : ∀ {now : Nat} {r : Incoming} {host label slug : String} {query : List Char}, AsksFor r slug query →
    HostText r host → IsLabel host label → Confined h now r label slug
  /-- The flows of two tenants, or two flows of one, have different files. -/
  apart : ∀ {label slug label' slug' : String}, IsPlain label → IsPlain slug → IsPlain label' → IsPlain slug' →
    Files.join h.root (flowPath label slug) = Files.join h.root (flowPath label' slug') → label = label' ∧ slug = slug'
  /-- Letter case, ports and what follows the first label do not tell tenants apart. -/
  alike : ∀ {r r' : Incoming} {value value' : String}, hostValue? r = some value → hostValue? r' = some value' →
    IsReadable value → IsReadable value' → Alike value value' → tenant r = tenant r'

/-- A host that begins with nothing kept keeps its tenants apart, whatever requests it has answered. -/
theorem after_keepsApart (h : Host) (ttl : Nat) (arrivals : List Arrival) :
    KeepsApart ({ h with cache := { ttl } }.after arrivals) := by
  have hempty : KeepsPlain { h with cache := { ttl } }.cache := fun e he => absurd he List.not_mem_nil
  have hc := hempty.after arrivals
  constructor
  case labelled =>
    intro r
    obtain ⟨host, hhost⟩ := exists_hostText r
    exact ⟨host, _, hhost, isLabel_iff.mpr rfl⟩
  case silent =>
    intro r hr now files
    obtain ⟨slug, query, hasks⟩ | ⟨reply, hfixed⟩ := asksFor_or_fixed r
    · exact absurd hasks (hr slug query)
    · rw [Host.Ignores, hfixed, hfixed]
  case confined => exact fun hr hhost hlabel => Server.confined hc hr hhost hlabel _
  case apart => exact fun hlabel hslug hlabel' hslug' => join_flowPath_inj hlabel hslug hlabel' hslug'
  case alike => exact fun hvalue hvalue' hread hread' halike => halike.tenant_eq hvalue hvalue' hread hread'

/-! ### Values beyond ASCII -/

/-- The last label may keep a value from being read, and then the first one counts for nothing. -/
theorem unread_refused : Alike "acme.dev" "acme.é" ∧ IsLabel "acme.é" "acme" ∧
    tenant (asking "acme.dev") = .ok "acme" ∧ tenant (asking "acme.é") = .error .missingHost ∧
    ∀ (h : Host) (now : Nat), (h.serve now (asking "acme.é")).1.status = 400 := by
  have halike : Alike "acme.dev" "acme.é" :=
    ⟨"acme".toList, "acme".toList, ".dev".toList, ".é".toList, rfl, rfl, rfl,
      fun c hc => Or.inr (Option.some.inj hc).symm, fun c hc => Or.inr (Option.some.inj hc).symm⟩
  have htenant : tenant (asking "acme.é") = .error .missingHost := rfl
  refine ⟨halike, isLabel_iff.mpr rfl, rfl, htenant, fun h now => ?_⟩
  rw [(asksFor_asking _).status_serve, serveFlow_of_refused htenant]
  rfl

end Reach

end FlowTree.Server
