import FlowTree.Proofs.Expr.Language

/-! # Numerals

A numeral is read greedily, while the language allows any of its beginnings that is a numeral. So it is
found again only if what follows cannot continue it (`Delimited`). Its float is the one that its text
writes. -/

namespace FlowTree.Grammar

/-! ### Runs of digits -/

/-- The text does not go on with a digit. -/
def NoDigit (cs : List Char) : Prop :=
  ∀ c, cs.head? = some c → c.isDigit = false

theorem NoDigit.takeWhile {cs : List Char} (h : NoDigit cs) : cs.takeWhile Char.isDigit = [] := by
  cases cs with
  | nil => rfl
  | cons c cs => simp [h c rfl]

theorem NoDigit.dropWhile {cs : List Char} (h : NoDigit cs) : cs.dropWhile Char.isDigit = cs := by
  cases cs with
  | nil => rfl
  | cons c cs => simp [h c rfl]

theorem takeWhile_digits {ds rest : List Char} (hd : ∀ c ∈ ds, c.isDigit = true) (hr : NoDigit rest) :
    (ds ++ rest).takeWhile Char.isDigit = ds := by
  rw [List.takeWhile_append_of_pos hd, hr.takeWhile, List.append_nil]

theorem dropWhile_digits {ds rest : List Char} (hd : ∀ c ∈ ds, c.isDigit = true) (hr : NoDigit rest) :
    (ds ++ rest).dropWhile Char.isDigit = rest := by
  rw [List.dropWhile_append_of_pos hd, hr.dropWhile]

theorem noDigit_dropWhile (cs : List Char) : NoDigit (cs.dropWhile Char.isDigit) := by
  intro c hc
  have h := List.head?_dropWhile_not Char.isDigit cs
  rw [hc] at h
  simpa using h

theorem isDigit_of_mem_takeWhile {cs : List Char} : ∀ c ∈ cs.takeWhile Char.isDigit, c.isDigit = true :=
  List.all_eq_true.mp List.all_takeWhile

/-! ### Numerals -/

/-- What follows a numeral and cannot continue it. -/
def Delimited (cs : List Char) : Prop :=
  ∀ c, cs.head? = some c → c.isDigit = false ∧ c ≠ '.' ∧ c ≠ 'e' ∧ c ≠ 'E'

theorem Delimited.noDigit {cs : List Char} (h : Delimited cs) : NoDigit cs :=
  fun c hc => (h c hc).1

theorem ne_of_isDigit {c d : Char} (hc : c.isDigit = true) (hd : d.isDigit = false) : c ≠ d := fun h => by
  rw [h, hd] at hc
  cases hc

/-- The sign of digits is read off, whatever follows them. -/
theorem sign_append {sign ds : List Char} (hs : sign = [] ∨ sign = ['+'] ∨ sign = ['-']) (hd : IsDigits ds)
    (rest : List Char) :
    Decimal.sign (sign ++ (ds ++ rest)) = (decide (sign = ['-']), ds ++ rest) := by
  rcases hs with rfl | rfl | rfl
  · obtain ⟨d, ds, rfl⟩ := List.exists_cons_of_ne_nil hd.1
    simpa using Decimal.sign_of_isDigit (hd.2 d (by simp)) (ds ++ rest)
  · rfl
  · rfl

/-- The power of ten that an exponent with a sign and digits writes. -/
def powerOf (sign ds : List Char) : Int :=
  if sign = ['-'] then -(Decimal.ofDigits ds : Int) else Decimal.ofDigits ds

section Present
variable {c : Char} {sign ds : List Char} (hc : c = 'e' ∨ c = 'E')
  (hs : sign = [] ∨ sign = ['+'] ∨ sign = ['-']) (hd : IsDigits ds)
include hc hs hd

theorem exponent?_present : Decimal.exponent? (c :: sign ++ ds) = some (powerOf sign ds) := by
  have hsign := sign_append hs hd []
  have hall : ds.all Char.isDigit = true := List.all_eq_true.mpr hd.2
  simp only [List.append_nil] at hsign
  simp [Decimal.exponent?, hc, hsign, hall, hd.1, powerOf]

theorem exponent_present {rest : List Char} (hr : NoDigit rest) :
    exponent (c :: sign ++ ds ++ rest) = (powerOf sign ds, rest) := by
  have hsign := sign_append hs hd rest
  have htake := takeWhile_digits hd.2 hr
  have hdrop := dropWhile_digits hd.2 hr
  obtain ⟨d, ds', rfl⟩ := List.exists_cons_of_ne_nil hd.1
  simp only [exponent, List.cons_append, List.append_assoc, hc, ↓reduceIte] at hsign htake hdrop ⊢
  rw [hsign]
  simp only [htake, hdrop, powerOf, decide_eq_true_eq]

end Present

theorem exponent_of_delimited {cs : List Char} (h : Delimited cs) : exponent cs = (0, cs) := by
  cases cs with
  | nil => rfl
  | cons c cs => simp [exponent, (h c rfl).2.2]

/-- An exponent is read up to what follows it. -/
theorem exponent_append {x rest : List Char} (h : Exponent x) (hr : Delimited rest) :
    ∃ power, Decimal.exponent? x = some power ∧ exponent (x ++ rest) = (power, rest) := by
  cases h with
  | absent => exact ⟨0, rfl, exponent_of_delimited hr⟩
  | present hc hs hd => exact ⟨_, exponent?_present hc hs hd, exponent_present hc hs hd hr.noDigit⟩

theorem sign_sound (cs : List Char) :
    ∃ sign, (sign = [] ∨ sign = ['+'] ∨ sign = ['-']) ∧ cs = sign ++ (Decimal.sign cs).2 := by
  unfold Decimal.sign
  split
  · exact ⟨['-'], by simp, rfl⟩
  · exact ⟨['+'], by simp, rfl⟩
  · exact ⟨[], by simp, rfl⟩

/-- What is read as an exponent is one. -/
theorem exponent_sound (cs : List Char) :
    ∃ x, Exponent x ∧ cs = x ++ (exponent cs).2 ∧ Decimal.exponent? x = some (exponent cs).1 := by
  have absent : exponent cs = (0, cs) → ∃ x, Exponent x ∧ cs = x ++ (exponent cs).2 ∧
      Decimal.exponent? x = some (exponent cs).1 := fun h => ⟨[], .absent, by simp [h], by simp [h, Decimal.exponent?]⟩
  cases cs with
  | nil => exact absent rfl
  | cons c cs =>
    by_cases hc : c = 'e' ∨ c = 'E'
    · obtain ⟨sign, hs, hcs⟩ := sign_sound cs
      by_cases hd : (Decimal.sign cs).2.takeWhile Char.isDigit = []
      · exact absent (by simp [exponent, hc, hd])
      · have hds : IsDigits ((Decimal.sign cs).2.takeWhile Char.isDigit) := ⟨hd, isDigit_of_mem_takeWhile⟩
        have htext : c :: cs = c :: sign ++ (Decimal.sign cs).2.takeWhile Char.isDigit ++
            (Decimal.sign cs).2.dropWhile Char.isDigit := by
          simpa using hcs
        refine ⟨c :: sign ++ (Decimal.sign cs).2.takeWhile Char.isDigit, .present hc hs hds, ?_, ?_⟩
        · conv => rhs; rw [htext, exponent_present hc hs hds (noDigit_dropWhile _)]
          exact htext
        · rw [exponent?_present hc hs hds]
          conv => rhs; rw [htext, exponent_present hc hs hds (noDigit_dropWhile _)]
    · exact absent (by simp [exponent, hc])

/-- What follows a mantissa and cannot continue it: after a point no digit, else also no point. -/
def Ends (m cs : List Char) : Prop :=
  NoDigit cs ∧ ((∀ c ∈ m, c.isDigit = true) → cs.head? ≠ some '.')

theorem Delimited.ends {cs : List Char} (h : Delimited cs) (m : List Char) : Ends m cs :=
  ⟨h.noDigit, fun _ hc => (h _ hc).2.1 rfl⟩

theorem ends_cons {m cs : List Char} {c : Char} (hd : c.isDigit = false) (hp : c ≠ '.') : Ends m (c :: cs) :=
  ⟨fun _ hc => Option.some.inj hc ▸ hd, fun _ hc => hp (Option.some.inj hc)⟩

theorem Exponent.ends {x rest : List Char} (h : Exponent x) (hr : Delimited rest) (m : List Char) :
    Ends m (x ++ rest) := by
  cases h with
  | absent => exact hr.ends m
  | present hc hs hd =>
    rcases hc with rfl | rfl
    · exact ends_cons (by decide) (by decide)
    · exact ends_cons (by decide) (by decide)

theorem delimited_nil : Delimited [] := fun _ hc => by cases hc

theorem noDigit_point (cs : List Char) : NoDigit ('.' :: cs) := fun c hc => by
  cases hc
  decide

section Whole
variable {ds : List Char} (hd : IsDigits ds)
include hd

theorem mantissa?_whole {rest : List Char} (hr : Ends ds rest) : mantissa? (ds ++ rest) = some ((ds, 0), rest) := by
  have htake := takeWhile_digits hd.2 hr.1
  have hdrop := dropWhile_digits hd.2 hr.1
  have hp := hr.2 hd.2
  obtain ⟨d, ds, rfl⟩ := List.exists_cons_of_ne_nil hd.1
  rw [mantissa?, htake, hdrop]
  cases rest with
  | nil => rfl
  | cons c cs =>
    have hc : c ≠ '.' := fun h => hp (by rw [h]; rfl)
    split <;> simp_all

theorem readFloat?_whole {x : List Char} {power : Int} (hx : Exponent x) (hp : Decimal.exponent? x = some power) :
    Decimal.readFloat? (ds ++ x) = some (⟨Decimal.ofDigits ds, power⟩ : Decimal).toFloat := by
  have hends := hx.ends delimited_nil ds
  rw [List.append_nil] at hends
  have htake := takeWhile_digits hd.2 hends.1
  have hdrop := dropWhile_digits hd.2 hends.1
  have hsign := sign_append (Or.inl rfl) hd x
  simp only [List.nil_append] at hsign
  have hpoint := hends.2 hd.2
  simp only [Decimal.readFloat?, hsign, Decimal.ofChars?, htake, hdrop, hd.1]
  cases x with
  | nil => simp [hp]
  | cons c cs =>
    have hc : c ≠ '.' := fun h => hpoint (by rw [h]; rfl)
    simp [hc, hp]

end Whole

section Point
variable {ds fs : List Char} (hd : ∀ c ∈ ds, c.isDigit = true) (hf : ∀ c ∈ fs, c.isDigit = true)
  (hne : ds ≠ [] ∨ fs ≠ [])
include hd hf hne

theorem mantissa?_point {rest : List Char} (hr : NoDigit rest) :
    mantissa? (ds ++ '.' :: fs ++ rest) = some ((ds ++ fs, fs.length), rest) := by
  have htake := takeWhile_digits hd (noDigit_point (fs ++ rest))
  have hdrop := dropWhile_digits hd (noDigit_point (fs ++ rest))
  have htake' := takeWhile_digits hf hr
  have hdrop' := dropWhile_digits hf hr
  rw [mantissa?, List.append_assoc, List.cons_append, htake, hdrop]
  cases ds with
  | nil =>
    obtain ⟨f, fs, rfl⟩ := List.exists_cons_of_ne_nil (hne.resolve_left (by simp))
    simp only [htake', hdrop', List.nil_append]
  | cons d ds => simp only [htake', hdrop']

theorem readFloat?_point {x : List Char} {power : Int} (hx : Exponent x) (hp : Decimal.exponent? x = some power) :
    Decimal.readFloat? (ds ++ '.' :: fs ++ x) =
      some (⟨Decimal.ofDigits (ds ++ fs), power - fs.length⟩ : Decimal).toFloat := by
  have hends := hx.ends delimited_nil ds
  rw [List.append_nil] at hends
  have htake := takeWhile_digits hd (noDigit_point (fs ++ x))
  have hdrop := dropWhile_digits hd (noDigit_point (fs ++ x))
  have htake' := takeWhile_digits hf hends.1
  have hdrop' := dropWhile_digits hf hends.1
  have hsign : Decimal.sign (ds ++ '.' :: (fs ++ x)) = (false, ds ++ '.' :: (fs ++ x)) := by
    cases ds with
    | nil => rfl
    | cons d ds => exact Decimal.sign_of_isDigit (hd d (by simp)) _
  rw [List.append_assoc, List.cons_append]
  simp only [Decimal.readFloat?, hsign, Decimal.ofChars?, htake, hdrop, htake', hdrop', hp]
  rcases hne with h | h <;> simp [h]

end Point

/-- What holds of digits and of the signs of a numeral holds of all its characters. -/
theorem Numeral.forall {P : Char → Prop} {token : List Char} (h : Numeral token) (hdigit : ∀ c, c.isDigit = true → P c)
    (hsign : ∀ c ∈ ['.', 'e', 'E', '+', '-'], P c) : ∀ c ∈ token, P c := by
  obtain ⟨m, x, hm, hx, rfl⟩ := h
  intro c hc
  rcases List.mem_append.mp hc with hc | hc
  · cases hm with
    | whole hd => exact hdigit c (hd.2 c hc)
    | point hd hf =>
      rcases List.mem_append.mp hc with hc | hc
      · exact hdigit c (hd.2 c hc)
      · rcases List.mem_cons.mp hc with rfl | hc
        · exact hsign _ (by simp)
        · exact hdigit c (hf c hc)
    | fraction hf =>
      rcases List.mem_cons.mp hc with rfl | hc
      · exact hsign _ (by simp)
      · exact hdigit c (hf.2 c hc)
  · cases hx with
    | absent => cases hc
    | present he hs hd =>
      rcases List.mem_append.mp hc with hc | hc
      · rcases List.mem_cons.mp hc with rfl | hc
        · rcases he with rfl | rfl <;> exact hsign _ (by simp)
        · rcases hs with rfl | rfl | rfl
          · cases hc
          · exact hsign c (by simp_all)
          · exact hsign c (by simp_all)
      · exact hdigit c (hd.2 c hc)

/-- The float that a mantissa and a power of ten make. -/
def floatOf (digits : List Char) (places : Nat) (power : Int) : Float :=
  (⟨Decimal.ofDigits digits, power - places⟩ : Decimal).toFloat

/-- A mantissa is read up to what ends it, and with an exponent it is a numeral for what was read. -/
theorem mantissa?_append {m rest : List Char} (h : Mantissa m) (hr : Ends m rest) :
    ∃ digits places, mantissa? (m ++ rest) = some ((digits, places), rest) ∧
      ∀ x power, Exponent x → Decimal.exponent? x = some power →
        Decimal.readFloat? (m ++ x) = some (floatOf digits places power) := by
  cases h with
  | whole hd =>
    exact ⟨_, 0, mantissa?_whole hd hr, fun x power hx hp => by simpa [floatOf] using readFloat?_whole hd hx hp⟩
  | point hd hf =>
    exact ⟨_, _, mantissa?_point hd.2 hf (Or.inl hd.1) hr.1, fun x power hx hp =>
      readFloat?_point hd.2 hf (Or.inl hd.1) hx hp⟩
  | @fraction fs hf =>
    have hnil : ∀ c ∈ ([] : List Char), c.isDigit = true := by simp
    exact ⟨fs, fs.length, mantissa?_point hnil hf.2 (Or.inr hf.1) hr.1, fun x power hx hp =>
      readFloat?_point hnil hf.2 (Or.inr hf.1) hx hp⟩

/-- What is read as a mantissa is one, and what is left ends it. -/
theorem mantissa?_sound {cs rest : List Char} {d : List Char × Nat} (h : mantissa? cs = some (d, rest)) :
    ∃ m, Mantissa m ∧ cs = m ++ rest ∧ Ends m rest := by
  have hall := @isDigit_of_mem_takeWhile cs
  have hdrop := noDigit_dropWhile cs
  have hcs : cs = cs.takeWhile Char.isDigit ++ cs.dropWhile Char.isDigit := List.takeWhile_append_dropWhile.symm
  unfold mantissa? at h
  generalize cs.takeWhile Char.isDigit = whole at h hall hcs
  generalize cs.dropWhile Char.isDigit = tail at h hdrop hcs
  split at h
  · next rest' =>
    split at h
    · cases h
    · next digits hne =>
      cases h
      have hf : IsDigits (rest'.takeWhile Char.isDigit) := ⟨hne, isDigit_of_mem_takeWhile⟩
      refine ⟨_, .fraction hf, ?_, noDigit_dropWhile _, fun hm => absurd (hm '.' (by simp)) (by decide)⟩
      simpa using hcs
  · cases h
  · next rest' hne =>
    cases h
    have hf := @isDigit_of_mem_takeWhile rest'
    refine ⟨_, .point ⟨hne, hall⟩ hf, ?_, noDigit_dropWhile _, fun hm => ?_⟩
    · simpa using hcs
    · exact absurd (hm '.' (by simp)) (by decide)
  · next hne hp _ =>
    cases h
    refine ⟨_, .whole ⟨hne, hall⟩, hcs, hdrop, fun _ hc => ?_⟩
    obtain ⟨cs', rfl⟩ := List.head?_eq_some_iff.mp hc
    exact hp cs' rfl

theorem number?_eq (cs : List Char) :
    number? cs = (mantissa? cs).map fun r => (floatOf r.1.1 r.1.2 (exponent r.2).1, (exponent r.2).2) := rfl

/-- A numeral is read up to what follows it, as the float that it writes. -/
theorem number?_append {token rest : List Char} {f : Float} (h : Numeral token)
    (hf : Decimal.readFloat? token = some f) (hr : Delimited rest) : number? (token ++ rest) = some (f, rest) := by
  obtain ⟨m, x, hm, hx, rfl⟩ := h
  obtain ⟨power, hp, hxr⟩ := exponent_append hx hr
  obtain ⟨digits, places, hmr, hval⟩ := mantissa?_append hm (hx.ends hr m)
  rw [hval x power hx hp] at hf
  rw [number?_eq, List.append_assoc, hmr, Option.map_some, hxr, Option.some.inj hf]

/-- What is read as a number is a numeral that writes it. -/
theorem number?_sound {cs rest : List Char} {f : Float} (h : number? cs = some (f, rest)) :
    ∃ token, Numeral token ∧ Decimal.readFloat? token = some f ∧ cs = token ++ rest := by
  rw [number?_eq, Option.map_eq_some_iff] at h
  obtain ⟨⟨⟨digits, places⟩, mid⟩, hm, h⟩ := h
  obtain ⟨rfl, rfl⟩ := Prod.mk.inj h
  obtain ⟨m, hmant, rfl, hends⟩ := mantissa?_sound hm
  obtain ⟨digits', places', hread, hval⟩ := mantissa?_append hmant hends
  rw [hread] at hm
  cases hm
  obtain ⟨x, hx, hmid, hp⟩ := exponent_sound mid
  exact ⟨m ++ x, ⟨m, x, hmant, hx, rfl⟩, hval x _ hx hp, by rw [List.append_assoc, ← hmid]⟩

end FlowTree.Grammar
