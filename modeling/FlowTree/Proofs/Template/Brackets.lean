import FlowTree.Proofs.Expr.Texts
import FlowTree.Proofs.Template.Resolution
import FlowTree.Proofs.Template.Spans

/-! # Brackets in paths

A text in brackets stands for a segment: the value of the expression that it writes, or else the text itself
without quotes around it. So a path with brackets is as good as one with dots, since no value shows brackets
that its expression has not. -/

namespace FlowTree.Path

variable {cs ds p e : List Char} {pending : Option (List Char)}

/-! ### Expansion -/

/-- An opening bracket leaves what was read since an earlier one as it stands. -/
theorem expandFrom_append_opening (pending : Option (List Char)) (cs ds : List Char) :
    expandFrom pending (cs ++ '[' :: ds) = expandFrom pending cs ++ expandFrom (some []) ds := by
  fun_induction expandFrom pending cs with
  | case1 => rw [List.nil_append, expandFrom, if_pos rfl, List.nil_append]
  | case2 p => rw [List.nil_append, expandFrom, if_pos rfl]
  | case3 cs ih => rw [List.cons_append, expandFrom, if_pos rfl, ih]
  | case4 c cs hc ih => rw [List.cons_append, expandFrom, if_neg hc, ih, List.cons_append]
  | case5 p cs ih => rw [List.cons_append, expandFrom, if_pos rfl, ih, List.append_assoc]
  | case6 p cs _ ih => rw [List.cons_append, expandFrom, if_neg (by decide), if_pos rfl, ih, List.append_assoc]
  | case7 p c cs hopen hclose ih => rw [List.cons_append, expandFrom, if_neg hopen, if_neg hclose, ih]

theorem expandFrom_pending (hopen : '[' ∉ e) (hclose : ']' ∉ e) :
    expandFrom (some p) (e ++ cs) = expandFrom (some (e.reverse ++ p)) cs := by
  induction e generalizing p with
  | nil => rfl
  | cons c e ih =>
    rw [List.cons_append, expandFrom, if_neg (List.ne_of_not_mem_cons hopen).symm,
      if_neg (List.ne_of_not_mem_cons hclose).symm, ih (List.not_mem_of_not_mem_cons hopen) (List.not_mem_of_not_mem_cons hclose)]
    simp

theorem expandChars_bracketed (hopen : '[' ∉ e) (hclose : ']' ∉ e) (cs ds : List Char) :
    expandChars (cs ++ '[' :: (e ++ ']' :: ds)) = expandChars cs ++ '.' :: bracketKey e ++ expandChars ds := by
  rw [expandChars, expandFrom_append_opening, expandFrom_pending hopen hclose, expandFrom, if_neg (by decide), if_pos rfl]
  simp [expandChars]

/-- A bracket that is not closed stays. -/
example : expand "a[b['c']d" = "a[b.cd" := by decide +kernel

/-! ### Keys -/

/-- The segment that a text in brackets stands for. -/
inductive Key (e : String) : String → Prop where
  | value {expr : Expr} {value : Json} (hparse : Expr.parse (Text.trim e) = .ok expr) (heval : expr.eval = .ok value) :
      Key e value.render
  | word {k : String} (hnone : ∀ expr value, Expr.parse (Text.trim e) = .ok expr → expr.eval ≠ .ok value)
      (hk : Text.Unquoted (Text.trim e).toList k.toList) : Key e k

section
variable {e k : String}

theorem bracketKey_eq (e : String) : bracketKey e.toList =
    (((Expr.value? (Text.trim e)).map Json.render).getD ((Text.stripQuotes (Text.trim e)).getD (Text.trim e))).toList := by
  have htrim : String.ofList (Text.trimChars e.toList) = Text.trim e := rfl
  rw [bracketKey, htrim]
  cases Expr.value? (Text.trim e) <;> rfl

theorem key_iff : Key e k ↔ bracketKey e.toList = k.toList := by
  rw [bracketKey_eq, String.toList_inj]
  cases hvalue : Expr.value? (Text.trim e) with
  | some value =>
    obtain ⟨expr, hparse, heval⟩ := Expr.value?_eq_some_iff.mp hvalue
    rw [Option.map_some, Option.getD_some]
    constructor
    · rintro (⟨hparse', heval'⟩ | ⟨hnone, -⟩)
      · have hvalue' := Expr.value?_eq_some_iff.mpr ⟨_, hparse', heval'⟩
        rw [Option.some.inj (hvalue.symm.trans hvalue')]
      · exact absurd heval (hnone expr value hparse)
    · rintro rfl
      exact .value hparse heval
  | none =>
    have hnone := Expr.value?_eq_none_iff.mp hvalue
    rw [Option.map_none, Option.getD_none, ← Text.unquoted_text_iff]
    constructor
    · rintro (⟨hparse, heval⟩ | ⟨-, hk⟩)
      · exact absurd heval (hnone _ _ hparse)
      · exact hk
    · exact .word hnone

theorem existsUnique_key (e : String) : ∃! k, Key e k := by
  refine ⟨String.ofList (bracketKey e.toList), key_iff.mpr String.toList_ofList.symm, fun k hk => ?_⟩
  rw [key_iff.mp hk, String.ofList_toList]

/-- A key has its characters from the text in brackets, or they are some that values have on their own. -/
theorem Key.mem_or_isOwn (h : Key e k) : ∀ c ∈ k.toList, c ∈ e.toList ∨ IsOwn c := by
  have htrim : ∀ c ∈ (Text.trim e).toList, c ∈ e.toList := fun c hc =>
    Text.mem_of_mem_trimChars (Text.toList_trim e ▸ hc)
  intro c hc
  cases h with
  | value hparse heval =>
    have hvalue := Expr.value?_eq_some_iff.mpr ⟨_, hparse, heval⟩
    exact (Expr.mem_or_isOwn_of_value? hvalue c hc).imp_left (htrim c)
  | word _ hk => exact Or.inl (htrim c (hk.mem c hc))

theorem Key.unbracketed (h : Key e k) (hopen : '[' ∉ e.toList) : '[' ∉ k.toList := by
  intro hk
  rcases h.mem_or_isOwn '[' hk with he | hown
  · exact hopen he
  · simp [IsOwn, IsFigure] at hown

/-! ### Paths -/

/-- In brackets the text is read as the key behind a dot. -/
structure ReadsAsKey (e k : String) : Prop where
  expand_eq : ∀ before after, expand (before ++ "[" ++ e ++ "]" ++ after) = expand before ++ "." ++ k ++ expand after
  resolve_eq : ∀ a c defaults before after, '[' ∉ before.toList → '[' ∉ after.toList →
    Text.IsTrimmed (before ++ "[" ++ e ++ "]" ++ after).toList → Text.IsTrimmed (before ++ "." ++ k ++ after).toList →
      resolve a c defaults (before ++ "[" ++ e ++ "]" ++ after) = resolve a c defaults (before ++ "." ++ k ++ after)

theorem toList_bracketed (before e after : String) :
    (before ++ "[" ++ e ++ "]" ++ after).toList = before.toList ++ '[' :: (e.toList ++ ']' :: after.toList) := by
  simp

theorem Key.readsAsKey (h : Key e k) (hopen : '[' ∉ e.toList) (hclose : ']' ∉ e.toList) : ReadsAsKey e k := by
  have hexpand : ∀ before after : String, expandChars (before ++ "[" ++ e ++ "]" ++ after).toList =
      expandChars before.toList ++ '.' :: k.toList ++ expandChars after.toList := by
    intro before after
    rw [toList_bracketed, expandChars_bracketed hopen hclose, key_iff.mp h]
  constructor
  case expand_eq =>
    intro before after
    rw [expand, hexpand, ← String.toList_inj]
    simp [expand]
  case resolve_eq =>
    intro a c defaults before after hbefore hafter htrimmed htrimmed'
    refine resolve_congr ?_ a c defaults
    -- The key brings no bracket into the second path, so that one is its own expansion.
    have hself : expandChars (before ++ "." ++ k ++ after).toList = (before ++ "." ++ k ++ after).toList :=
      expandChars_eq_self (by simp [hbefore, hafter, h.unbracketed hopen])
    rw [segments, segments, htrimmed.trimChars_eq_self, htrimmed'.trimChars_eq_self, hself, hexpand,
      expandChars_eq_self hbefore, expandChars_eq_self hafter]
    simp

/-- A text without brackets, put in brackets, is read as its key behind a dot, and it has just one. -/
theorem bracketed_readsAsKey (hopen : '[' ∉ e.toList) (hclose : ']' ∉ e.toList) :
    (∃! k, Key e k) ∧ ∀ k, Key e k → ReadsAsKey e k :=
  ⟨existsUnique_key e, fun _ h => h.readsAsKey hopen hclose⟩

end

/-- A local with one field. -/
def tabled : Context :=
  (Context.new default).setLocal "row" (.obj [("bc", .ofNat 7)])

theorem joined_readsAsKey : (∃! k, Key " 'b' + 'c'" k) ∧
    resolve Ambient.still tabled [] "row[ 'b' + 'c']" = .ofNat 7 := by
  obtain ⟨hunique, hreads⟩ := bracketed_readsAsKey (e := " 'b' + 'c'") (by decide) (by decide)
  have hrender : (Expr.value? (Text.trim " 'b' + 'c'")).map Json.render = some "bc" := by decide +kernel
  obtain ⟨value, hvalue, hbc⟩ := Option.map_eq_some_iff.mp hrender
  obtain ⟨expr, hparse, heval⟩ := Expr.value?_eq_some_iff.mp hvalue
  have hkey : Key " 'b' + 'c'" "bc" := hbc ▸ .value hparse heval
  have hresolve := (hreads "bc" hkey).resolve_eq Ambient.still tabled [] "row" "" (by decide) (by decide)
    (Text.trimChars_eq_self_iff.mp (by decide)) (Text.trimChars_eq_self_iff.mp (by decide))
  exact ⟨hunique, hresolve.trans rfl⟩

end FlowTree.Path
