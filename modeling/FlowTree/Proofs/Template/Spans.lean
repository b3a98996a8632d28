import FlowTree.Template.Path
import FlowTree.Proofs.Template.Segments

/-! # Spans

Filling reads a template from the left. A text whose last span is closed can be cut off: what follows it is
filled on its own (`fillFrom_append`). So everything about templates comes from four equations: a span gives
way to a value, and a text without opening braces, one without closing braces and an empty span stay. -/

namespace FlowTree

theorem Path.resolve_trim (a : Ambient) (c : Context) (defaults : Fields Json) (path : String) :
    resolve a c defaults (Text.trim path) = resolve a c defaults path :=
  resolve_congr (segments_trim path) a c defaults

namespace Template

variable {value : List Char → List Char} {pending : Option (List Char)} {cs ds p q : List Char}

/-! ### Open and closed spans -/

/-- No opening brace stands behind the last closing one: each has a closing brace behind it. -/
def IsClosed (cs : List Char) : Prop :=
  ∀ before after, cs = before ++ '{' :: after → '}' ∈ after

theorem IsClosed.of_cons {ch : Char} (h : IsClosed (ch :: cs)) : IsClosed cs := fun before after hcs =>
  h (ch :: before) after (by rw [hcs, List.cons_append])

theorem isClosed_of_not_mem (h : '{' ∉ cs) : IsClosed cs := fun before after hcs =>
  absurd (by rw [hcs]; simp) h

theorem isClosed_append_singleton (cs : List Char) : IsClosed (cs ++ ['}']) := by
  intro before after hcs
  have hlast : (before ++ '{' :: after).getLast? = some '}' := by rw [← hcs]; simp
  cases after with
  | nil => simp at hlast
  | cons ch after =>
    rw [List.getLast?_append_cons, List.getLast?_cons_cons] at hlast
    exact List.mem_of_getLast? hlast

/-- A text that ends outside of spans can be filled without what follows it. `pending` is an open span, which
    the text then closes. -/
theorem fillFrom_append (hclosed : IsClosed cs) (hpending : pending ≠ none → '}' ∈ cs) :
    fillFrom value pending (cs ++ ds) = fillFrom value pending cs ++ fillFrom value none ds := by
  fun_induction fillFrom value pending cs with
  | case1 => rfl
  | case2 p => exact absurd (hpending (by simp)) (by simp)
  | case3 cs ih =>
    rw [List.cons_append, fillFrom, if_pos rfl]
    exact ih hclosed.of_cons fun _ => hclosed [] cs rfl
  | case4 ch cs hch ih =>
    rw [List.cons_append, fillFrom, if_neg hch, ih hclosed.of_cons (fun h => absurd rfl h), List.cons_append]
  | case5 p cs ih =>
    rw [List.cons_append, fillFrom, if_pos rfl, ih hclosed.of_cons (fun h => absurd rfl h), List.append_assoc]
  | case6 p ch cs hch ih =>
    rw [List.cons_append, fillFrom, if_neg hch]
    refine ih hclosed.of_cons fun _ => ?_
    rcases List.mem_cons.mp (hpending (by simp)) with h | h
    · exact absurd h.symm hch
    · exact h

/-! ### One span -/

theorem fillFrom_pending (h : '}' ∉ p) :
    fillFrom value (some q) (p ++ cs) = fillFrom value (some (p.reverse ++ q)) cs := by
  induction p generalizing q with
  | nil => rfl
  | cons ch p ih =>
    rw [List.cons_append, fillFrom, if_neg (List.ne_of_not_mem_cons h).symm, ih (List.not_mem_of_not_mem_cons h)]
    simp

theorem fillFrom_span (hne : p ≠ []) (h : '}' ∉ p) : fillFrom value none ('{' :: p ++ ['}']) = value p := by
  rw [List.cons_append, fillFrom, if_pos rfl, fillFrom_pending h, fillFrom, if_pos rfl]
  simp [hne, fillFrom]

theorem fillFrom_of_no_opening (h : '{' ∉ cs) : fillFrom value none cs = cs := by
  induction cs with
  | nil => rfl
  | cons ch cs ih =>
    rw [fillFrom, if_neg (List.ne_of_not_mem_cons h).symm, ih (List.not_mem_of_not_mem_cons h)]

/-- Before it is closed, a span is the text that was read. -/
def opened : Option (List Char) → List Char
  | none => []
  | some p => '{' :: p.reverse

theorem fillFrom_of_no_closing (h : '}' ∉ cs) : fillFrom value pending cs = opened pending ++ cs := by
  fun_induction fillFrom value pending cs with
  | case1 => rfl
  | case2 p => simp [opened]
  | case3 cs ih => simpa [opened] using ih (List.not_mem_of_not_mem_cons h)
  | case4 ch cs _ ih => simpa [opened] using ih (List.not_mem_of_not_mem_cons h)
  | case5 p cs => exact absurd List.mem_cons_self h
  | case6 p ch cs _ ih => simpa [opened] using ih (List.not_mem_of_not_mem_cons h)

/-! ### Filling -/

/-- A span: a text in braces. -/
def braced (p : String) : String :=
  String.ofList ('{' :: p.toList ++ ['}'])

@[simp] theorem toList_braced (p : String) : (braced p).toList = '{' :: p.toList ++ ['}'] := String.toList_ofList

section
variable {a : Ambient} {c : Context} {defaults : Fields Json} {x y path : String}

theorem fillWith_append (hx : IsClosed x.toList) :
    fillWith a c defaults (x ++ y) = fillWith a c defaults x ++ fillWith a c defaults y := by
  rw [fillWith, String.toList_append, fillFrom_append hx (fun h => absurd rfl h), String.ofList_append]
  rfl

theorem fillWith_braced (hne : path ≠ "") (h : '}' ∉ path.toList) :
    fillWith a c defaults (braced path) = (Path.resolve a c defaults path).render := by
  rw [fillWith, toList_braced, fillFrom_span (by simpa using hne) h, String.ofList_toList, String.ofList_toList]

theorem fillWith_of_no_opening (h : '{' ∉ x.toList) : fillWith a c defaults x = x := by
  rw [fillWith, fillFrom_of_no_opening h, String.ofList_toList]

theorem fillWith_of_no_closing (h : '}' ∉ x.toList) : fillWith a c defaults x = x := by
  rw [fillWith, fillFrom_of_no_closing h, opened, List.nil_append, String.ofList_toList]

theorem isClosed_append_braced (x p : String) : IsClosed (x ++ braced p).toList := by
  rw [String.toList_append, toList_braced, ← List.append_assoc]
  exact isClosed_append_singleton _

end

/-- `fill` replaces the spans of a text, each by what `value` makes of the text in it, and nothing else. -/
structure FillsSpans (fill value : String → String) : Prop where
  append : ∀ x y, IsClosed x.toList → fill (x ++ y) = fill x ++ fill y
  span : ∀ p, p ≠ "" → '}' ∉ p.toList → fill (braced p) = value p
  no_opening : ∀ x, '{' ∉ x.toList → fill x = x
  no_closing : ∀ x, '}' ∉ x.toList → fill x = x
  empty_span : fill "{}" = "{}"
  /-- The text around a span is kept, and the inserted value is not read again. -/
  between : ∀ x p y, '{' ∉ x.toList → p ≠ "" → '}' ∉ p.toList →
    fill (x ++ braced p ++ y) = x ++ value p ++ fill y

/-- A template is filled with the values that the trimmed texts of its spans name. -/
theorem fillWith_fillsSpans (a : Ambient) (c : Context) (defaults : Fields Json) :
    FillsSpans (fillWith a c defaults) fun p => (Path.resolve a c defaults (Text.trim p)).render where
  append x y hx := fillWith_append hx
  span p hne hp := by rw [fillWith_braced hne hp, Path.resolve_trim]
  no_opening x hx := fillWith_of_no_opening hx
  no_closing x hx := fillWith_of_no_closing hx
  empty_span := rfl
  between x p y hx hne hp := by
    rw [fillWith_append (isClosed_append_braced x p), fillWith_append (isClosed_of_not_mem hx),
      fillWith_of_no_opening hx, fillWith_braced hne hp, Path.resolve_trim]

/-- A local whose value looks like its own span. -/
def echoing : Context :=
  (Context.new default).setLocal "name" (.str (braced "name"))

theorem fillWith_echoing :
    fillWith Ambient.still echoing [] ("Dear " ++ braced " name " ++ "!") = "Dear " ++ braced "name" ++ "!" := by
  have hfills := fillWith_fillsSpans Ambient.still echoing []
  have hvalue : Path.resolve Ambient.still echoing [] (Text.trim " name ") = .str (braced "name") := rfl
  rw [hfills.between _ _ _ (by decide) (by decide) (by decide), hfills.no_opening "!" (by decide), hvalue]
  rfl

/-- A span runs to the first closing brace, over any opening ones. -/
example : fillFrom (fun p => '<' :: p ++ ['>']) none "a{b{c}d}{}{e}".toList = "a<b{c>d}{}<e>".toList := by decide

end Template
end FlowTree
