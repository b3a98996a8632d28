import FlowTree.Proofs.Expr.Values
import FlowTree.Proofs.Template.Resolution
import FlowTree.Proofs.Template.Spans

/-! # Expressions behind a helper

Behind the name of the helper that solves expressions stands an expression. Its dots do not matter, because the
pieces between them are joined again. A pair of equal quotes around it is taken off before it is read, as around
every argument of a helper: what is solved then is the text between them. -/

namespace FlowTree.Path

variable {a : Ambient} {c : Context} {defaults : Fields Json} {e t : String} {value : Json}

/-- The value of an expression, or the empty text where it cannot be read or has no value. -/
inductive Solution (e : String) : Json → Prop where
  | value {expr : Expr} {value : Json} (hparse : Expr.parse e = .ok expr) (heval : expr.eval = .ok value) :
      Solution e value
  | nothing (hnone : ∀ expr value, Expr.parse e = .ok expr → expr.eval ≠ .ok value) : Solution e (.str "")

theorem solution_iff : Solution e value ↔ (Expr.value? e).getD (.str "") = value := by
  cases hvalue : Expr.value? e with
  | some v =>
    obtain ⟨expr, hparse, heval⟩ := Expr.value?_eq_some_iff.mp hvalue
    rw [Option.getD_some]
    constructor
    · rintro (⟨hparse', heval'⟩ | hnone)
      · exact Option.some.inj (hvalue.symm.trans (Expr.value?_eq_some_iff.mpr ⟨_, hparse', heval'⟩))
      · exact absurd heval (hnone expr v hparse)
    · rintro rfl
      exact .value hparse heval
  | none =>
    have hnone := Expr.value?_eq_none_iff.mp hvalue
    rw [Option.getD_none]
    constructor
    · rintro (⟨hparse, heval⟩ | -)
      · exact absurd heval (hnone _ _ hparse)
      · rfl
    · rintro rfl
      exact .nothing hnone

/-- The path calls the helper with an expression. -/
structure CallsSolve (c : Context) (defaults : Fields Json) (e : String) : Prop where
  rootless : rootValues c defaults "solve" = []
  unbracketed : '[' ∉ e.toList ∧ ']' ∉ e.toList
  trimmed : Text.IsTrimmed e.toList
  pieces_ne_empty : "" ∉ pieces e

theorem CallsSolve.resolve_eq (h : CallsSolve c defaults e) (ht : Text.Unquoted e.toList t.toList) :
    resolve a c defaults ("solve." ++ e) = (Expr.value? t).getD (.str "") := by
  have htrim : Text.trim e = e := Text.trim_eq_self_iff.mpr h.trimmed
  have hpieces := segments_of_trimmed h.trimmed h.unbracketed.1
  have hdotted := segments_dotted (s := "solve") (by decide) e
  rw [furtherSegments_of_trimmed htrim] at hdotted
  have hsegs : "" ∉ "solve" :: segments e := by
    rw [hpieces]
    simp [h.pieces_ne_empty]
  have hjoined : Text.trim (".".intercalate (segments e)) = e := by
    rw [intercalate_segments, htrim, expand, expandChars_eq_self h.unbracketed.1, String.ofList_toList, htrim]
  -- The helper gets what its argument was before the path was cut.
  have hdenotes : Denotes a c defaults ("solve" :: segments e) (Helper.solve.call a (some (.str t))) :=
    .helper hsegs (by simp [h.rootless]) rfl (.text (segments_ne_nil e) (hjoined.symm ▸ ht))
  exact denotes_iff.mp (hdotted ▸ hdenotes)

/-- What a path comes to that calls the helper with an expression. -/
structure SolvesUnquoted (a : Ambient) (c : Context) (defaults : Fields Json) (e : String) : Prop where
  bare : (∀ q inner, Text.IsQuote q → e.toList ≠ q :: inner ++ [q]) →
    ∀ value, resolve a c defaults ("solve." ++ e) = value ↔ Solution e value
  /-- Equal quotes at both ends are taken off, also where they belong to two literals. -/
  quoted : ∀ q inner, Text.IsQuote q → e.toList = q :: inner ++ [q] →
    ∀ value, resolve a c defaults ("solve." ++ e) = value ↔ Solution (String.ofList inner) value

theorem solve_unquoted (h : CallsSolve c defaults e) : SolvesUnquoted a c defaults e := by
  have hsolves : ∀ t : String, Text.Unquoted e.toList t.toList →
      ∀ value, resolve a c defaults ("solve." ++ e) = value ↔ Solution t value := by
    intro t ht value
    rw [h.resolve_eq ht, solution_iff]
  constructor
  case bare => exact fun hbare => hsolves e (.bare hbare)
  case quoted =>
    intro q inner hq htext
    refine hsolves (String.ofList inner) ?_
    rw [htext, String.toList_ofList]
    exact .quoted hq

theorem callsSolve_empty (hopen : '[' ∉ e.toList ∧ ']' ∉ e.toList) (htrim : Text.trim e = e) (hpieces : "" ∉ pieces e) :
    CallsSolve (Context.new default) [] e :=
  ⟨rfl, hopen, Text.trim_eq_self_iff.mp htrim, hpieces⟩

theorem product_solved :
    (resolve Ambient.still (Context.new default) [] ("solve." ++ "2 * 1.5")).render = "3" ∧
      resolve Ambient.still (Context.new default) [] ("solve." ++ "'1' + '2'") = .str "" := by
  have hproduct : CallsSolve (Context.new default) [] "2 * 1.5" := callsSolve_empty (by decide) (by decide) (by decide)
  have hsum : CallsSolve (Context.new default) [] "'1' + '2'" := callsSolve_empty (by decide) (by decide) (by decide)
  constructor
  · have hrender : (Expr.value? "2 * 1.5").map Json.render = some "3" := by decide +kernel
    obtain ⟨value, hvalue, hthree⟩ := Option.map_eq_some_iff.mp hrender
    have hstrip : Text.stripQuotes "2 * 1.5" = none := by decide
    have hbare := Text.stripQuotes_eq_none_iff.mp hstrip
    have hsolution : Solution "2 * 1.5" value := solution_iff.mpr (by rw [hvalue, Option.getD_some])
    rw [((solve_unquoted hproduct).bare hbare value).mpr hsolution, hthree]
  · have hnone : Expr.value? "1' + '2" = none := Option.isNone_iff_eq_none.mp (by decide +kernel)
    have hsolution : Solution "1' + '2" (.str "") := .nothing (Expr.value?_eq_none_iff.mp hnone)
    exact ((solve_unquoted hsum).quoted '\'' "1' + '2".toList (Or.inr rfl) rfl _).mpr hsolution

/-- A text in quotes is the value of its expression and not what the path comes to. -/
theorem literal_notSolved : ¬∀ a c defaults e value, CallsSolve c defaults e → Solution e value →
    resolve a c defaults ("solve." ++ e) = value := by
  intro h
  have hcalls : CallsSolve (Context.new default) [] "'hi'" := callsSolve_empty (by decide) (by decide) (by decide)
  have hrender : (Expr.value? "'hi'").map Json.render = some "hi" := by decide +kernel
  obtain ⟨value, hvalue, hhi⟩ := Option.map_eq_some_iff.mp hrender
  have hsolution : Solution "'hi'" value := solution_iff.mpr (by rw [hvalue, Option.getD_some])
  have hnone : Expr.value? "hi" = none := Option.isNone_iff_eq_none.mp (by decide +kernel)
  have hunquoted : Text.Unquoted "'hi'".toList "hi".toList := Text.unquoted_text_iff.mpr (by decide)
  have hempty : resolve Ambient.still (Context.new default) [] ("solve." ++ "'hi'") = .str "" := by
    rw [hcalls.resolve_eq hunquoted, hnone, Option.getD_none]
  rw [← h Ambient.still _ _ _ _ hcalls hsolution, hempty] at hhi
  exact absurd hhi (by decide)

end FlowTree.Path
