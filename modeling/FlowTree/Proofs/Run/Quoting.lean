import FlowTree.Proofs.Run.Comparisons
import FlowTree.Proofs.Run.Intake

/-! # Request data between quotes

A condition may put a parameter of the request between the quotes of a literal and compare it with a constant.
The text is filled before it is read, so that quotes and backslashes of the value are read with those of the
author. A value that has none is compared as it is. One that keeps its quotes escaped is compared as what its
escapes stand for. With any other value the literal does not end at the author's quote. -/

namespace FlowTree

namespace Condition

open Grammar (Contents)

variable {a : Ambient} {node : Node} {c : Context} {param value constant : String} {s : List Char}

/-- The test of a parameter against a constant, both in quotes. -/
def quotedTest (param constant : String) : String :=
  "'" ++ Template.braced ("params." ++ param) ++ ("' == '" ++ constant ++ "'")

/-- The test with a value for the parameter. -/
def testOf (value constant : String) : String :=
  "'" ++ value ++ ("' == '" ++ constant ++ "'")

theorem fill_quotedTest (hparam : '}' ∉ param.toList) (hconstant : '{' ∉ constant.toList)
    (hvalue : Path.resolve a c c.defaults ("params." ++ param) = .str value) :
    Template.fill a c (quotedTest param constant) = testOf value constant := by
  have hne : "params." ++ param ≠ "" := by simp
  have hclosing : '}' ∉ ("params." ++ param).toList := by
    rw [String.toList_append, List.mem_append, not_or]
    exact ⟨by decide, hparam⟩
  have hrest : '{' ∉ ("' == '" ++ constant ++ "'").toList := by simp [hconstant]
  rw [Template.fill, quotedTest, Template.fillWith_append (Template.isClosed_append_braced _ _),
    Template.fillWith_append (Template.isClosed_of_not_mem (by decide)), Template.fillWith_of_no_opening (by decide),
    Template.fillWith_braced hne hclosing, Template.fillWith_of_no_opening hrest, hvalue]
  rfl

theorem parse_testOf (hvalue : Contents '\'' value.toList s)
    (hconstant : '\\' ∉ constant.toList ∧ '\'' ∉ constant.toList) :
    Expr.parse (testOf value constant) =
      .ok (.binary (.literal (.string (String.ofList s))) .equal (.literal (.string constant))) := by
  have hquote : Text.IsQuote '\'' := Or.inr rfl
  have hright := Grammar.Operand.string hquote (Grammar.contents_of_plain hconstant.1 hconstant.2)
  have hparse := Grammar.parse_of_operands (.string hquote hvalue) hright (Grammar.spaced_symbol .equal) (by decide)
  rw [String.ofList_toList] at hparse
  have htext : testOf value constant = String.ofList ('\'' :: value.toList ++ ['\''] ++
      ((" " ++ String.ofList BinaryOp.equal.symbol ++ " ").toList ++ ('\'' :: constant.toList ++ ['\'']))) := by
    rw [← String.toList_inj]
    simp [testOf, BinaryOp.symbol]
  rw [htext, hparse]

/-- The author's closing quote ends the literal if the value keeps its quotes escaped, and only then. -/
theorem string?_testOf : (∃ text, Grammar.string? (testOf value constant).toList =
    some (text, (" == '" ++ constant ++ "'").toList)) ↔ ∃ s, Contents '\'' value.toList s := by
  have htext : (testOf value constant).toList =
      '\'' :: (value.toList ++ '\'' :: (" == '" ++ constant ++ "'").toList) := by
    simp [testOf]
  have hread : Grammar.string? (testOf value constant).toList =
      (Grammar.stringBody? '\'' (value.toList ++ '\'' :: (" == '" ++ constant ++ "'").toList)).map
        fun r => (String.ofList r.1, r.2) := by
    rw [htext]
    rfl
  rw [hread]
  constructor
  · rintro ⟨text, h⟩
    obtain ⟨⟨s, rest⟩, hbody, heq⟩ := Option.map_eq_some_iff.mp h
    obtain ⟨-, rfl⟩ := Prod.mk.inj heq
    exact ⟨s, (Grammar.stringBody?_iff (by decide) _).mp hbody⟩
  · rintro ⟨s, hs⟩
    exact ⟨String.ofList s, by rw [(Grammar.stringBody?_iff (by decide) _).mpr hs]; rfl⟩

theorem decision_testOf (h : Evaluates node (quotedTest param constant))
    (hfill : Template.fill a c (quotedTest param constant) = testOf value constant)
    (hvalue : Contents '\'' value.toList s)
    (hconstant : '\\' ∉ constant.toList ∧ '\'' ∉ constant.toList) :
    decision a node c = true ↔ String.ofList s = constant := by
  rw [h.decision_of_parse (hfill ▸ parse_testOf hvalue hconstant), eval_literals (by decide)]
  exact beq_iff_eq

end Condition

namespace Walk
open Condition
open Grammar (Contents)

variable {v : Services} {c : Context} {call : Call} {calls : List Call} {u : Visit} {param value constant : String}

/-- What a condition makes of a value that it compares, between quotes, with a constant. -/
structure ComparesValue (filled : String) (outcome : Outcome) (value constant : String) : Prop where
  plain : '\'' ∉ value.toList → '\\' ∉ value.toList →
    Expr.parse filled = .ok (.binary (.literal (.string value)) .equal (.literal (.string constant))) ∧
      (outcome.branch = some .condition ↔ value = constant)
  escaped : ∀ s, Contents '\'' value.toList s →
    Expr.parse filled = .ok (.binary (.literal (.string (String.ofList s))) .equal (.literal (.string constant))) ∧
      (outcome.branch = some .condition ↔ String.ofList s = constant)
  /-- The literal that the author's first quote opens ends at the author's second quote for no other values. -/
  closes : (∃ text, Grammar.string? filled.toList = some (text, (" == '" ++ constant ++ "'").toList)) ↔
    ∃ s, Contents '\'' value.toList s

theorem ofDecision_eq_condition {decision : Bool} : some (Branch.ofDecision decision) = some Branch.condition ↔
    decision = true := by
  cases decision <;> simp [Branch.ofDecision]

theorem callVisits_comparesValue (hc : c.isInitialized = false)
    (hu : u ∈ callVisits (.standard v) (call :: calls) c) (hkind : u.node.kind = "condition")
    (hnode : Evaluates u.node (quotedTest param constant)) (hplain : Path.IsPlain param) (hparam : '}' ∉ param.toList)
    (hbrace : '{' ∉ constant.toList) (hconstant : '\\' ∉ constant.toList ∧ '\'' ∉ constant.toList)
    (hvalue : call.request.queryText? param = some value) :
    ComparesValue (Template.fill v.ambient u.before.context (quotedTest param constant)) u.outcome value constant := by
  obtain ⟨d, heffects⟩ := effects_callVisits (v := v) call calls c
  obtain ⟨-, hlog⟩ := heffects.keeps Effect.holds (holds_receive hc call.request)
  have hresolve := (hlog u hu).1.takenIn.resolve_query v.ambient u.before.context.defaults param value hplain hvalue
  have hfill := fill_quotedTest hparam hbrace hresolve
  obtain ⟨request, hvisit⟩ := visitOf_of_mem_callVisits hu
  have hdone : DoneByBlock (.standard v) request u := hvisit ▸ doneByBlock_visitOf u.place u.node u.before
  have houtcome := (condition_done hdone hkind).1
  have hescaped : ∀ s, Contents '\'' value.toList s →
      Expr.parse (testOf value constant) =
          .ok (.binary (.literal (.string (String.ofList s))) .equal (.literal (.string constant))) ∧
        (u.outcome.branch = some .condition ↔ String.ofList s = constant) := by
    intro s hs
    rw [houtcome, ofDecision_eq_condition]
    exact ⟨parse_testOf hs hconstant, decision_testOf hnode hfill hs hconstant⟩
  rw [hfill]
  constructor
  case plain =>
    intro hquote hbackslash
    have h := hescaped _ (Grammar.contents_of_plain hbackslash hquote)
    rwa [String.ofList_toList] at h
  case escaped => exact hescaped
  case closes => exact string?_testOf

/-- A flow that declares a role and asks whether it is that of the administrator. -/
def gate : Node :=
  .mk "gate" "start" [("queryParams", .arr [.arr [.str "role"]])]
    [.mk "check" "condition" [("condition", .str (quotedTest "role" "admin"))] [] none] none

def gateCall (role : String) : Call :=
  { node := some gate, request := (Request.new "GET" "/").withQuery "role" role, exchange := { peer := .unreachable } }

theorem length_gateVisits (role : String) :
    (callVisits (.standard .still) [gateCall role] (.new (.ofNode gate))).length = 2 := rfl

/-- The visit of the condition when a request claims the role. -/
def checked (role : String) : Visit :=
  (callVisits (.standard .still) [gateCall role] (.new (.ofNode gate))).get
    ⟨1, length_gateVisits role ▸ Nat.one_lt_two⟩

theorem node_checked (role : String) :
    (checked role).node = .mk "check" "condition" [("condition", .str (quotedTest "role" "admin"))] [] none := rfl

theorem evaluates_checked (role : String) : Evaluates (checked role).node (quotedTest "role" "admin") := by
  rw [node_checked]
  exact ⟨rfl, nonEmpty?_of_text rfl (Text.trim_eq_self_iff.mp (by decide)) (by decide)⟩

theorem checked_compares : (checked "admin").outcome.branch = some .condition ∧
    (checked "{role}").outcome.branch ≠ some .condition ∧ (checked "root\\'s").outcome.branch ≠ some .condition := by
  have hcompares : ∀ role, ComparesValue
      (Template.fill Services.still.ambient (checked role).before.context (quotedTest "role" "admin"))
      (checked role).outcome role "admin" := by
    intro role
    have hmem : checked role ∈ callVisits (.standard .still) [gateCall role] (.new (.ofNode gate)) :=
      List.get_mem _ _
    have hkind : (checked role).node.kind = "condition" := node_checked role ▸ rfl
    exact callVisits_comparesValue rfl hmem hkind (evaluates_checked role) (by decide) (by decide) (by decide)
      (by decide) rfl
  have hescaped : Contents '\'' "root\\'s".toList "root's".toList :=
    (Grammar.stringBody?_iff (by decide) []).mp rfl
  refine ⟨((hcompares "admin").plain (by decide) (by decide)).2.mpr rfl, fun h => ?_, fun h => ?_⟩
  · exact absurd (((hcompares "{role}").plain (by decide) (by decide)).2.mp h) (by decide)
  · exact absurd (((hcompares "root\\'s").escaped _ hescaped).2.mp h) (by decide)

/-- A quote in the value makes another expression of the test, and a backslash is lost in its literal. -/
theorem checked_injected : (checked "admin' || '").outcome.branch = some .condition ∧ "admin' || '" ≠ "admin" ∧
    (∃ left right, Expr.parse (Template.fill Services.still.ambient (checked "admin' || '").before.context
      (quotedTest "role" "admin")) = .ok (.binary left .or right)) ∧
    (checked "\\admin").outcome.branch = some .condition ∧ "\\admin" ≠ "admin" := by
  refine ⟨by decide +kernel, by decide, ?shape, by decide +kernel, by decide⟩
  case shape =>
    have hfill : Template.fill Services.still.ambient (checked "admin' || '").before.context
        (quotedTest "role" "admin") = "'admin' || '' == 'admin'" := by decide +kernel
    have hop : (match Expr.parse "'admin' || '' == 'admin'" with
        | .ok (.binary _ op _) => some op
        | _ => none) = some .or := by decide +kernel
    rw [hfill]
    split at hop
    next left op right hparse => exact ⟨left, right, Option.some.inj hop ▸ hparse⟩
    next => cases hop

end Walk

end FlowTree
