import FlowTree.Proofs.Expr.Operands
import FlowTree.Proofs.Run.Branches
import FlowTree.Proofs.Template.Spans

/-! # Comparisons and expressions

A condition may compare two operands, or evaluate an expression. Two numbers or texts in quotes can be compared
either way. The comparison takes them as they are written and the expression as literals, so that the decisions
agree where the two readings do. -/

namespace FlowTree

/-- Whether an operator holds of two values. Without a value it does not. -/
def BinaryOp.decides (op : BinaryOp) (left right : Json) : Bool :=
  ((op.apply left right).map Json.isTruthy).toOption.getD false

theorem Comparison.ofText?_symbol :
    ∀ op ∈ BinaryOp.comparisons, ofText? (String.ofList op.symbol) = some (.binary op) := by decide

namespace Condition

open Grammar (Operand Spaced spaced_symbol)

variable {a : Ambient} {node : Node} {c : Context} {op : BinaryOp} {left right sign text : String} {l r : Literal}
  {typed typed' : Json} {n m : Nat}

/-- The condition compares the two texts. -/
structure Compares (node : Node) (left : String) (op : BinaryOp) (right : String) : Prop where
  comparison : node.nonEmpty? "comparison" = some (String.ofList op.symbol)
  expression1 : node.text "expression1" = left
  expression2 : node.text "expression2" = right

/-- The condition evaluates the text. -/
structure Evaluates (node : Node) (text : String) : Prop where
  comparison : node.nonEmpty? "comparison" = none
  condition : node.nonEmpty? "condition" = some text

/-! ### Either way -/

theorem Compares.decision_eq (h : Compares node left op right) (hop : op ∈ BinaryOp.comparisons)
    (hleft : '{' ∉ left.toList) (hright : '{' ∉ right.toList) :
    decision a node c = op.decides (Json.ofOperand left) (Json.ofOperand right) := by
  have hfill : ∀ x, '{' ∉ x.toList → Template.fill a c x = x := fun x => Template.fillWith_of_no_opening
  rw [decision, decide?, h.comparison]
  simp only [Comparison.ofText?_symbol op hop, h.expression1, h.expression2, hfill _ hleft, hfill _ hright]
  rfl

theorem Evaluates.decision_of_parse {e : Expr} (h : Evaluates node text)
    (hparse : Expr.parse (Template.fill a c text) = .ok e) :
    decision a node c = (e.eval.map Json.isTruthy).toOption.getD false := by
  rw [decision, decide?, h.comparison, h.condition]
  cases heval : e.eval <;> simp [Expr.value?, Expr.evalText, hparse, heval, Except.toOption, Except.map]

theorem Evaluates.decision_of_error (h : Evaluates node text)
    (hparse : ∀ e, Expr.parse (Template.fill a c text) ≠ .ok e) : decision a node c = false := by
  cases hcases : Expr.parse (Template.fill a c text) with
  | ok e => exact absurd hcases (hparse e)
  | error e => exact decision_of_undecided (.malformed h.comparison h.condition hcases)

theorem eval_literals (hop : op ∈ BinaryOp.comparisons) (l r : Literal) :
    (Expr.binary (.literal l) op (.literal r)).eval = op.apply l.value r.value := by
  have hlogical : op ≠ .and ∧ op ≠ .or := by
    constructor <;> rintro rfl <;> exact absurd hop (by decide)
  simp [Expr.eval, hlogical]

/-! ### Both ways -/

theorem not_opening_of_spaced (h : Spaced op sign.toList) : '{' ∉ sign.toList := by
  have hblanks : '{' ∉ Grammar.blanks := by decide
  have hsign : '{' ∉ Grammar.binarySign op := by cases op <;> decide
  generalize sign.toList = cs at h
  cases h with
  | mk hbefore hafter =>
    rw [List.mem_append, List.mem_append]
    rintro (hmem | hmem | hmem)
    · exact hblanks (hbefore _ hmem)
    · exact hsign hmem
    · exact hblanks (hafter _ hmem)

theorem fill_operands (hs : Spaced op sign.toList) (hleft : '{' ∉ left.toList) (hright : '{' ∉ right.toList) :
    Template.fill a c (left ++ sign ++ right) = String.ofList (left.toList ++ (sign.toList ++ right.toList)) := by
  have hfill : Template.fill a c (left ++ sign ++ right) = left ++ sign ++ right :=
    Template.fillWith_of_no_opening (by simp [hleft, hright, not_opening_of_spaced hs])
  rw [hfill]
  simp [String.append_assoc]

section
variable (hl : Operand left.toList l typed n) (hr : Operand right.toList r typed' m)
include hl hr

theorem Compares.decision_of_operands (h : Compares node left op right) (hop : op ∈ BinaryOp.comparisons)
    (hleft : '{' ∉ left.toList) (hright : '{' ∉ right.toList) (hfl : l.IsFinite) (hfr : r.IsFinite) :
    decision a node c = op.decides typed typed' := by
  have hl' := hl.ofOperand_eq hfl
  have hr' := hr.ofOperand_eq hfr
  rw [String.ofList_toList] at hl' hr'
  rw [h.decision_eq hop hleft hright, hl', hr']

variable (hs : Spaced op sign.toList) (hleft : '{' ∉ left.toList) (hright : '{' ∉ right.toList)
include hs hleft hright

/-- An expression takes its operands as literals. -/
theorem Evaluates.decision_of_operands (h : Evaluates node (left ++ sign ++ right)) (hop : op ∈ BinaryOp.comparisons)
    (hlength : n + (sign.length + m) ≤ Expr.maxLength) : decision a node c = op.decides l.value r.value := by
  have hparse := Grammar.parse_of_operands hl hr hs hlength
  rw [← fill_operands hs hleft hright] at hparse
  rw [h.decision_of_parse hparse, eval_literals hop]
  rfl

theorem Evaluates.decision_of_overlong (h : Evaluates node (left ++ sign ++ right))
    (hlength : Expr.maxLength < n + (sign.length + m)) : decision a node c = false := by
  refine h.decision_of_error fun e => ?_
  rw [fill_operands hs hleft hright]
  exact (Grammar.sentence_of_operands hl hr hs).parse_ne_ok hlength e

end

/-- What conditions decide that compare two operands, the one by a comparison and the other by an expression of which
    `n` characters count for the limit. -/
structure DecidesAlike (a : Ambient) (left sign right : String) (op : BinaryOp) (l r : Literal) (typed typed' : Json)
    (n : Nat) : Prop where
  /-- A comparison takes its operands as they are written. -/
  compared : ∀ node c, Compares node left op right → decision a node c = op.decides typed typed'
  evaluated : n ≤ 2048 → ∀ node c, Evaluates node (left ++ sign ++ right) →
    decision a node c = op.decides l.value r.value
  overlong : 2048 < n → ∀ node c, Evaluates node (left ++ sign ++ right) → decision a node c = false
  alike : '\\' ∉ left.toList → '\\' ∉ right.toList → n ≤ 2048 → ∀ node node' c c', Compares node left op right →
    Evaluates node' (left ++ sign ++ right) → decision a node c = decision a node' c'

theorem operands_decideAlike (hl : Operand left.toList l typed n) (hr : Operand right.toList r typed' m)
    (hs : Spaced op sign.toList) (hop : op ∈ BinaryOp.comparisons) (hleft : '{' ∉ left.toList)
    (hright : '{' ∉ right.toList) (hfl : l.IsFinite) (hfr : r.IsFinite) :
    DecidesAlike a left sign right op l r typed typed' (n + (sign.length + m)) where
  compared node c h := h.decision_of_operands hl hr hop hleft hright hfl hfr
  evaluated hlength node c h := h.decision_of_operands hl hr hs hleft hright hop hlength
  overlong hlength node c h := h.decision_of_overlong hl hr hs hleft hright hlength
  alike hplain hplain' hlength node node' c c' h h' := by
    rw [h.decision_of_operands hl hr hop hleft hright hfl hfr,
      h'.decision_of_operands hl hr hs hleft hright hop hlength, hl.typed_eq_value hplain, hr.typed_eq_value hplain']

/-! ### Conditions written both ways -/

theorem nonEmpty?_of_text {key : String} (h : node.text key = text) (htrim : Text.IsTrimmed text.toList)
    (hne : text ≠ "") : node.nonEmpty? key = some text := by
  rw [Node.nonEmpty?, h, Text.trim_eq_self_iff.mpr htrim]
  simp [hne]

/-- A condition that compares two texts. -/
def comparing (left : String) (op : BinaryOp) (right : String) : Node :=
  .mk "compare" "condition"
    [("expression1", .str left), ("comparison", .str (String.ofList op.symbol)), ("expression2", .str right)] [] none

/-- A condition that evaluates two texts with an operator between them. -/
def evaluating (left : String) (op : BinaryOp) (right : String) : Node :=
  .mk "evaluate" "condition" [("condition", .str (left ++ (" " ++ String.ofList op.symbol ++ " ") ++ right))] [] none

theorem compares_comparing (left : String) (op : BinaryOp) (right : String) :
    Compares (comparing left op right) left op right where
  comparison := by
    have hsymbol : Text.trim (String.ofList op.symbol) = String.ofList op.symbol ∧ String.ofList op.symbol ≠ "" := by
      cases op <;> decide
    exact nonEmpty?_of_text rfl (Text.trim_eq_self_iff.mp hsymbol.1) hsymbol.2
  expression1 := rfl
  expression2 := rfl

theorem evaluates_evaluating (hl : Operand left.toList l typed n) (hr : Operand right.toList r typed' m) :
    Evaluates (evaluating left op right) (left ++ (" " ++ String.ofList op.symbol ++ " ") ++ right) where
  comparison := rfl
  condition := by
    refine nonEmpty?_of_text rfl ?_ (by simp)
    rw [String.toList_append, String.toList_append]
    exact hl.isTrimmed.around hr.isTrimmed hl.ne_nil hr.ne_nil _

/-- A number with a point. -/
def price : Float :=
  (⟨150, -2⟩ : Decimal).toFloat

theorem price_decidesAlike :
    decision Ambient.still (comparing "1.50" .lessOrEqual "'2'") Template.echoing = true ∧
      decision Ambient.still (evaluating "1.50" .lessOrEqual "'2'") Template.echoing = true := by
  have hprice : Operand "1.50".toList (.number price) (Json.ofFloat price) 4 := .of_number? rfl
  have hquoted : Operand "'2'".toList (.string "2") (.str "2") 1 := .of_body (Or.inr rfl) ['2'] rfl
  have hfinite : price.isFinite = true := by decide +kernel
  have halike : DecidesAlike Ambient.still "1.50" _ "'2'" .lessOrEqual _ _ _ _ _ :=
    operands_decideAlike hprice hquoted (spaced_symbol _) (by decide) (by decide) (by decide) hfinite trivial
  have hcompared := halike.compared _ Template.echoing (compares_comparing ..)
  have hsame := halike.alike (by decide) (by decide) (by decide) _ _ Template.echoing Template.echoing
    (compares_comparing ..) (evaluates_evaluating hprice hquoted)
  have htrue : BinaryOp.decides .lessOrEqual (Json.ofFloat price) (.str "2") = true := by decide +kernel
  exact ⟨hcompared.trans htrue, hsame.symm.trans (hcompared.trans htrue)⟩

/-- The texts are operands without braces, and their comparison is not decided as the expression is. -/
structure Differs (left : String) (op : BinaryOp) (right : String) : Prop where
  left_operand : ∃ l typed n, Operand left.toList l typed n
  right_operand : ∃ r typed n, Operand right.toList r typed n
  braceless : '{' ∉ left.toList ++ right.toList ∧ '}' ∉ left.toList ++ right.toList
  decision_ne : decision Ambient.still (comparing left op right) Template.echoing ≠
    decision Ambient.still (evaluating left op right) Template.echoing

theorem differs_of_decides (hl : Operand left.toList l typed n) (hr : Operand right.toList r typed' m)
    (hop : op ∈ BinaryOp.comparisons)
    (hbraceless : '{' ∉ left.toList ++ right.toList ∧ '}' ∉ left.toList ++ right.toList)
    (hlength : n + ((" " ++ String.ofList op.symbol ++ " ").length + m) ≤ Expr.maxLength)
    (hne : op.decides (Json.ofOperand left) (Json.ofOperand right) ≠ op.decides l.value r.value) :
    Differs left op right := by
  have hleft : '{' ∉ left.toList := fun h => hbraceless.1 (List.mem_append_left _ h)
  have hright : '{' ∉ right.toList := fun h => hbraceless.1 (List.mem_append_right _ h)
  refine ⟨⟨_, _, _, hl⟩, ⟨_, _, _, hr⟩, hbraceless, ?_⟩
  rw [(compares_comparing left op right).decision_eq hop hleft hright,
    (evaluates_evaluating hl hr).decision_of_operands hl hr (spaced_symbol op) hleft hright hop hlength]
  exact hne

/-- The float of a number beyond the range of doubles. -/
def beyondDoubles : Float :=
  (⟨1, 999⟩ : Decimal).toFloat

/-- Zero, written with `n` digits. -/
def zeros (n : Nat) : String :=
  String.ofList (List.replicate n '0')

theorem eq_of_mem_zeros {ch : Char} (h : ch ∈ (zeros n).toList) : ch = '0' := by
  rw [zeros, String.toList_ofList] at h
  exact List.eq_of_mem_replicate h

theorem operand_zeros (hn : 0 < n) : Operand (zeros n).toList (.number 0.0) (Json.ofFloat 0.0) n := by
  have hdigits : Grammar.IsDigits (zeros n).toList := by
    refine ⟨fun hnil => ?_, fun ch hch => eq_of_mem_zeros hch ▸ rfl⟩
    rw [zeros, String.toList_ofList, List.replicate_eq_nil_iff] at hnil
    omega
  have hvalue : ∀ n, Decimal.ofDigits (List.replicate n '0') = 0 := by
    intro n
    induction n with
    | zero => rfl
    | succ n ih => exact ih
  have hread := Grammar.readFloat?_whole hdigits .absent rfl
  rw [List.append_nil] at hread
  rw [zeros, String.toList_ofList] at hdigits hread ⊢
  rw [hvalue] at hread
  have hoperand : Operand _ _ _ _ := .number ⟨_, [], .whole hdigits, .absent, (List.append_nil _).symm⟩ hread
  rw [List.length_replicate] at hoperand
  exact hoperand

theorem spellings_differ : Differs "'it\\'s'" .equal "\"it's\"" ∧ Differs "1e999" .less "5" ∧
    Differs (zeros 2049) .equal "0" := by
  refine ⟨?escape, ?overflow, ?overlong⟩
  case escape =>
    have hescaped : Operand "'it\\'s'".toList (.string "it's") (.str "it\\'s") 1 :=
      .of_body (Or.inr rfl) "it\\'s".toList rfl
    have hquoted : Operand "\"it's\"".toList (.string "it's") (.str "it's") 1 :=
      .of_body (Or.inl rfl) "it's".toList rfl
    exact differs_of_decides hescaped hquoted (by decide) (by decide) (by decide) (by decide)
  case overflow =>
    have hbeyond : Operand "1e999".toList (.number beyondDoubles) (Json.ofFloat beyondDoubles) 5 := .of_number? rfl
    have hfive : Operand "5".toList _ _ 1 := .of_number? rfl
    exact differs_of_decides hbeyond hfive (by decide) (by decide) (by decide) (by decide +kernel)
  case overlong =>
    have hzeros : Operand (zeros 2049).toList _ _ 2049 := operand_zeros (by decide)
    have hzero : Operand "0".toList _ _ 1 := @operand_zeros 1 (by decide)
    have hnot : ∀ ch, ch ≠ '0' → ch ∉ (zeros 2049).toList ++ (zeros 1).toList := by
      intro ch hne hch
      rcases List.mem_append.mp hch with hch | hch
      · exact hne (eq_of_mem_zeros hch)
      · exact hne (eq_of_mem_zeros hch)
    have hleft : '{' ∉ (zeros 2049).toList := fun h => hnot _ (by decide) (List.mem_append_left _ h)
    have hfinite : (0.0 : Float).isFinite = true := by decide +kernel
    have hequal : BinaryOp.decides .equal (Json.ofFloat 0.0) (Json.ofFloat 0.0) = true := by decide +kernel
    refine ⟨⟨_, _, _, hzeros⟩, ⟨_, _, _, hzero⟩, ⟨hnot _ (by decide), hnot _ (by decide)⟩, ?_⟩
    rw [(compares_comparing ..).decision_of_operands hzeros hzero (by decide) hleft (by decide) hfinite hfinite,
      (evaluates_evaluating hzeros hzero).decision_of_overlong hzeros hzero (spaced_symbol .equal) hleft (by decide)
        (by decide), hequal]
    decide

end Condition

end FlowTree
