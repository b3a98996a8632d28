import FlowTree.Proofs.Number.Exact
import FlowTree.Proofs.Run.Comparisons
import FlowTree.Proofs.Text.Search

/-! # Searches

A condition may look for a text in another one, at its beginning, at its end or anywhere. Both are operands, so a
text that writes a number is that number and shows in its figures. A plus sign, leading zeros, zeros at the end of a
fraction and an exponent are not found. Every other text is searched, and looked for, as it is written. -/

namespace FlowTree

/-! ### How operands show -/

/-- What a text shows as an operand: the number that it writes, or else itself. -/
inductive Shows (t : String) : String → Prop
  | number {f : Float} (h : Json.parseNumber? t = some f) : Shows t (Json.ofFloat f).render
  | text (h : Json.parseNumber? t = none) : Shows t t

/-- A text without blanks or a pair of equal quotes around it. -/
structure IsBare (t : String) : Prop where
  trimmed : Text.IsTrimmed t.toList
  unquoted : ∀ q inner, Text.IsQuote q → t.toList ≠ q :: inner ++ [q]

/-- A text that shows as itself: some character of it occurs in no number, or it is a whole number below 2⁵³ in
    its figures. -/
inductive IsVerbatim : String → Prop
  | other {t : String} {ch : Char} (h : ch ∈ t.toList) (hch : Json.isNumeralChar ch = false) : IsVerbatim t
  | whole {n : ℤ} (h : n.natAbs < 2 ^ 53) : IsVerbatim (toString n)

variable {t u v : String}

theorem isBare_of_strip (htrim : Text.trim t = t) (hstrip : Text.stripQuotes t = none) : IsBare t :=
  ⟨Text.trim_eq_self_iff.mp htrim, Text.stripQuotes_eq_none_iff.mp hstrip⟩

theorem shows_iff (h : IsBare t) : Shows t u ↔ Comparison.operandText t = u := by
  have htrim : Text.trim t = t := Text.trim_eq_self_iff.mpr h.trimmed
  cases hparse : Json.parseNumber? t with
  | some f =>
    have hshown : Comparison.operandText t = (Json.ofFloat f).render := by
      rw [Comparison.operandText, Json.ofOperand]
      simp only [htrim, hparse]
    rw [hshown]
    constructor
    · rintro (hf | hnone)
      · rw [Option.some.inj (hparse.symm.trans hf)]
      · rw [hparse] at hnone
        cases hnone
    · rintro rfl
      exact .number hparse
  | none =>
    have hshown : Comparison.operandText t = t := by
      rw [Comparison.operandText, Json.ofOperand]
      simp only [htrim, hparse, Text.stripQuotes_eq_none_iff.mpr h.unquoted]
      rfl
    rw [hshown]
    constructor
    · rintro (hf | -)
      · rw [hparse] at hf
        cases hf
      · rfl
    · rintro rfl
      exact .text hparse

theorem existsUnique_shows (h : IsBare t) : ∃! u, Shows t u :=
  ⟨_, (shows_iff h).mpr rfl, fun _ hu => ((shows_iff h).mp hu).symm⟩

theorem IsVerbatim.shows (h : IsVerbatim t) (ht : IsBare t) : Shows t t := by
  cases h with
  | @other _ ch hmem hch =>
    refine .text ?_
    rw [Json.parseNumber?, ht.trimmed.trimChars_eq_self]
    exact if_neg fun hall => by simp [List.all_eq_true.mp hall.2 ch hmem] at hch
  | @whole n hn =>
    obtain ⟨f, hparse, hf⟩ := parseNumber?_toString hn
    have hshows := Shows.number hparse
    rwa [hf] at hshows

/-! ### Decisions -/

namespace Condition

variable {a : Ambient} {c : Context} {node : Node} {comparison : Comparison} {q p : String}

/-- The condition looks for `p` in `q`: these are its operands once their templates are filled. -/
structure Searches (a : Ambient) (c : Context) (node : Node) (comparison : Comparison) (q p : String) : Prop where
  comparison : ∃ text, node.nonEmpty? "comparison" = some text ∧ Comparison.ofText? text = some comparison
  expression1 : Template.fill a c (node.text "expression1") = q
  expression2 : Template.fill a c (node.text "expression2") = p

theorem Searches.decision_eq {b : Bool} (h : Searches a c node comparison q p) (hholds : comparison.holds q p = .ok b) :
    decision a node c = b := by
  obtain ⟨text, htext, hcomparison⟩ := h.comparison
  rw [decision, decide?, htext]
  simp only [hcomparison, Option.bind_some, h.expression1, h.expression2, hholds]
  rfl

/-- Looking for `p` in `q`, a condition finds `v` if it occurs in `u`, and only then. -/
structure Finds (a : Ambient) (c : Context) (q p u v : String) : Prop where
  startsWith : ∀ node, Searches a c node .startsWith q p → (decision a node c = true ↔ v.toList <+: u.toList)
  endsWith : ∀ node, Searches a c node .endsWith q p → (decision a node c = true ↔ v.toList <:+ u.toList)
  contains : ∀ node, Searches a c node .contains q p → (decision a node c = true ↔ v.toList <:+: u.toList)
  notContains : ∀ node, Searches a c node .notContains q p → (decision a node c = false ↔ v.toList <:+: u.toList)

theorem finds_operandText : Finds a c q p (Comparison.operandText q) (Comparison.operandText p) where
  startsWith node h := by rw [h.decision_eq rfl, Text.startsWith_iff]
  endsWith node h := by rw [h.decision_eq rfl, Text.endsWith_iff]
  contains node h := by rw [h.decision_eq rfl, Text.contains_iff]
  notContains node h := by rw [h.decision_eq rfl, Bool.not_eq_false', Text.contains_iff]

/-- What conditions find that look for one text in another. -/
structure FindsShown (a : Ambient) (c : Context) (q p : String) : Prop where
  shown : (∃! u, Shows q u) ∧ ∃! v, Shows p v
  /-- A number is searched, and looked for, in its figures. -/
  finds : ∀ u v, Shows q u → Shows p v → Finds a c q p u v
  verbatim : IsVerbatim q → IsVerbatim p → Finds a c q p q p

theorem searches_findShown (hq : IsBare q) (hp : IsBare p) : FindsShown a c q p := by
  have hfinds : ∀ u v, Shows q u → Shows p v → Finds a c q p u v := by
    intro u v hu hv
    rw [← (shows_iff hq).mp hu, ← (shows_iff hp).mp hv]
    exact finds_operandText
  constructor
  case shown => exact ⟨existsUnique_shows hq, existsUnique_shows hp⟩
  case finds => exact hfinds
  case verbatim => exact fun hqv hpv => hfinds q p (hqv.shows hq) (hpv.shows hp)

/-- A condition that looks for one text in another. -/
def searching (q text p : String) : Node :=
  .mk "search" "condition" [("expression1", .str q), ("comparison", .str text), ("expression2", .str p)] [] none

theorem searches_searching {text : String} (htext : Text.trim text = text ∧ text ≠ "")
    (hcomparison : Comparison.ofText? text = some comparison) (hq : '{' ∉ q.toList) (hp : '{' ∉ p.toList) :
    Searches a c (searching q text p) comparison q p where
  comparison := ⟨text, nonEmpty?_of_text rfl (Text.trim_eq_self_iff.mp htext.1) htext.2, hcomparison⟩
  expression1 := Template.fillWith_of_no_opening hq
  expression2 := Template.fillWith_of_no_opening hp

/-- A version is searched as it is written, and the zero of a price is not looked for. -/
theorem version_findsPrice :
    decision Ambient.still (searching "v1.50" "starts with" "v1.5") Template.echoing = true ∧
      decision Ambient.still (searching "v1.50" "ends with" "1.50") Template.echoing = false := by
  have hversion : IsBare "v1.50" := isBare_of_strip (by decide) (by decide)
  have hminor : IsBare "v1.5" := isBare_of_strip (by decide) (by decide)
  have hprice : IsBare "1.50" := isBare_of_strip (by decide) (by decide)
  have hverbatim : ∀ t, 'v' ∈ String.toList t → IsVerbatim t := fun t ht => .other ht (by decide)
  have hshows : Shows "1.50" "1.5" := (shows_iff hprice).mpr (by decide +kernel)
  constructor
  · have hfinds := (searches_findShown (a := Ambient.still) (c := Template.echoing) hversion hminor).verbatim
      (hverbatim _ (by decide)) (hverbatim _ (by decide))
    exact (hfinds.startsWith _ (searches_searching (by decide) (by decide) (by decide) (by decide))).mpr (by decide)
  · have hfinds := (searches_findShown (a := Ambient.still) (c := Template.echoing) hversion hprice).finds _ _
      ((hverbatim "v1.50" (by decide)).shows hversion) hshows
    have hends := hfinds.endsWith (searching "v1.50" "ends with" "1.50")
      (searches_searching (by decide) (by decide) (by decide) (by decide))
    rw [← Bool.not_eq_true, hends]
    decide

/-- A search for a bare text that occurs in a bare text always decides the same. -/
def FindsAll (comparison : Comparison) (occurs : List Char → List Char → Prop) (decided : Bool) : Prop :=
  ∀ a c node q p, IsBare q → IsBare p → Searches a c node comparison q p → occurs p.toList q.toList →
    decision a node c = decided

theorem not_findsAll {occurs : List Char → List Char → Prop} {decided : Bool} (hq : IsBare q) (hp : IsBare p)
    (h : Searches a c node comparison q p) (hoccurs : occurs p.toList q.toList) (hmissed : decision a node c ≠ decided) :
    ¬FindsAll comparison occurs decided := fun hall =>
  hmissed (hall a c node q p hq hp h hoccurs)

/-- Zeros at the ends of numbers are not found. -/
theorem zeros_notFound :
    ¬FindsAll .startsWith (· <+: ·) true ∧ ¬FindsAll .endsWith (· <:+ ·) true ∧
      ¬FindsAll .contains (· <:+: ·) true ∧ ¬FindsAll .notContains (· <:+: ·) false := by
  have hbare : ∀ t ∈ ["007", "00", "1.50", "50"], IsBare t := by
    have hstrip : ∀ t ∈ ["007", "00", "1.50", "50"], Text.trim t = t ∧ Text.stripQuotes t = none := by decide
    exact fun t ht => isBare_of_strip (hstrip t ht).1 (hstrip t ht).2
  have hagent : IsBare "007" := hbare _ (by decide)
  have hprice : IsBare "1.50" := hbare _ (by decide)
  have hcents : IsBare "50" := hbare _ (by decide)
  have hsearches : ∀ comparison text, Text.trim text = text ∧ text ≠ "" → Comparison.ofText? text = some comparison →
      Searches Ambient.still Template.echoing (searching "1.50" text "50") comparison "1.50" "50" :=
    fun _ _ htext hcomparison => searches_searching htext hcomparison (by decide) (by decide)
  refine ⟨?starts, ?ends, ?contains, ?notContains⟩
  case starts =>
    have hstarts : Searches Ambient.still Template.echoing (searching "007" "starts with" "00") .startsWith
        "007" "00" := searches_searching (by decide) (by decide) (by decide) (by decide)
    exact not_findsAll hagent (hbare "00" (by decide)) hstarts (by decide) (by decide +kernel)
  case ends =>
    exact not_findsAll hprice hcents (hsearches _ "ends with" (by decide) (by decide)) (by decide) (by decide +kernel)
  case contains =>
    exact not_findsAll hprice hcents (hsearches _ "contains" (by decide) (by decide)) (by decide) (by decide +kernel)
  case notContains =>
    exact not_findsAll hprice hcents (hsearches _ "not contains" (by decide) (by decide)) (by decide) (by decide +kernel)

end Condition

end FlowTree
