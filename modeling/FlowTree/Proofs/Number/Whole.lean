import FlowTree.Proofs.Number.Doubles
import FlowTree.Proofs.Number.Render
import FlowTree.Proofs.Template.Resolution
import FlowTree.Proofs.Template.Spans

/-! # Whole numbers in texts

A whole number below 10²¹ shows as its decimal figures, without fraction and exponent. A double is cut to 64 bits
with a sign before it is written, so that beyond them it shows as the bound that it exceeds. Within them no two
numbers show alike, however they are stored. -/

namespace FlowTree

namespace Number

variable {x y : Number} {n m : ℤ} {f : Float}

def value? : Number → Option ℚ
  | int n => some n
  | float f => floatValue? f

/-- A number with the value `n` is written as it is: it is no double beyond 64 bits with a sign. -/
def Fits : Number → ℤ → Prop
  | int _, _ => True
  | float _, n => least64 ≤ n ∧ n ≤ greatest64

theorem eq_of_value?_int {k : ℤ} (h : (int k).value? = some (n : ℚ)) : k = n :=
  Int.cast_injective (Option.some.inj h)

theorem render_float (h : floatValue? f = some (n : ℚ)) (hn : n.natAbs < 10 ^ 21) :
    (float f).render = toString (clamp64 n) := by
  obtain ⟨d, hd, hwhole, rfl⟩ := exists_whole h
  have hsmall : d.truncated < Nat.pow 10 21 := by rwa [d.truncated_eq_natAbs]
  simp [render, hd, hwhole, hsmall]

theorem render_of_fits (h : x.value? = some (n : ℚ)) (hn : n.natAbs < 10 ^ 21) (hx : x.Fits n) :
    x.render = toString n := by
  cases x with
  | int k => rw [eq_of_value?_int h, render]
  | float f =>
    have hclamp : clamp64 n = n := by rw [clamp64, if_neg (not_lt.mpr hx.1), if_neg (not_lt.mpr hx.2)]
    rw [render_float h hn, hclamp]

/-- The bound that a number beyond 64 bits with a sign exceeds. -/
def bound (n : ℤ) : ℤ :=
  if n < 0 then least64 else greatest64

theorem render_of_not_fits (h : x.value? = some (n : ℚ)) (hn : n.natAbs < 10 ^ 21) (hx : ¬x.Fits n) :
    x.render = toString (bound n) := by
  cases x with
  | int k => exact absurd trivial hx
  | float f =>
    rw [render_float h hn, clamp64, bound]
    by_cases hlow : n < least64
    · rw [if_pos hlow, if_pos (hlow.trans (by decide))]
    · have hhigh : greatest64 < n := not_le.mp fun hle => hx ⟨not_lt.mp hlow, hle⟩
      have hpos : (0 : ℤ) < greatest64 := by decide
      rw [if_neg hlow, if_pos hhigh, if_neg (hpos.trans hhigh).le.not_gt]

/-- The template that compares two paths. -/
def equation (p q : String) : String :=
  Template.braced p ++ " == " ++ Template.braced q

theorem fill_equation {a : Ambient} {c : Context} {defaults : Fields Json} {p q : String} (hp : p ≠ "" ∧ '}' ∉ p.toList)
    (hq : q ≠ "" ∧ '}' ∉ q.toList) : Template.fillWith a c defaults (equation p q) =
      (Path.resolve a c defaults p).render ++ " == " ++ (Path.resolve a c defaults q).render := by
  have hclosed : Template.IsClosed (Template.braced p).toList :=
    Template.toList_braced p ▸ Template.isClosed_append_singleton ('{' :: p.toList)
  have hmiddle : Template.IsClosed " == ".toList := Template.isClosed_of_not_mem (by decide)
  rw [equation, String.append_assoc, Template.fillWith_append hclosed, Template.fillWith_append hmiddle,
    Template.fillWith_braced hp.1 hp.2, Template.fillWith_of_no_opening (by decide), Template.fillWith_braced hq.1 hq.2,
    String.append_assoc]

/-- How two whole numbers show, `n` stored as `x` and `m` as `y`. -/
structure ShowsFigures (x y : Number) (n m : ℤ) : Prop where
  figures : x.Fits n → (Json.num x).render = toString n
  cut : ¬x.Fits n → (Json.num x).render = toString (bound n)
  render_eq_iff : x.Fits n → y.Fits m → ((Json.num x).render = (Json.num y).render ↔ n = m)
  /-- What a template compares are the figures of both. -/
  filled : x.Fits n → y.Fits m → ∀ a c defaults p q, p ≠ "" ∧ '}' ∉ p.toList → q ≠ "" ∧ '}' ∉ q.toList →
    Path.resolve a c defaults p = .num x → Path.resolve a c defaults q = .num y →
      Template.fillWith a c defaults (equation p q) = toString n ++ " == " ++ toString m

theorem whole_showsFigures (hx : x.value? = some (n : ℚ)) (hy : y.value? = some (m : ℚ)) (hn : n.natAbs < 10 ^ 21)
    (hm : m.natAbs < 10 ^ 21) : ShowsFigures x y n m := by
  have hx' : x.Fits n → (Json.num x).render = toString n := render_of_fits hx hn
  have hy' : y.Fits m → (Json.num y).render = toString m := render_of_fits hy hm
  constructor
  case figures => exact hx'
  case cut => exact render_of_not_fits hx hn
  case render_eq_iff =>
    intro hxn hym
    rw [hx' hxn, hy' hym]
    exact toString_inj
  case filled =>
    intro hxn hym a c defaults p q hp hq hpx hqy
    rw [fill_equation hp hq, hpx, hqy, hx' hxn, hy' hym]

/-- A double within 64 bits, and a whole number that needs all of them. -/
def measured : Context :=
  ((Context.new default).setLocal "size" (.num (.float 4611686018427387904.0))).setLocal "limit"
    (.num (.int 18446744073709551615))

theorem measured_showFigures :
    Template.fillWith Ambient.still measured [] (equation "size" "limit") =
      "4611686018427387904 == 18446744073709551615" ∧
    (Json.num (.float 4611686018427387904.0)).render ≠ (Json.num (.int 18446744073709551615)).render ∧
    (Json.num (.float 1e20)).render = "9223372036854775807" := by
  have hsize : (float 4611686018427387904.0).value? = some ((4611686018427387904 : ℤ) : ℚ) := by decide +kernel
  have hlimit : (int 18446744073709551615).value? = some ((18446744073709551615 : ℤ) : ℚ) := rfl
  have hhuge : (float 1e20).value? = some ((100000000000000000000 : ℤ) : ℚ) := by decide +kernel
  have hshows := whole_showsFigures hsize hlimit (by decide) (by decide)
  have hfits : (float 4611686018427387904.0).Fits 4611686018427387904 := ⟨by decide, by decide⟩
  refine ⟨?filled, fun heq => ?apart, ?cut⟩
  case filled =>
    exact hshows.filled hfits trivial _ _ _ "size" "limit" (by decide) (by decide)
      (Path.resolve_local (by decide) (by decide) rfl) (Path.resolve_local (by decide) (by decide) rfl)
  case apart => exact absurd ((hshows.render_eq_iff hfits trivial).mp heq) (by decide)
  case cut =>
    have hbeyond : ¬(float 1e20).Fits 100000000000000000000 := fun h => absurd h.2 (by decide)
    exact (whole_showsFigures hhuge hlimit (by decide) (by decide)).cut hbeyond

end Number

end FlowTree
