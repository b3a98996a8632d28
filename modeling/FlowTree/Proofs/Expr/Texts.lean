import FlowTree.Proofs.Expr.Reading
import FlowTree.Proofs.Expr.Values
import FlowTree.Proofs.Number.Render

/-! # What values look like

The text of a value is made of characters of the expression that it comes from, and of a few of its own: the
figures of numbers, the letters of null and the booleans, and the characters that escapes stand for. An array
or an object, which would bring brackets and commas, is not among the values. -/

namespace FlowTree

/-- The characters that the text of a value may have on its own. -/
def IsOwn (c : Char) : Prop :=
  IsFigure c ∨ c ∈ ['n', 'u', 'l', 't', 'r', 'e', 'f', 'a', 's', '\n', '\t', '\r']

namespace Grammar

variable {part : Part} {cs rest : List Char} {e : Expr} {x : Extent} {s : String} {n : Nat}

/-! ### The texts in a tree -/

theorem Contents.mem_or_isOwn {q : Char} {body s : List Char} (h : Contents q body s) :
    ∀ c ∈ s, c ∈ body ∨ IsOwn c := by
  induction h with
  | nil => simp
  | plain _ _ _ ih =>
    intro d hd
    rcases List.mem_cons.mp hd with rfl | hd
    · exact Or.inl List.mem_cons_self
    · exact (ih d hd).imp_left (List.mem_cons_of_mem _)
  | @escaped c d cs s hd _ ih =>
    intro d' hd'
    rcases List.mem_cons.mp hd' with rfl | hd'
    · cases hd with
      | newline | tab | «return» => exact Or.inr (Or.inr (by simp))
      | other => exact Or.inl (by simp)
    · exact (ih d' hd').imp_left fun h => List.mem_cons_of_mem _ (List.mem_cons_of_mem _ h)

theorem LiteralAt.mem_or_isOwn (h : LiteralAt cs (.string s) n rest) : ∀ c ∈ s.toList, c ∈ cs ∨ IsOwn c := by
  generalize hl : Literal.string s = l at h
  cases h with
  | number => cases hl
  | string _ hcontents =>
    obtain rfl := Literal.string.inj hl
    intro c hc
    rw [String.toList_ofList] at hc
    exact (hcontents.mem_or_isOwn c hc).imp_left fun h => List.mem_cons_of_mem _ (List.mem_append_left _ h)
  | word hword => subst hl; simp [words] at hword

theorem literals_foldr_unary (ops : List PrefixOp) (e : Expr) : (ops.foldr .unary e).literals = e.literals := by
  induction ops with
  | nil => rfl
  | cons op ops ih => exact ih

/-- The texts of a tree are written in its source, but for what escapes stand for. -/
theorem Derives.mem_or_isOwn (h : Derives part cs e x rest) :
    ∀ s, Literal.string s ∈ e.literals → ∀ c ∈ s.toList, c ∈ cs ∨ IsOwn c := by
  induction h with
  | literal hb hl =>
    intro s hs c hc
    obtain rfl := List.mem_singleton.mp hs
    exact (hl.mem_or_isOwn c hc).imp_left (hb.suffix.mem ·)
  | parens hopen _ _ ih =>
    intro s hs c hc
    exact (ih s hs c hc).imp_left fun h => hopen.suffix.mem (List.mem_cons_of_mem _ h)
  | chain hp _ ih =>
    intro s hs c hc
    rw [literals_foldr_unary] at hs
    exact (ih s hs c hc).imp_left (hp.suffix.mem ·)
  | operand _ ih => exact ih
  | binary hleft _ hb _ ih ihr =>
    intro s hs c hc
    rcases List.mem_append.mp hs with hs | hs
    · exact ih s hs c hc
    · exact (ihr s hs c hc).imp_left fun h => hleft.suffix.mem (hb.suffix.mem (List.mem_append_right _ h))

theorem mem_or_isOwn_of_parse {source : String} (h : Expr.parse source = .ok e) :
    ∀ s, Literal.string s ∈ e.literals → ∀ c ∈ s.toList, c ∈ source.toList ∨ IsOwn c := by
  obtain ⟨x, ⟨n, y, rest, hderives, -, -⟩, -⟩ := sentence_of_expression (parseChars_eq_ok_iff.mp h).2
  exact hderives.mem_or_isOwn

end Grammar

/-! ### Values -/

namespace Json

theorem isOwn_of_mem_render {j : Json} (h : j.IsTextless) : ∀ c ∈ j.render.toList, IsOwn c := by
  cases j with
  | null => simp [render, renderItem]
  | bool b => cases b <;> simp [render, renderItem, IsOwn]
  | num n =>
    have hnum : (num n).render = n.render := rfl
    rw [hnum]
    rcases n.render_cases with hnull | hfigures
    · rw [hnull]
      simp [IsOwn]
    · exact fun c hc => Or.inl (hfigures c hc)
  | str | arr | obj => exact h.elim

end Json

/-- Only `+` gives a text, that of both operands. -/
theorem BinaryOp.text_of_apply {op : BinaryOp} {left right : Json} {s : String} (hand : op ≠ and) (hor : op ≠ or)
    (h : op.apply left right = .ok (.str s)) : s = left.render ++ right.render := by
  have hends := ends_apply hand hor left right
  rw [h] at hends
  cases hends with
  | text s hop htext =>
    subst hop
    have hadd : Json.add left right = .ok (.str s) := h
    rw [Json.add, if_pos (by simpa using htext)] at hadd
    cases hadd
    rfl
  | textless hv => exact hv.elim

namespace Expr

/-- What holds of the texts in a tree, and of the characters that values have on their own, holds of the
    characters of its value. -/
theorem eval_characters {Q : Char → Prop} {e : Expr} (hown : ∀ c, IsOwn c → Q c)
    (htexts : ∀ s, Literal.string s ∈ e.literals → ∀ c ∈ s.toList, Q c) :
    Lands (fun value => ∀ c ∈ value.render.toList, Q c) (fun _ => True) e.eval := by
  have htextless : ∀ {v : Json}, v.IsTextless → ∀ c ∈ v.render.toList, Q c := fun hv c hc =>
    hown c (Json.isOwn_of_mem_render hv c hc)
  refine eval_lands (fun l hl => ?_) (fun op value _ => ?_) fun op _ hand hor left right hleft hright => ?_
  · by_cases htext : ∃ s, l = .string s
    · obtain ⟨s, rfl⟩ := htext
      exact htexts s hl
    · exact htextless (Literal.isTextless_value fun s hs => htext ⟨s, hs⟩)
  · rcases op.apply_cases value with ⟨v, hv, h⟩ | ⟨_, _, -, h⟩
    · rw [h]
      exact htextless hv
    · rw [h]
      trivial
  · cases h : op.apply left right with
    | error => trivial
    | ok v =>
      have hends := BinaryOp.ends_apply hand hor left right
      rw [h] at hends
      cases hends with
      | text s =>
        intro c hc
        have hc : c ∈ s.toList := hc
        rw [BinaryOp.text_of_apply hand hor h, String.toList_append, List.mem_append] at hc
        exact hc.elim (hleft c) (hright c)
      | textless hv => exact htextless hv

/-- The text of a value has its characters from the source, or on its own. -/
theorem mem_or_isOwn_of_value? {source : String} {value : Json} (h : value? source = some value) :
    ∀ c ∈ value.render.toList, c ∈ source.toList ∨ IsOwn c := by
  obtain ⟨e, hparse, heval⟩ := value?_eq_some_iff.mp h
  have hlands : Lands _ _ e.eval :=
    eval_characters (Q := fun c => c ∈ source.toList ∨ IsOwn c) (fun _ => Or.inr) (Grammar.mem_or_isOwn_of_parse hparse)
  rw [heval] at hlands
  exact hlands

end Expr

end FlowTree
