import FlowTree.Proofs.Expr.Operands
import FlowTree.Proofs.Template.Brackets

/-! # Keys in brackets

A key of a local may stand in brackets and quotes behind the name of the local. It is written behind a dot before
the path is cut into segments, so that its blanks, digits and signs are its own and its dots are those of the path.
Without dots it names what the local has under it. With dots it leads on, from piece to piece. -/

namespace FlowTree.Path

variable {a : Ambient} {c : Context} {defaults : Fields Json} {fields : List (String × Json)} {n k : String}

/-- A text that a pair of quotes in brackets takes as it is. -/
structure IsQuotable (k : String) : Prop where
  ne_empty : k ≠ ""
  unbracketed : '[' ∉ k.toList ∧ ']' ∉ k.toList
  unquoted : '\'' ∉ k.toList ∧ '"' ∉ k.toList
  unescaped : '\\' ∉ k.toList

instance (k : String) : Decidable (IsQuotable k) :=
  decidable_of_iff
    (k ≠ "" ∧ ('[' ∉ k.toList ∧ ']' ∉ k.toList) ∧ ('\'' ∉ k.toList ∧ '"' ∉ k.toList) ∧ '\\' ∉ k.toList)
    ⟨fun ⟨hne, hbracket, hquote, hescape⟩ => ⟨hne, hbracket, hquote, hescape⟩,
      fun h => ⟨h.ne_empty, h.unbracketed, h.unquoted, h.unescaped⟩⟩

/-- The key of a local, in brackets and quotes. -/
def quotedField (n k : String) : String :=
  n ++ "['" ++ k ++ "']"

section
variable (hk : IsQuotable k)
include hk

/-- A quoted text is read as itself, however long it is: a literal counts as one character for the limit. -/
theorem key_quoted : Key ("'" ++ k ++ "'") k := by
  have hquote : Text.IsQuote '\'' := Or.inr rfl
  have hcontents := Grammar.contents_of_plain hk.unescaped hk.unquoted.1
  have hoperand := Grammar.Operand.string hquote hcontents
  have htext : String.ofList ('\'' :: k.toList ++ ['\'']) = "'" ++ k ++ "'" := by
    rw [← String.toList_inj]
    simp
  have hparse := Grammar.parse_of_operand hoperand (by decide)
  have htrim : Text.trim ("'" ++ k ++ "'") = "'" ++ k ++ "'" := by
    rw [← htext, Text.trim_eq_self_iff, String.toList_ofList]
    exact hoperand.isTrimmed
  have heval : (Expr.literal (.string k)).eval = .ok (.str k) := by
    rw [Expr.eval]
    rfl
  rw [htext, ← htrim, String.ofList_toList] at hparse
  exact .value hparse heval

theorem segments_quotedField (hn : IsPlain n) : segments (quotedField n k) = n :: pieces k := by
  have hopen : '[' ∉ ("'" ++ k ++ "'").toList := by simp [hk.unbracketed.1]
  have hclose : ']' ∉ ("'" ++ k ++ "'").toList := by simp [hk.unbracketed.2]
  have htext : (quotedField n k).toList = n.toList ++ '[' :: (("'" ++ k ++ "'").toList ++ ']' :: []) := by
    simp [quotedField]
  have htrim : Text.trimChars (quotedField n k).toList = (quotedField n k).toList := by
    -- Blanks of the key stand between the name and the last bracket, so none of them is taken off.
    have hname : Text.IsTrimmed n.toList := Text.trim_eq_self_iff.mp hn.trimmed
    have hbracket : Text.IsTrimmed [']'] := Text.trimChars_eq_self_iff.mp (by decide)
    have hne : n.toList ≠ [] := by simpa using hn.ne_empty
    have haround := hname.around hbracket hne (List.cons_ne_nil _ _) ('[' :: ("'" ++ k ++ "'").toList)
    rw [List.append_assoc, List.cons_append, ← htext] at haround
    exact haround.trimChars_eq_self
  have hexpand : expandChars (quotedField n k).toList = n.toList ++ '.' :: k.toList := by
    rw [htext, expandChars_bracketed hopen hclose, key_iff.mp (key_quoted hk), expandChars_eq_self hn.unbracketed.1]
    exact List.append_nil _
  rw [segments, htrim, hexpand, splitDots_append hn.dotless, splitDots_eq_splitOn, List.map_cons, String.ofList_toList]
  rfl

/-- What a key in brackets and quotes names behind the name of a local. -/
structure NamesField (a : Ambient) (c : Context) (defaults : Fields Json) (fields : List (String × Json))
    (n k : String) : Prop where
  dotless : '.' ∉ k.toList → ∀ value, Fields.get? fields k = some value →
    resolve a c defaults (quotedField n k) = value
  /-- The dots of the key are dots of the path. -/
  value_iff : ∀ value, resolve a c defaults (quotedField n k) = value ↔ Denotes a c defaults (n :: pieces k) value

theorem field_named (hn : IsPlain n) (hroot : n ∉ reservedRoots) (hlocal : c.locals.get? n = some (.obj fields)) :
    NamesField a c defaults fields n k := by
  have hsegs := segments_quotedField hk hn
  constructor
  case dotless =>
    intro hdot value hvalue
    rw [pieces_of_dotless hdot] at hsegs
    have hne : "" ∉ [n, k] := by simp [hn.ne_empty.symm, hk.ne_empty.symm]
    have hhead : (rootValues c defaults n).head? = some (.obj fields) := by
      rw [rootValues, scope?_eq_none_iff.mpr hroot, hlocal]
      rfl
    exact resolve_of_first_root hsegs hne hhead (.field hvalue (.here value))
  case value_iff =>
    intro value
    rw [← denotes_iff, hsegs]

end

/-- A local with a key that has a dot, one that its pieces lead to, and one with blanks. -/
def keyed : Context :=
  (Context.new default).setLocal "row"
    (.obj [("a.b", .ofNat 1), ("a", .obj [("b", .ofNat 2)]), ("ä + 1", .ofNat 3)])

theorem denotes_dotted : Denotes Ambient.still keyed [] ("row" :: pieces "a.b") (.ofNat 2) :=
  have hroots : rootValues keyed [] "row" = [] ++ .obj _ :: [] := rfl
  .root (by decide) hroots (by simp) (.field rfl (.field rfl (.here _)))

theorem keyed_named :
    resolve Ambient.still keyed [] (quotedField "row" "ä + 1") = .ofNat 3 ∧
      resolve Ambient.still keyed [] (quotedField "row" "a.b") = .ofNat 2 := by
  have hnamed := fun k (hk : IsQuotable k) =>
    @field_named Ambient.still keyed [] _ "row" k hk (by decide) (by decide) rfl
  exact ⟨(hnamed "ä + 1" (by decide)).dotless (by decide) _ rfl,
    ((hnamed "a.b" (by decide)).value_iff _).mpr denotes_dotted⟩

/-- What is stored under a key with a dot is not what the key names. -/
theorem dotted_notNamed :
    ¬∀ a c defaults n k fields value, IsPlain n → n ∉ reservedRoots → c.locals.get? n = some (.obj fields) →
      IsQuotable k → Fields.get? fields k = some value → resolve a c defaults (quotedField n k) = value := by
  intro h
  have hone := h Ambient.still keyed [] "row" "a.b" _ (.ofNat 1) (by decide) (by decide) rfl (by decide) rfl
  have hsegs : segments (quotedField "row" "a.b") = "row" :: pieces "a.b" := segments_quotedField (by decide) (by decide)
  rw [denotes_iff.mp (hsegs ▸ denotes_dotted)] at hone
  cases hone

end FlowTree.Path
