import FlowTree.Json.Reader

/-! # How deep a value is nested

A reader that may open `depth` arrays and objects inside each other gives values that are nested no deeper than
that: an item is read with one of them fewer, and of several fields with one name a last one is kept, which was
read like all others. -/

namespace FlowTree

namespace Fields

variable {α : Type} {P : α → Prop} {fields new : Fields α}

theorem forall_insert (h : ∀ field ∈ fields, P field.2) (name : String) {value : α} (hvalue : P value) :
    ∀ field ∈ fields.insert name value, P field.2 := by
  fun_induction insert fields name value with
  | case1 => exact List.forall_mem_singleton.mpr hvalue
  | case2 => exact List.forall_mem_cons.mpr ⟨hvalue, (List.forall_mem_cons.mp h).2⟩
  | case3 k v rest _ _ _ ih =>
    obtain ⟨hfirst, hrest⟩ := List.forall_mem_cons.mp h
    exact List.forall_mem_cons.mpr ⟨hfirst, ih hrest hvalue⟩

/-- What holds of all values that are written, over values of which it holds, holds of all values. -/
theorem forall_insertAll (h : ∀ field ∈ fields, P field.2) (hnew : ∀ field ∈ new, P field.2) :
    ∀ field ∈ fields.insertAll new, P field.2 := by
  induction new generalizing fields with
  | nil => exact h
  | cons field new ih =>
    obtain ⟨hfield, hnew⟩ := List.forall_mem_cons.mp hnew
    exact ih (forall_insert h field.1 hfield) hnew

end Fields

namespace Json

mutual

/-- The number of arrays and objects on the longest way down. -/
def nesting : Json → Nat
  | .arr items => nestingAll items + 1
  | .obj fields => nestingIn fields + 1
  | _ => 0
termination_by structural j => j

def nestingAll : List Json → Nat
  | [] => 0
  | item :: items => max (nesting item) (nestingAll items)
termination_by structural items => items

def nestingIn : List (String × Json) → Nat
  | [] => 0
  | (_, value) :: fields => max (nesting value) (nestingIn fields)
termination_by structural fields => fields

end

variable {n depth fuel : Nat} {items : List Json} {fields : Fields Json} {j item : Json} {name : String}
  {cs rest : List Char}

theorem nestingAll_le_iff : nestingAll items ≤ n ↔ ∀ item ∈ items, item.nesting ≤ n := by
  induction items with
  | nil => simp [nestingAll]
  | cons item items ih => rw [nestingAll, Nat.max_le, ih, List.forall_mem_cons]

theorem nestingIn_le_iff : nestingIn fields ≤ n ↔ ∀ field ∈ fields, field.2.nesting ≤ n := by
  induction fields with
  | nil => simp [nestingIn]
  | cons field fields ih => rw [nestingIn, Nat.max_le, ih, List.forall_mem_cons]

/-! ### Reading -/

theorem bind_eq_ok {ε α β : Type} {x : Except ε α} {f : α → Except ε β} {b : β} (h : (x >>= f) = .ok b) :
    ∃ a, x = .ok a ∧ f a = .ok b := by
  cases x with
  | error e => cases h
  | ok a => exact ⟨a, rfl, h⟩

theorem not_stopAt_ok {α : Type} {x : α × List Char} : stopAt cs ≠ .ok x := by
  cases cs <;> nofun

section
variable {read : List Char → Except ReadError (Json × List Char)} {P : Json → Prop}
  (hread : ∀ cs item rest, read cs = .ok (item, rest) → P item)

include hread

/-- What holds of every value that is read holds of the items of an array. -/
theorem forall_itemsFrom (h : itemsFrom read fuel cs = .ok (items, rest)) : ∀ item ∈ items, P item := by
  induction fuel generalizing cs items rest with
  | zero => cases h
  | succ fuel ih =>
    obtain ⟨⟨item, after⟩, hitem, h⟩ := bind_eq_ok h
    have hfirst : P item := hread cs item after hitem
    dsimp only at h
    split at h
    · obtain ⟨⟨more, mid⟩, hmore, h⟩ := bind_eq_ok h
      cases h
      exact List.forall_mem_cons.mpr ⟨hfirst, ih hmore⟩
    · cases h
      exact List.forall_mem_singleton.mpr hfirst
    · exact absurd h not_stopAt_ok

/-- What holds of every value that is read holds of the fields of an object. -/
theorem forall_fieldsFrom (h : fieldsFrom read fuel cs = .ok (fields, rest)) : ∀ field ∈ fields, P field.2 := by
  induction fuel generalizing cs fields rest with
  | zero => cases h
  | succ fuel ih =>
    rw [fieldsFrom] at h
    split at h
    · obtain ⟨⟨name, afterName⟩, -, h⟩ := bind_eq_ok h
      dsimp only at h
      split at h
      · obtain ⟨⟨item, after⟩, hitem, h⟩ := bind_eq_ok h
        have hfirst : P item := hread _ item after hitem
        dsimp only at h
        split at h
        · obtain ⟨⟨more, mid⟩, hmore, h⟩ := bind_eq_ok h
          cases h
          exact List.forall_mem_cons.mpr ⟨hfirst, ih hmore⟩
        · cases h
          exact List.forall_mem_singleton.mpr hfirst
        · exact absurd h not_stopAt_ok
      · exact absurd h not_stopAt_ok
    · exact absurd h not_stopAt_ok

end

theorem eq_of_word {w : String} {value : Json} (h : word w value cs = .ok (j, rest)) : j = value := by
  rw [word] at h
  split at h
  · cases h
    rfl
  · exact absurd h not_stopAt_ok

/-- What is read is nested no deeper than it may be. -/
theorem nesting_of_value (h : value depth cs = .ok (j, rest)) : j.nesting ≤ depth := by
  -- What is inside an array or an object is read by the same function, with a depth of one less.
  induction depth using Nat.strongRecOn generalizing cs j rest with
  | ind depth ih =>
    revert h
    fun_cases value depth cs with
    | case1 | case3 | case6 => nofun
    | case2 =>
      intro h
      obtain ⟨⟨s, after⟩, -, h⟩ := bind_eq_ok h
      cases h
      exact Nat.zero_le _
    | case4 =>
      rintro ⟨⟩
      exact Nat.le_add_left ..
    | case5 =>
      intro h
      obtain ⟨⟨items, after⟩, hitems, h⟩ := bind_eq_ok h
      cases h
      have hread := forall_itemsFrom (fun _ _ _ hitem => ih _ (Nat.lt_succ_self _) hitem) hitems
      exact Nat.succ_le_succ (nestingAll_le_iff.mpr hread)
    | case7 =>
      rintro ⟨⟩
      exact Nat.le_add_left ..
    | case8 =>
      intro h
      obtain ⟨⟨fields, after⟩, hfields, h⟩ := bind_eq_ok h
      cases h
      have hread := forall_fieldsFrom (fun _ _ _ hitem => ih _ (Nat.lt_succ_self _) hitem) hfields
      have hkept := Fields.forall_insertAll (P := fun item : Json => item.nesting ≤ _) (List.forall_mem_nil _) hread
      exact Nat.succ_le_succ (nestingIn_le_iff.mpr hkept)
    | case9 | case10 | case11 =>
      intro h
      rw [eq_of_word h]
      exact Nat.zero_le _
    | case12 =>
      intro h
      obtain ⟨⟨n, after⟩, -, h⟩ := bind_eq_ok h
      cases h
      exact Nat.zero_le _

theorem nesting_of_read {text : String} (h : read text = .ok j) : j.nesting ≤ maxDepth := by
  obtain ⟨⟨value, rest⟩, hvalue, h⟩ := bind_eq_ok h
  dsimp only at h
  split at h
  · cases h
    exact nesting_of_value hvalue
  · cases h

end Json

end FlowTree
