/-! # Fields

Named values in the order in which the names were first given. Writing a name that is present keeps
its place. -/

namespace FlowTree

/-- Named values in order. -/
abbrev Fields (α : Type) := List (String × α)

namespace Fields

variable {α : Type}

/-- The value of a name. -/
def get? : Fields α → String → Option α
  | [], _ => none
  | (k, v) :: rest, name => if k = name then some v else get? rest name

/-- Writes a value: in the place of the name if it is present, at the end if not. -/
def insert : Fields α → String → α → Fields α
  | [], name, value => [(name, value)]
  | (k, v) :: rest, name, value =>
    if k = name then (k, value) :: rest else (k, v) :: insert rest name value

/-- Writes all the values of `new`, in order. -/
def insertAll (fields new : Fields α) : Fields α :=
  new.foldl (fun fs (k, v) => fs.insert k v) fields

/-- Takes a name out; the last field moves into its place. -/
def swapRemove (fields : Fields α) (name : String) : Fields α :=
  match fields with
  | [] => []
  | (k, v) :: rest =>
    if k = name then
      match rest.getLast? with
      | some last => last :: rest.dropLast
      | none => []
    else (k, v) :: swapRemove rest name

def keys (fields : Fields α) : List String :=
  fields.map Prod.fst

theorem get?_insert_self (fields : Fields α) (name : String) (value : α) :
    (fields.insert name value).get? name = some value := by
  fun_induction insert fields name value <;> simp_all [get?]

theorem get?_insert_of_ne (fields : Fields α) {name other : String} (value : α) (h : other ≠ name) :
    (fields.insert name value).get? other = fields.get? other := by
  fun_induction insert fields name value with
  | case1 => simp [get?, Ne.symm h]
  | case2 => simp_all [get?, Ne.symm h]
  | case3 => simp_all [get?]

theorem get?_insert (fields : Fields α) (name other : String) (value : α) :
    (fields.insert name value).get? other = if other = name then some value else fields.get? other := by
  split
  next h => rw [h, get?_insert_self]
  next h => exact get?_insert_of_ne fields value h

theorem get?_append (fields more : Fields α) (name : String) :
    get? (fields ++ more) name = (fields.get? name).or (more.get? name) := by
  induction fields with
  | nil => rfl
  | cons field rest ih =>
    rw [List.cons_append, get?, get?]
    split <;> simp [ih]

/-- Of the new values of a name the last one counts. -/
theorem get?_insertAll (fields new : Fields α) (name : String) :
    (fields.insertAll new).get? name = (get? new.reverse name).or (fields.get? name) := by
  unfold insertAll
  induction new generalizing fields with
  | nil => rfl
  | cons field rest ih =>
    obtain ⟨k, v⟩ := field
    rw [List.foldl_cons, ih, get?_insert, List.reverse_cons, get?_append, Option.or_assoc]
    by_cases h : name = k <;> simp [get?, h, Ne.symm]

theorem get?_eq_find? (fields : Fields α) (name : String) :
    fields.get? name = (fields.find? fun field => field.1 = name).map Prod.snd := by
  induction fields with
  | nil => rfl
  | cons field rest ih =>
    rw [get?, List.find?_cons]
    by_cases h : field.1 = name <;> simp [h, ih]

theorem get?_map {β : Type} (key : α → String) (value : α → β) (l : List α) (name : String) :
    get? (l.map fun x => (key x, value x)) name = (l.find? fun x => key x = name).map value := by
  rw [get?_eq_find?, List.find?_map, Option.map_map]
  rfl

theorem get?_mapValues {β : Type} (f : α → β) (fields : Fields α) (name : String) :
    get? (fields.map fun (k, v) => (k, f v)) name = (fields.get? name).map f := by
  rw [get?_eq_find? fields, get?_map Prod.fst fun field => f field.2, Option.map_map]
  rfl

theorem mem_keys_iff {fields : Fields α} {name : String} :
    name ∈ fields.keys ↔ ∃ value, fields.get? name = some value := by
  unfold keys
  induction fields with
  | nil => simp [get?]
  | cons field rest ih =>
    obtain ⟨k, v⟩ := field
    rw [List.map_cons, List.mem_cons, ih, get?]
    by_cases h : k = name <;> simp [h, Ne.symm]

theorem mem_of_get? {fields : Fields α} {name : String} {value : α} (h : fields.get? name = some value) :
    (name, value) ∈ fields := by
  induction fields with
  | nil => cases h
  | cons field rest ih =>
    obtain ⟨k, v⟩ := field
    rw [get?] at h
    split at h
    next hk =>
      obtain rfl := Option.some.inj h
      rw [hk]
      exact List.mem_cons_self
    next => exact List.mem_cons_of_mem _ (ih h)

theorem insert_append_of_not_mem {fields : Fields α} {name : String} (h : name ∉ fields.keys) (more : Fields α)
    (value : α) : insert (fields ++ more) name value = fields ++ more.insert name value := by
  induction fields with
  | nil => rfl
  | cons field rest ih =>
    obtain ⟨k, v⟩ := field
    rw [keys, List.map_cons, List.mem_cons, not_or] at h
    rw [List.cons_append, insert, if_neg (Ne.symm h.1), ih h.2, List.cons_append]

theorem insertAll_cons (fields : Fields α) (name : String) (value : α) (rest : Fields α) :
    fields.insertAll ((name, value) :: rest) = (fields.insert name value).insertAll rest := rfl

theorem insertAll_append_of_not_mem {fields new : Fields α} (h : ∀ name ∈ new.keys, name ∉ fields.keys)
    (more : Fields α) : insertAll (fields ++ more) new = fields ++ more.insertAll new := by
  induction new generalizing more with
  | nil => rfl
  | cons field rest ih =>
    obtain ⟨k, v⟩ := field
    have hfirst : k ∉ fields.keys := h k List.mem_cons_self
    rw [insertAll_cons, insert_append_of_not_mem hfirst, ih fun name hname => h name (List.mem_cons_of_mem _ hname),
      insertAll_cons]

theorem keys_insert (fields : Fields α) (name : String) (value : α) :
    (fields.insert name value).keys = if name ∈ fields.keys then fields.keys else fields.keys ++ [name] := by
  induction fields with
  | nil => rfl
  | cons field rest ih =>
    obtain ⟨k, v⟩ := field
    unfold keys at ih ⊢
    rw [insert]
    by_cases hk : k = name
    · simp [hk]
    · rw [if_neg hk, List.map_cons, List.map_cons, ih]
      by_cases hmem : name ∈ rest.map Prod.fst <;> simp [hmem, Ne.symm hk]

/-- Names stand in the order in which they were first written. -/
theorem keys_insertAll {fields : Fields α} (h : fields.keys.eraseDups = fields.keys) (new : Fields α) :
    (fields.insertAll new).keys = (fields.keys ++ new.keys).eraseDups := by
  induction new generalizing fields with
  | nil => rw [insertAll, List.foldl_nil, show keys ([] : Fields α) = [] from rfl, List.append_nil, h]
  | cons field rest ih =>
    obtain ⟨k, v⟩ := field
    have hcons : keys ((k, v) :: rest) = k :: keys rest := rfl
    rw [insertAll_cons, hcons]
    by_cases hk : k ∈ fields.keys
    · have hkeys : (fields.insert k v).keys = fields.keys := by rw [keys_insert, if_pos hk]
      rw [ih (by rw [hkeys, h]), hkeys, List.eraseDups_append, List.eraseDups_append, List.cons_removeAll]
      simp [hk]
    · have hkeys : (fields.insert k v).keys = fields.keys ++ [k] := by rw [keys_insert, if_neg hk]
      have hnew : (fields.keys ++ [k]).eraseDups = fields.keys ++ [k] := by
        rw [List.eraseDups_append, h, List.cons_removeAll]
        simp [hk, List.eraseDups_cons]
      rw [ih (by rw [hkeys, hnew]), hkeys, List.append_assoc, List.singleton_append]

end Fields

end FlowTree
