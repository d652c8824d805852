/-
Tables: finite maps kept as a list of entries, one for each key. What a table holds is read through `get?`; `get?_put`
and `get?_erase` say what each change does to it, and `Distinct` that no key is held twice, which every operation
keeps.
-/

namespace ScriptBridge

/-- a finite map from keys to values -/
structure Table (α β : Type) where
  entries : List (α × β)
deriving Repr, Inhabited

namespace Table

variable {α β : Type} [DecidableEq α]

/-- the table without entries -/
def empty : Table α β := ⟨[]⟩

/-- looks a key up in a list of entries -/
def find? (key : α) : List (α × β) → Option β
  | [] => none
  | (k, v) :: rest => if k = key then some v else find? key rest

/-- the value of a key -/
def get? (t : Table α β) (key : α) : Option β := find? key t.entries

/-- replaces the first entry of a key, or adds one at the end -/
def putEntry (key : α) (value : β) : List (α × β) → List (α × β)
  | [] => [(key, value)]
  | (k, v) :: rest => if k = key then (key, value) :: rest else (k, v) :: putEntry key value rest

/-- gives a key a value, in place of an earlier one -/
def put (t : Table α β) (key : α) (value : β) : Table α β := ⟨putEntry key value t.entries⟩

/-- removes a key -/
def erase (t : Table α β) (key : α) : Table α β := ⟨t.entries.filter fun e => !decide (e.1 = key)⟩

/-- adds all entries of another table; where both have a key, the other table counts -/
def union (t other : Table α β) : Table α β := other.entries.foldl (fun t e => t.put e.1 e.2) t

/-- no key is held twice -/
def Distinct (t : Table α β) : Prop := (t.entries.map Prod.fst).Nodup

@[simp] theorem get?_empty (key : α) : (empty : Table α β).get? key = none := rfl

theorem find?_putEntry (key k : α) (value : β) (l : List (α × β)) :
    find? k (putEntry key value l) = if key = k then some value else find? k l := by
  induction l with
  | nil => simp [putEntry, find?]
  | cons e l ih =>
    obtain ⟨a, b⟩ := e
    by_cases h : a = key
    · subst h; by_cases hk : a = k <;> simp [putEntry, find?, hk]
    · by_cases hk : a = k
      · subst hk; simp [putEntry, find?, h, Ne.symm h]
      · simp [putEntry, find?, h, hk, ih]

@[simp] theorem get?_put (t : Table α β) (key k : α) (value : β) :
    (t.put key value).get? k = if key = k then some value else t.get? k :=
  find?_putEntry key k value t.entries

theorem find?_filter_ne (key k : α) (l : List (α × β)) :
    find? k (l.filter fun e => !decide (e.1 = key)) = if key = k then none else find? k l := by
  induction l with
  | nil => simp [find?]
  | cons e l ih =>
    obtain ⟨a, b⟩ := e
    by_cases h : a = key
    · subst h; by_cases hk : a = k <;> simp_all [find?]
    · by_cases hk : a = k
      · subst hk; simp [find?, h, Ne.symm h]
      · simp [find?, h, hk, ih]

@[simp] theorem get?_erase (t : Table α β) (key k : α) :
    (t.erase key).get? k = if key = k then none else t.get? k :=
  find?_filter_ne key k t.entries

omit [DecidableEq α] in
theorem distinct_empty : (empty : Table α β).Distinct := List.nodup_nil

theorem mem_keys_putEntry (key k : α) (value : β) (l : List (α × β)) :
    k ∈ (putEntry key value l).map Prod.fst ↔ k = key ∨ k ∈ l.map Prod.fst := by
  induction l with
  | nil => simp [putEntry]
  | cons e l ih =>
    obtain ⟨a, b⟩ := e
    by_cases h : a = key
    · subst h; simp [putEntry]
    · simp only [putEntry, h, if_false, List.map_cons, List.mem_cons, ih]
      constructor
      · rintro (h | h | h) <;> simp_all
      · rintro (h | h | h) <;> simp_all

theorem Distinct.put {t : Table α β} (h : t.Distinct) (key : α) (value : β) : (t.put key value).Distinct := by
  unfold Distinct Table.put at *
  generalize t.entries = l at h
  induction l with
  | nil => simp [putEntry]
  | cons e l ih =>
    obtain ⟨a, b⟩ := e
    rw [List.map_cons, List.nodup_cons] at h
    by_cases hk : a = key
    · subst hk; simpa [putEntry] using h
    · rw [putEntry, if_neg hk, List.map_cons, List.nodup_cons, mem_keys_putEntry]
      exact ⟨fun h' => h'.elim hk h.1, ih h.2⟩

theorem Distinct.erase {t : Table α β} (h : t.Distinct) (key : α) : (t.erase key).Distinct := by
  unfold Distinct Table.erase at *
  exact h.sublist (List.filter_sublist.map Prod.fst)

end Table

end ScriptBridge
