/-
Lists of entries and what is found in them. Where no key stands twice, looking a key up and membership say the same; of
entries that are put into a table one after the other the last one of a key counts.

- `find?_eq_some_iff`, `find?_of_unique`, `find?_eq_none_iff`: looking up and membership.
- `get?_foldl_put`: what a list of entries does to a table; `get?_union`: of two tables the other one counts first.
-/
import Mathlib.Data.List.Nodup
import ScriptBridge.Table

namespace ScriptBridge.Table

variable {α β : Type} [DecidableEq α]

theorem mem_of_find? {key : α} {l : List (α × β)} {v : β} (h : find? key l = some v) : (key, v) ∈ l := by
  induction l with
  | nil => cases h
  | cons e l ih =>
    obtain ⟨k, w⟩ := e
    rw [find?] at h
    split at h
    · next hk =>
      cases h
      rw [hk]
      exact List.mem_cons_self
    · exact List.mem_cons_of_mem _ (ih h)

theorem find?_eq_none_iff {key : α} {l : List (α × β)} : find? key l = none ↔ ∀ v, (key, v) ∉ l := by
  induction l with
  | nil => simp [find?]
  | cons e l ih =>
    obtain ⟨k, w⟩ := e
    by_cases hk : k = key
    · subst hk
      exact iff_of_false (by simp [find?]) fun h => h w List.mem_cons_self
    · simp [find?, hk, Ne.symm hk, ih]

/-- a key that has one value only has it when it is looked up -/
theorem find?_of_unique {key : α} {l : List (α × β)} {v : β} (h : (key, v) ∈ l)
    (hunique : ∀ w, (key, w) ∈ l → w = v) : find? key l = some v := by
  cases hf : find? key l with
  | none => exact absurd h (find?_eq_none_iff.1 hf v)
  | some w => rw [hunique w (mem_of_find? hf)]

omit [DecidableEq α] in
theorem value_unique {key : α} {l : List (α × β)} {v w : β} (hl : (l.map Prod.fst).Nodup) (hv : (key, v) ∈ l)
    (hw : (key, w) ∈ l) : w = v :=
  congrArg Prod.snd (List.inj_on_of_nodup_map hl hw hv rfl)

theorem find?_eq_some_iff {key : α} {l : List (α × β)} {v : β} (hl : (l.map Prod.fst).Nodup) :
    find? key l = some v ↔ (key, v) ∈ l :=
  ⟨mem_of_find?, fun h => find?_of_unique h fun _ hw => value_unique hl h hw⟩

theorem find?_append (key : α) (a b : List (α × β)) : find? key (a ++ b) = (find? key a).or (find? key b) := by
  induction a with
  | nil => rfl
  | cons e a ih =>
    rw [List.cons_append, find?, find?]
    split
    · rfl
    · exact ih

/-- of entries that are put into a table the last one of a key counts -/
theorem get?_foldl_put (l : List (α × β)) (t : Table α β) (key : α) :
    (l.foldl (fun t e => t.put e.1 e.2) t).get? key = (find? key l.reverse).or (t.get? key) := by
  induction l generalizing t with
  | nil => rfl
  | cons e l ih =>
    rw [List.foldl_cons, ih, get?_put, List.reverse_cons, find?_append]
    by_cases hk : e.1 = key
    · cases find? key l.reverse <;> simp [find?, hk]
    · simp [find?, hk]

/-- where two tables have a key, the other one counts -/
theorem get?_union (t : Table α β) {other : Table α β} (hother : other.Distinct) (key : α) :
    (t.union other).get? key = (other.get? key).or (t.get? key) := by
  have hreverse : find? key other.entries.reverse = other.get? key := by
    cases hf : other.get? key with
    | none => exact find?_eq_none_iff.2 fun v hv => find?_eq_none_iff.1 hf v (List.mem_reverse.1 hv)
    | some v =>
      refine find?_of_unique (List.mem_reverse.2 (mem_of_find? hf)) fun w hw => ?_
      exact value_unique hother (mem_of_find? hf) (List.mem_reverse.1 hw)
  rw [union, get?_foldl_put, hreverse]

theorem Distinct.foldl_put {t : Table α β} (ht : t.Distinct) (l : List (α × β)) :
    (l.foldl (fun t e => t.put e.1 e.2) t).Distinct := by
  induction l generalizing t with
  | nil => exact ht
  | cons e l ih => exact ih (ht.put e.1 e.2)

theorem mem_putEntry {key : α} {value : β} {l : List (α × β)} {e : α × β} (h : e ∈ putEntry key value l) :
    e = (key, value) ∨ e ∈ l := by
  induction l with
  | nil => exact Or.inl (List.mem_singleton.1 h)
  | cons first l ih =>
    obtain ⟨k, w⟩ := first
    rw [putEntry] at h
    split at h
    · rcases List.mem_cons.1 h with h | h
      · exact Or.inl h
      · exact Or.inr (List.mem_cons_of_mem _ h)
    · rcases List.mem_cons.1 h with h | h
      · exact Or.inr (List.mem_cons.2 (Or.inl h))
      · exact (ih h).imp_right (List.mem_cons_of_mem _)

end ScriptBridge.Table
