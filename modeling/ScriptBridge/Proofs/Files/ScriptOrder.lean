/-
The order of paths, and the scripts of a lint in this order. Paths are compared by their components, from the left, so
that two spellings of one path are neither before nor behind each other; of such spellings a lint keeps the one met
first. Each script goes into the sorted list by itself.

- `less_irrefl`, `less_trans`, `components_eq_of_not_less`: paths are in a strict order, up to their spelling.
- `sorted_insert`, `mem_insert`, `covers_insert`: one script goes in.
- `files_collect`, `missing_collect`: the scripts go in one after the other, and the missing inputs are kept.
- `sorted_collect`, `mem_scripts_of_collect`, `covers_collect`: they are in increasing order, each once, none left out.
-/
import ScriptBridge.Files.Scripts

namespace ScriptBridge

/-! ## The order of paths -/

namespace Path

theorem Component.less_iff (a b : Component) :
    a.less b = true ↔ a.rank < b.rank ∨ a.rank = b.rank ∧ a.chars < b.chars := by
  simp [less]

theorem Component.less_irrefl (a : Component) : ¬ a.less a = true := by
  rw [less_iff, not_or]
  exact ⟨Nat.lt_irrefl _, fun h => List.lt_irrefl _ h.2⟩

theorem Component.less_trans {a b c : Component} (hab : a.less b = true) (hbc : b.less c = true) :
    a.less c = true := by
  rw [less_iff] at *
  rcases hab with hab | ⟨hab, habs⟩
  · rcases hbc with hbc | ⟨hbc, -⟩
    · exact .inl (Nat.lt_trans hab hbc)
    · exact .inl (hbc ▸ hab)
  · rcases hbc with hbc | ⟨hbc, hbcs⟩
    · exact .inl (hab ▸ hbc)
    · exact .inr ⟨hab.trans hbc, List.lt_trans habs hbcs⟩

/-- a component is known by its kind and its name -/
theorem Component.eq_of_rank_chars {a b : Component} (hrank : a.rank = b.rank) (hchars : a.chars = b.chars) :
    a = b := by
  cases a with
  | name s =>
    cases b with
    | name t => exact congrArg Component.name hchars
    | _ => cases hrank
  | _ => cases b <;> first | rfl | cases hrank

theorem Component.eq_of_not_less (a b : Component) (hab : ¬ a.less b = true) (hba : ¬ b.less a = true) : a = b := by
  rw [less_iff, not_or] at hab hba
  have hrank : a.rank = b.rank := Nat.le_antisymm (Nat.le_of_not_lt hba.1) (Nat.le_of_not_lt hab.1)
  exact eq_of_rank_chars hrank
    (List.le_antisymm (fun h => hba.2 ⟨hrank.symm, h⟩) fun h => hab.2 ⟨hrank, h⟩)

/-- lists of components are in the order of words -/
theorem lessComponents_iff (as bs : List Component) :
    lessComponents as bs = true ↔ List.Lex (fun a b => a.less b = true) as bs := by
  induction as generalizing bs with
  | nil => cases bs <;> simp [lessComponents]
  | cons a as ih =>
    cases bs with
    | nil => simp [lessComponents]
    | cons b bs => simp [lessComponents, List.cons_lex_cons_iff, ih]

theorem less_irrefl (p : Path) : ¬ p.less p = true := by
  rw [less, lessComponents_iff]
  exact List.lex_irrefl Component.less_irrefl _

theorem less_trans {p q r : Path} (hpq : p.less q = true) (hqr : q.less r = true) : p.less r = true := by
  rw [less, lessComponents_iff] at *
  exact List.lex_trans Component.less_trans hpq hqr

/-- of two different paths one comes first -/
theorem components_eq_of_not_less {p q : Path} (hpq : ¬ p.less q = true) (hqp : ¬ q.less p = true) :
    p.components = q.components := by
  rw [less, lessComponents_iff] at hpq hqp
  exact List.lex_trichotomous Component.eq_of_not_less hqp hpq

end Path

/-! ## One script -/

namespace ScriptSet

/-- in increasing order -/
def Sorted (l : List Path) : Prop := l.Pairwise fun p q => p.less q = true

/-- a path is among others, in some spelling -/
def Covers (l : List Path) (p : Path) : Prop := ∃ q ∈ l, q.components = p.components

theorem mem_insert {p q : Path} {l : List Path} (h : q ∈ insert p l) : q = p ∨ q ∈ l := by
  induction l with
  | nil => exact .inl (List.mem_singleton.1 h)
  | cons first rest ih =>
    rw [insert] at h
    split at h
    · exact List.mem_cons.1 h
    · split at h
      · rcases List.mem_cons.1 h with rfl | h
        · exact .inr List.mem_cons_self
        · exact (ih h).imp_right (List.mem_cons_of_mem _)
      · exact .inr h

theorem mem_insert_of_mem (p : Path) {q : Path} {l : List Path} (h : q ∈ l) : q ∈ insert p l := by
  induction l with
  | nil => cases h
  | cons first rest ih =>
    rw [insert]
    split
    · exact List.mem_cons_of_mem _ h
    · split
      · rcases List.mem_cons.1 h with rfl | h
        · exact List.mem_cons_self
        · exact List.mem_cons_of_mem _ (ih h)
      · exact h

theorem sorted_insert (p : Path) {l : List Path} (h : Sorted l) : Sorted (insert p l) := by
  induction l with
  | nil => exact List.pairwise_singleton _ p
  | cons first rest ih =>
    obtain ⟨hfirst, hrest⟩ := List.pairwise_cons.1 h
    rw [insert]
    split
    · next hbefore =>
      refine List.pairwise_cons.2 ⟨fun q hq => ?_, h⟩
      rcases List.mem_cons.1 hq with rfl | hq
      · exact hbefore
      · exact Path.less_trans hbefore (hfirst q hq)
    · split
      · next hbehind =>
        refine List.pairwise_cons.2 ⟨fun q hq => ?_, ih hrest⟩
        rcases mem_insert hq with rfl | hq
        · exact hbehind
        · exact hfirst q hq
      · exact h

/-- the script is there afterwards, perhaps in a spelling that was there before -/
theorem covers_insert (p : Path) (l : List Path) : Covers (insert p l) p := by
  induction l with
  | nil => exact ⟨p, List.mem_singleton_self p, rfl⟩
  | cons first rest ih =>
    rw [insert]
    split
    · exact ⟨p, List.mem_cons_self, rfl⟩
    · split
      · obtain ⟨q, hq, hsame⟩ := ih
        exact ⟨q, List.mem_cons_of_mem _ hq, hsame⟩
      · next hbefore hbehind =>
        exact ⟨first, List.mem_cons_self, (Path.components_eq_of_not_less hbefore hbehind).symm⟩

/-! ## All scripts -/

/-- puts scripts in one after the other -/
def insertAll (scripts l : List Path) : List Path := scripts.foldl (fun l p => insert p l) l

theorem sorted_insertAll (scripts : List Path) {l : List Path} (h : Sorted l) : Sorted (insertAll scripts l) := by
  induction scripts generalizing l with
  | nil => exact h
  | cons p rest ih => exact ih (sorted_insert p h)

theorem mem_insertAll {scripts l : List Path} {q : Path} (h : q ∈ insertAll scripts l) : q ∈ scripts ∨ q ∈ l := by
  induction scripts generalizing l with
  | nil => exact .inr h
  | cons p rest ih =>
    rcases ih h with hq | hq
    · exact .inl (List.mem_cons_of_mem _ hq)
    · rcases mem_insert hq with rfl | hq
      · exact .inl List.mem_cons_self
      · exact .inr hq

theorem mem_insertAll_of_mem (scripts : List Path) {l : List Path} {q : Path} (h : q ∈ l) :
    q ∈ insertAll scripts l := by
  induction scripts generalizing l with
  | nil => exact h
  | cons p rest ih => exact ih (mem_insert_of_mem p h)

theorem covers_insertAll {scripts : List Path} (l : List Path) {p : Path} (h : p ∈ scripts) :
    Covers (insertAll scripts l) p := by
  induction scripts generalizing l with
  | nil => cases h
  | cons first rest ih =>
    rcases List.mem_cons.1 h with rfl | h
    · obtain ⟨q, hq, hsame⟩ := covers_insert p l
      exact ⟨q, mem_insertAll_of_mem rest hq, hsame⟩
    · exact ih _ h

section

variable (f : Files)

/-- the scripts that one input stands for -/
def scriptsOf (input : Path) : List Path :=
  match f.node input with
  | .ok (.file _ _) => [input]
  | .ok node => below input node
  | .error _ => []

theorem files_add (set : ScriptSet) (input : Path) :
    (add f set input).files = insertAll (scriptsOf f input) set.files := by
  rw [add, scriptsOf]
  cases f.node input with
  | error e => rfl
  | ok node => cases node <;> rfl

theorem missing_add (set : ScriptSet) (input : Path) :
    (add f set input).missing = set.missing ++ [input].filter fun p => !f.has p := by
  unfold add
  cases hnode : f.node input with
  | error e => simp [Files.has, hnode, Except.isOk, Except.toBool]
  | ok node => cases node <;> simp [Files.has, hnode, Except.isOk, Except.toBool]

theorem files_collect (inputs : List Path) :
    (collect f inputs).files = insertAll (inputs.flatMap (scriptsOf f)) [] := by
  have hfold : ∀ set : ScriptSet,
      (inputs.foldl (add f) set).files = insertAll (inputs.flatMap (scriptsOf f)) set.files := by
    induction inputs with
    | nil => exact fun _ => rfl
    | cons input rest ih =>
      intro set
      rw [List.foldl_cons, ih, files_add, List.flatMap_cons, insertAll, insertAll, insertAll, List.foldl_append]
  exact hfold ⟨[], []⟩

/-- the missing inputs are those that lead nowhere -/
theorem missing_collect (inputs : List Path) : (collect f inputs).missing = inputs.filter fun p => !f.has p := by
  have hfold : ∀ set : ScriptSet,
      (inputs.foldl (add f) set).missing = set.missing ++ inputs.filter fun p => !f.has p := by
    induction inputs with
    | nil => exact fun set => (List.append_nil _).symm
    | cons input rest ih =>
      intro set
      rw [List.foldl_cons, ih, missing_add, List.append_assoc, ← List.filter_append]
      rfl
  exact hfold ⟨[], []⟩

theorem sorted_collect (inputs : List Path) : Sorted (collect f inputs).files := by
  rw [files_collect]
  exact sorted_insertAll _ List.Pairwise.nil

theorem mem_scripts_of_collect {inputs : List Path} {p : Path} (h : p ∈ (collect f inputs).files) :
    ∃ input ∈ inputs, p ∈ scriptsOf f input := by
  rw [files_collect] at h
  exact (mem_insertAll h).elim List.mem_flatMap.1 fun hnil => by cases hnil

theorem covers_collect {inputs : List Path} {input p : Path} (hinput : input ∈ inputs) (hp : p ∈ scriptsOf f input) :
    Covers (collect f inputs).files p := by
  rw [files_collect]
  exact covers_insertAll [] (List.mem_flatMap.2 ⟨input, hinput, hp⟩)

end

end ScriptSet

end ScriptBridge
