/-
The snapshot of the configuration over any history. A resolver is made over a store; after that settings are given and
removed, listeners are registered, and the store is resolved again by a reload or by a change notice that concerns the
options. What the store and the listeners are after a history is read off the history alone (`storeAfter`,
`listenersOf`).

- `SettingsChange.affects_iff`: which change notices concern a namespace.
- `store_run`, `listeners_run`: the store and the listeners follow the history.
- `step_of_resolves`, `step_of_not_resolves`: what one operation does to the snapshot and whom it calls.
- `snapshot_follows_history`: the snapshot is what the store stood for when it was last resolved, and every listener is
  told of each resolving once, in the order of registration.
-/
import Mathlib.Data.List.Induction
import ScriptBridge.Settings.Resolver

namespace ScriptBridge

/-! ## Change notices -/

/-- a notice concerns a namespace: it names everything, the namespace, or something below it -/
def SettingsChange.Concerns (space : String) (c : SettingsChange) : Prop :=
  c.everything = true ∨ ∃ part ∈ c.sections, part = space ∨ ∃ rest, part = space ++ "." ++ rest

theorem sectionTouches_iff (space part : String) :
    sectionTouches space part = true ↔ part = space ∨ ∃ rest, part = space ++ "." ++ rest := by
  have hdot : space.toList ++ ['.'] = (space ++ ".").toList := by simp
  have hbelow : (space.toList ++ ['.']).isPrefixOf part.toList = true ↔ ∃ rest, part = space ++ "." ++ rest := by
    rw [hdot, List.isPrefixOf_iff_prefix]
    constructor
    · rintro ⟨rest, hrest⟩
      refine ⟨String.ofList rest, String.toList_injective ?_⟩
      rw [String.toList_append, String.toList_ofList, hrest]
    · rintro ⟨rest, rfl⟩
      exact ⟨rest.toList, String.toList_append.symm⟩
  rw [sectionTouches, Bool.or_eq_true, beq_iff_eq, hbelow]

theorem SettingsChange.affects_iff (c : SettingsChange) (space : String) :
    c.affects space = true ↔ c.Concerns space := by
  simp only [affects, Concerns, Bool.or_eq_true, List.any_eq_true, sectionTouches_iff]

namespace Resolver

/-! ## Histories -/

/-- what is done to a resolver and to the store it reads -/
inductive Op where
  | set (space key : String) (value : Json)
  | remove (space key : String)
  | listen (name : String)
  | reload
  | change (change : SettingsChange)

/-- the resolver after an operation, with the calls of listeners -/
def step (r : Resolver) : Op → Resolver × List ListenerCall
  | .set space key value => (r.withStore (r.store.write space key value), [])
  | .remove space key => (r.withStore (r.store.remove space key), [])
  | .listen name => (r.listen name, [])
  | .reload => r.reload
  | .change c => ((r.handleChange c).1, (r.handleChange c).2.getD [])

/-- the resolver after a list of operations -/
def run (r : Resolver) (ops : List Op) : Resolver := ops.foldl (fun r op => (r.step op).1) r

theorem run_snoc (r : Resolver) (ops : List Op) (op : Op) : r.run (ops ++ [op]) = ((r.run ops).step op).1 := by
  simp [run, List.foldl_append]

/-- what an operation does to the store -/
def Op.edit (store : Store) : Op → Store
  | .set space key value => store.write space key value
  | .remove space key => store.remove space key
  | _ => store

/-- the store after a list of operations -/
def storeAfter (store : Store) (ops : List Op) : Store := ops.foldl Op.edit store

/-- the listener that an operation registers -/
def Op.listener? : Op → Option String
  | .listen name => some name
  | _ => none

/-- the listeners that a list of operations registers, in their order -/
def listenersOf (ops : List Op) : List String := ops.filterMap Op.listener?

/-- the operation resolves the store: it is a reload, or a notice that concerns the options -/
def Op.Resolves : Op → Prop
  | .reload => True
  | .change c => c.Concerns settingsNamespace
  | _ => False

/-! ## One operation -/

/-- a notice that concerns the options is a reload -/
theorem handleChange_of_concerns (r : Resolver) (c : SettingsChange) (h : c.Concerns settingsNamespace) :
    r.handleChange c = (r.reload.1, some r.reload.2) := by
  simp only [handleChange, if_pos ((c.affects_iff _).2 h)]

/-- any other notice is ignored -/
theorem handleChange_of_not_concerns (r : Resolver) (c : SettingsChange) (h : ¬ c.Concerns settingsNamespace) :
    r.handleChange c = (r, none) := by
  simp only [handleChange, if_neg (mt (c.affects_iff _).1 h)]

theorem handleChange_isSome (r : Resolver) (c : SettingsChange) :
    (r.handleChange c).2.isSome = true ↔ c.Concerns settingsNamespace := by
  by_cases h : c.Concerns settingsNamespace
  · simp [r.handleChange_of_concerns c h, h]
  · simp [r.handleChange_of_not_concerns c h, h]

/-- an operation that resolves the store is a reload -/
theorem step_of_resolves (r : Resolver) (op : Op) (h : op.Resolves) : r.step op = r.reload := by
  cases op with
  | reload => rfl
  | change c =>
    simp only [step, r.handleChange_of_concerns c h]
    rfl
  | _ => exact h.elim

/-- a notice that does not concern the options changes nothing -/
theorem step_change_ignored (r : Resolver) (c : SettingsChange) (h : ¬ (Op.change c).Resolves) :
    r.step (.change c) = (r, []) := by
  simp only [step, r.handleChange_of_not_concerns c h]
  rfl

/-- any other operation calls nobody and leaves the snapshot -/
theorem step_of_not_resolves (r : Resolver) (op : Op) (h : ¬ op.Resolves) :
    (r.step op).1.current = r.current ∧ (r.step op).2 = [] := by
  cases op with
  | reload => exact absurd trivial h
  | change c =>
    rw [r.step_change_ignored c h]
    exact ⟨rfl, rfl⟩
  | _ => exact ⟨rfl, rfl⟩

theorem store_step (r : Resolver) (op : Op) : (r.step op).1.store = op.edit r.store := by
  cases op with
  | change c =>
    by_cases h : (Op.change c).Resolves
    · rw [r.step_of_resolves _ h]
      rfl
    · rw [r.step_change_ignored c h]
      rfl
  | _ => rfl

theorem listeners_step (r : Resolver) (op : Op) :
    (r.step op).1.listeners = r.listeners ++ op.listener?.toList := by
  cases op with
  | listen name => rfl
  | change c =>
    by_cases h : (Op.change c).Resolves
    · rw [r.step_of_resolves _ h]
      exact (List.append_nil _).symm
    · rw [r.step_change_ignored c h]
      exact (List.append_nil _).symm
  | _ => exact (List.append_nil _).symm

/-! ## Runs -/

theorem store_run (r : Resolver) (ops : List Op) : (r.run ops).store = storeAfter r.store ops := by
  induction ops using List.reverseRecOn with
  | nil => rfl
  | append_singleton ops op ih =>
    rw [run_snoc, store_step, ih, storeAfter, storeAfter, List.foldl_append]
    rfl

theorem listeners_run (r : Resolver) (ops : List Op) :
    (r.run ops).listeners = r.listeners ++ listenersOf ops := by
  induction ops using List.reverseRecOn with
  | nil => exact (List.append_nil _).symm
  | append_singleton ops op ih =>
    rw [run_snoc, listeners_step, ih, List.append_assoc, listenersOf, listenersOf, List.filterMap_append]
    cases op <;> rfl

/-- operations that do not resolve the store leave the snapshot -/
theorem current_run_of_quiet (r : Resolver) (ops : List Op) (h : ∀ op ∈ ops, ¬ op.Resolves) :
    (r.run ops).current = r.current := by
  induction ops using List.reverseRecOn with
  | nil => rfl
  | append_singleton ops op ih =>
    rw [run_snoc, ((r.run ops).step_of_not_resolves op (h op (by simp))).1]
    exact ih fun o ho => h o (List.mem_append_left _ ho)

theorem run_append (r : Resolver) (a b : List Op) : r.run (a ++ b) = (r.run a).run b := by
  simp [run, List.foldl_append]

/-- resolving and nothing of the kind after it leaves the configuration of that moment -/
theorem current_run_of_last (r : Resolver) (before : List Op) (op : Op) (after : List Op) (h : op.Resolves)
    (hafter : ∀ o ∈ after, ¬ o.Resolves) :
    (r.run (before ++ op :: after)).current = (storeAfter r.store before).resolve := by
  rw [List.append_cons, run_append, current_run_of_quiet _ after hafter, run_snoc, step_of_resolves _ op h, ← store_run]
  rfl

/-! ## Main result -/

/-- **The snapshot follows the history.** After any operations on a resolver over a store, the snapshot is the whole
configuration that the store stood for when it was last resolved, by a reload or by a notice that concerns the options,
or at the start if it was not; so what is done to the store alone never shows. A notice is answered with yes exactly if
it names everything, the options, or something below them. Whatever resolves the store calls every listener registered
so far once, in the order of registration, with the snapshot that it leaves; anything else calls nobody and leaves the
snapshot, and a notice that does not concern the options changes nothing at all. -/
theorem snapshot_follows_history (store : Store) (ops : List Op) :
    let r := (ofStore store).run ops
    (∀ before op after, ops = before ++ op :: after → op.Resolves → (∀ o ∈ after, ¬ o.Resolves) →
      r.current = (storeAfter store before).resolve) ∧
    ((∀ o ∈ ops, ¬ o.Resolves) → r.current = store.resolve) ∧
    (∀ c : SettingsChange, (r.handleChange c).2.isSome = true ↔
      c.everything = true ∨ ∃ part ∈ c.sections, part = "godotFormatter" ∨ ∃ rest, part = "godotFormatter." ++ rest) ∧
    (∀ op, op.Resolves →
      (r.step op).1.current = (storeAfter store ops).resolve ∧
      (r.step op).2 = (listenersOf ops).map fun name => ⟨name, (r.step op).1.current⟩) ∧
    (∀ op, ¬ op.Resolves → (r.step op).1.current = r.current ∧ (r.step op).2 = []) ∧
    (∀ c : SettingsChange, ¬ (Op.change c).Resolves → (r.step (.change c)).1 = r) := by
  intro r
  refine ⟨?_, ?_, fun c => ?_, fun op h => ?_, fun op h => r.step_of_not_resolves op h, fun c h => ?_⟩
  · rintro before op after rfl h hafter
    exact current_run_of_last (ofStore store) before op after h hafter
  · exact fun h => current_run_of_quiet (ofStore store) ops h
  · exact r.handleChange_isSome c
  · have hstore : r.store = storeAfter store ops := store_run (ofStore store) ops
    have hlisteners : r.listeners = listenersOf ops := listeners_run (ofStore store) ops
    rw [r.step_of_resolves op h, ← hstore, ← hlisteners]
    exact ⟨rfl, rfl⟩
  · exact congrArg Prod.fst (r.step_change_ignored c h)

end Resolver

end ScriptBridge
