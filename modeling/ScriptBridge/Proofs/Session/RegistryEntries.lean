/-
What the registry shows after a history. A slot holds a token and, apart from it, what is shown; so a document may have
a slot and show nothing, and a new request keeps what an older one published. Of all operations only those that publish
or clear with a current token, and those that drop the slot, decide what a document shows.

- `Affects`: these operations; `get?_step_of_affects`, `get?_step_of_not_affects`: what one operation does.
- `LastAffecting`: the last of them in a history; `get?_run`: a document shows what that one left.
- `distinct_run`, `size_eq`: no document has two slots, so the number of entries is that of the documents with one.
- `entries_follow_history`: what is shown, and what the queries say of it.
-/
import Mathlib.Data.Finset.Card
import ScriptBridge.Proofs.Session.RegistryHistory
import ScriptBridge.Proofs.Table

namespace ScriptBridge.Registry

/-- an operation decides what a document shows: it publishes or clears the document and is accepted, removes the
document, or clears everything -/
def Affects (r : Registry) (id : DocumentId) : Op → Prop
  | .begin _ => False
  | .publish k t diagnostics => k = id ∧ (r.publish k t diagnostics).2 = true
  | .clearCurrent k t => k = id ∧ (r.clearCurrent k t).2 = true
  | .remove k => k = id
  | .clearAll => True

/-- what a document shows after an operation that decides it -/
def Op.shown? : Op → Option (List Diagnostic)
  | .publish _ _ diagnostics => some diagnostics
  | _ => none

/-- the document that an operation is on; none for the one that clears everything -/
def Op.document? : Op → Option DocumentId
  | .begin id => some id
  | .publish id _ _ => some id
  | .clearCurrent id _ => some id
  | .remove id => some id
  | .clearAll => none

/-- of the operations of a history that decided what a document shows, this one is the last -/
def LastAffecting (ops : List Op) (id : DocumentId) (op : Op) : Prop :=
  ∃ before after, ops = before ++ op :: after ∧ (run before).Affects id op ∧
    ∀ earlier o later, after = earlier ++ o :: later → ¬ (run (before ++ op :: earlier)).Affects id o

/-! ## One operation -/

theorem get?_begin (r : Registry) (k id : DocumentId) : (r.begin k).1.get? id = r.get? id := by
  by_cases h : k = id
  · subst h
    simp [get?, slot_begin]
  · simp [get?, slot_begin, h]

theorem get?_settle (r : Registry) (k id : DocumentId) (t : Nat) (shown : Option (List Diagnostic)) :
    (r.settle k t shown).1.get? id = if k = id ∧ (r.settle k t shown).2 = true then shown else r.get? id := by
  rw [settle_ok]
  unfold get?
  rw [slot_settle]
  split <;> rfl

theorem get?_remove (r : Registry) (k id : DocumentId) : (r.remove k).get? id = if k = id then none else r.get? id := by
  unfold get?
  rw [slot_remove]
  split <;> rfl

theorem get?_clearAll (r : Registry) (id : DocumentId) : r.clearAll.get? id = none := rfl

theorem get?_step_of_affects {r : Registry} {id : DocumentId} {op : Op} (h : r.Affects id op) :
    (r.step op).get? id = op.shown? := by
  cases op with
  | begin k => exact h.elim
  | publish k t diagnostics => exact (get?_settle ..).trans (if_pos h)
  | clearCurrent k t => exact (get?_settle ..).trans (if_pos h)
  | remove k => exact (get?_remove ..).trans (if_pos h)
  | clearAll => exact get?_clearAll r id

theorem get?_step_of_not_affects {r : Registry} {id : DocumentId} {op : Op} (h : ¬ r.Affects id op) :
    (r.step op).get? id = r.get? id := by
  cases op with
  | begin k => exact get?_begin r k id
  | publish k t diagnostics => exact (get?_settle ..).trans (if_neg h)
  | clearCurrent k t => exact (get?_settle ..).trans (if_neg h)
  | remove k => exact (get?_remove ..).trans (if_neg h)
  | clearAll => exact absurd trivial h

/-- an operation on one document decides nothing about another -/
theorem not_affects_of_ne {r : Registry} {k id : DocumentId} {op : Op} (hop : op.document? = some k) (hne : k ≠ id) :
    ¬ r.Affects id op := by
  intro h
  cases op with
  | begin j => exact h
  | publish j t diagnostics => exact hne ((Option.some.inj hop).symm.trans h.1)
  | clearCurrent j t => exact hne ((Option.some.inj hop).symm.trans h.1)
  | remove j => exact hne ((Option.some.inj hop).symm.trans h)
  | clearAll => cases hop

/-- the token that a begin draws is accepted -/
theorem publish_after_begin (r : Registry) (id : DocumentId) (diagnostics : List Diagnostic) :
    ((r.begin id).1.publish id (r.begin id).2 diagnostics).2 = true := by
  rw [publish, settle_ok, isCurrent_iff]
  exact latest_step_begin r id

/-! ## Histories -/

theorem not_lastAffecting_nil (id : DocumentId) (op : Op) : ¬ LastAffecting [] id op := by
  rintro ⟨before, after, h, -⟩
  cases before <;> cases h

theorem lastAffecting_snoc (ops : List Op) (o : Op) (id : DocumentId) (op : Op) :
    LastAffecting (ops ++ [o]) id op ↔
      (op = o ∧ (run ops).Affects id o) ∨ (¬ (run ops).Affects id o ∧ LastAffecting ops id op) := by
  constructor
  · rintro ⟨before, after, hops, haffects, hafter⟩
    rcases List.eq_nil_or_concat after with rfl | ⟨after, last, rfl⟩
    · obtain ⟨rfl, h⟩ := List.append_inj' hops rfl
      cases h
      exact .inl ⟨rfl, haffects⟩
    · rw [List.concat_eq_append] at hops hafter
      rw [← List.cons_append, ← List.append_assoc] at hops
      obtain ⟨rfl, h⟩ := List.append_inj' hops rfl
      cases h
      refine .inr ⟨hafter after o [] rfl, before, after, rfl, haffects, ?_⟩
      rintro earlier e later rfl
      exact hafter earlier e (later ++ [o]) (by simp)
  · rintro (⟨rfl, haffects⟩ | ⟨hnot, before, after, rfl, haffects, hafter⟩)
    · exact ⟨ops, [], rfl, haffects, fun earlier e later h => by cases earlier <;> cases h⟩
    · refine ⟨before, after ++ [o], by simp, haffects, fun earlier e later h => ?_⟩
      rcases List.eq_nil_or_concat later with rfl | ⟨later, last, rfl⟩
      · obtain ⟨rfl, heq⟩ := List.append_inj' h rfl
        rw [← (List.cons.inj heq).1]
        exact hnot
      · rw [List.concat_eq_append, ← List.cons_append, ← List.append_assoc] at h
        obtain ⟨rfl, -⟩ := List.append_inj' h rfl
        exact hafter earlier e later rfl

/-- **A document shows what the last operation that decided it left.** That operation is an accepted publish, or the
document shows nothing. -/
theorem get?_run (ops : List Op) (id : DocumentId) (diagnostics : List Diagnostic) :
    (run ops).get? id = some diagnostics ↔ ∃ t, LastAffecting ops id (.publish id t diagnostics) := by
  induction ops using List.reverseRecOn with
  | nil => simp [not_lastAffecting_nil, run, empty, get?]
  | append_singleton ops o ih =>
    simp only [run_snoc, lastAffecting_snoc]
    by_cases h : (run ops).Affects id o
    · rw [get?_step_of_affects h]
      -- what is left is shown only by a publish, and that is one of this very document
      constructor
      · intro hshown
        cases o with
        | publish k t ds =>
          cases hshown
          obtain rfl : k = id := h.1
          exact ⟨t, .inl ⟨rfl, h⟩⟩
        | _ => cases hshown
      · rintro ⟨t, ⟨rfl, -⟩ | ⟨hnot, -⟩⟩
        · rfl
        · exact absurd h hnot
    · rw [get?_step_of_not_affects h, ih]
      refine exists_congr fun t => ⟨fun hlast => .inr ⟨h, hlast⟩, ?_⟩
      rintro (⟨-, haffects⟩ | ⟨-, hlast⟩)
      · exact absurd haffects h
      · exact hlast

/-! ## Entries -/

theorem distinct_step {r : Registry} (h : r.slots.Distinct) (op : Op) : (r.step op).slots.Distinct := by
  have hsettle : ∀ id t shown, (r.settle id t shown).1.slots.Distinct := by
    intro id t shown
    unfold settle
    split
    · exact h.put id _
    · exact h
  cases op with
  | begin id => exact h.put id _
  | publish id t diagnostics => exact hsettle id t _
  | clearCurrent id t => exact hsettle id t _
  | remove id => exact h.erase id
  | clearAll => exact Table.distinct_empty

/-- no document has two slots -/
theorem distinct_run (ops : List Op) : (run ops).slots.Distinct := by
  induction ops using List.reverseRecOn with
  | nil => exact Table.distinct_empty
  | append_singleton ops op ih =>
    rw [run_snoc]
    exact distinct_step ih op

/-- the documents that show something are as many as the registry counts -/
theorem size_eq {r : Registry} (h : r.slots.Distinct) : ∃ shown : Finset DocumentId,
    (∀ id, id ∈ shown ↔ ∃ diagnostics, r.get? id = some diagnostics) ∧ r.size = shown.card := by
  let entries := r.slots.entries.filter fun e => e.2.diagnostics.isSome
  have hnodup : (entries.map Prod.fst).Nodup := h.sublist (List.filter_sublist.map Prod.fst)
  refine ⟨(entries.map Prod.fst).toFinset, fun id => ?_, ?_⟩
  · have hslot : ∀ slot, r.slots.get? id = some slot ↔ (id, slot) ∈ r.slots.entries := fun slot =>
      Table.find?_eq_some_iff h
    simp only [List.mem_toFinset, List.mem_map, entries, List.mem_filter, get?, Option.bind_eq_some_iff, hslot]
    constructor
    · rintro ⟨⟨k, slot⟩, ⟨hmem, hsome⟩, rfl⟩
      obtain ⟨diagnostics, hshown⟩ := Option.isSome_iff_exists.1 hsome
      exact ⟨diagnostics, slot, hmem, hshown⟩
    · rintro ⟨diagnostics, slot, hmem, hshown⟩
      exact ⟨(id, slot), ⟨hmem, by simp [hshown]⟩, rfl⟩
  · rw [List.toFinset_card_of_nodup hnodup, List.length_map]
    rfl

/-- nothing is counted exactly if no document shows anything -/
theorem isEmpty_iff {r : Registry} (h : r.slots.Distinct) : r.isEmpty = true ↔ ∀ id, r.get? id = none := by
  obtain ⟨shown, hmem, hcard⟩ := size_eq h
  rw [isEmpty, beq_iff_eq, hcard, Finset.card_eq_zero, Finset.eq_empty_iff_forall_notMem]
  refine forall_congr' fun id => ?_
  rw [hmem, Option.eq_none_iff_forall_ne_some, not_exists]

/-! ## Main result -/

/-- **What is shown follows the history.** After any operations, accepted or refused: a document shows some diagnostics
exactly if the last operation that decided what it shows is an accepted publish of them; beginning a request changes
nothing that is shown, but a publish with its token is accepted; and an operation on one document changes nothing that
another one shows. The registry says that a document is there exactly if it shows something, counts just these documents,
and is empty exactly if there are none. -/
theorem entries_follow_history (ops : List Op) :
    (∀ id diagnostics,
      (run ops).get? id = some diagnostics ↔ ∃ t, LastAffecting ops id (.publish id t diagnostics)) ∧
    (∀ k id, ((run ops).begin k).1.get? id = (run ops).get? id) ∧
    (∀ id diagnostics, (((run ops).begin id).1.publish id ((run ops).begin id).2 diagnostics).2 = true) ∧
    (∀ op k id, op.document? = some k → k ≠ id → ((run ops).step op).get? id = (run ops).get? id) ∧
    (∀ id, (run ops).contains id = true ↔ ∃ diagnostics, (run ops).get? id = some diagnostics) ∧
    (∃ shown : Finset DocumentId, (∀ id, id ∈ shown ↔ ∃ diagnostics, (run ops).get? id = some diagnostics) ∧
      (run ops).size = shown.card) ∧
    ((run ops).isEmpty = true ↔ ∀ id, (run ops).get? id = none) := by
  refine ⟨get?_run ops, get?_begin _, publish_after_begin _, fun op k id hop hne => ?_, fun id => ?_,
    size_eq (distinct_run ops), isEmpty_iff (distinct_run ops)⟩
  · exact get?_step_of_not_affects (not_affects_of_ne hop hne)
  · exact Option.isSome_iff_exists

end ScriptBridge.Registry
