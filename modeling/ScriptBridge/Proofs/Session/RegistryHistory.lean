/-
Histories of the registry. Any list of operations can reach it: requests begin, publish and clear with whatever tokens
they hold, documents are removed, everything is cleared.

- `latest_step_begin`, `latest_step_of_touches`, `latest_step_of_not_touches`: what one operation does to the latest
  token of a document; `latest_run`: after any operations it is the one that the last operation on the slot drew, if
  that was a begin.
- `settle_iff_latest_begin`: a token can publish or clear exactly when the last operation on the slot of its document
  is the begin that drew it; a refusal leaves everything as it was.
- `token_lt_of_earlier`: no two begins draw the same token, whatever their documents; `token_fits`: with fewer than
  2^64 begins every token is a 64-bit number, so counting in naturals and in 64 bits is the same.
-/
import Mathlib.Data.List.Induction
import ScriptBridge.Session.Registry

namespace ScriptBridge.Registry

/-! ## Operations on one slot -/

@[simp] theorem begin_token (r : Registry) (id : DocumentId) : (r.begin id).2 = r.issued + 1 := rfl

@[simp] theorem begin_issued (r : Registry) (id : DocumentId) : (r.begin id).1.issued = r.issued + 1 := rfl

@[simp] theorem settle_issued (r : Registry) (id : DocumentId) (t : Nat) (shown : Option (List Diagnostic)) :
    (r.settle id t shown).1.issued = r.issued := by
  unfold settle; split <;> rfl

@[simp] theorem remove_issued (r : Registry) (id : DocumentId) : (r.remove id).issued = r.issued := rfl

@[simp] theorem clearAll_issued (r : Registry) : r.clearAll.issued = r.issued := rfl

theorem slot_begin (r : Registry) (id k : DocumentId) :
    (r.begin id).1.slots.get? k = if id = k then some ⟨r.issued + 1, r.get? id⟩ else r.slots.get? k := by
  simp [begin, draw, adopt, get?]

@[simp] theorem slot_remove (r : Registry) (id k : DocumentId) :
    (r.remove id).slots.get? k = if id = k then none else r.slots.get? k := by
  simp [remove]

@[simp] theorem slot_clearAll (r : Registry) (k : DocumentId) : r.clearAll.slots.get? k = none := rfl

/-- the latest token of a document -/
def latest? (r : Registry) (id : DocumentId) : Option Nat := (r.slots.get? id).map Slot.latest

theorem isCurrent_iff (r : Registry) (id : DocumentId) (t : Nat) :
    r.isCurrent id t = true ↔ r.latest? id = some t := by
  unfold isCurrent latest?
  cases r.slots.get? id with
  | none => simp
  | some slot => simp

theorem slot_settle (r : Registry) (id k : DocumentId) (t : Nat) (shown : Option (List Diagnostic)) :
    (r.settle id t shown).1.slots.get? k =
      if id = k ∧ r.isCurrent id t = true then some ⟨t, shown⟩ else r.slots.get? k := by
  unfold settle
  by_cases h : r.isCurrent id t = true
  · simp [h]
  · simp [h]

/-- settling succeeds exactly for the current token -/
theorem settle_ok (r : Registry) (id : DocumentId) (t : Nat) (shown : Option (List Diagnostic)) :
    (r.settle id t shown).2 = r.isCurrent id t := by
  unfold settle
  split
  · next h => exact h.symm
  · next h => simpa using h

/-- a refusal leaves the registry as it was -/
theorem settle_refused (r : Registry) (id : DocumentId) (t : Nat) (shown : Option (List Diagnostic))
    (h : (r.settle id t shown).2 = false) : (r.settle id t shown).1 = r := by
  rw [settle_ok] at h
  simp [settle, h]

/-! ## Runs -/

/-- the operations that change a registry -/
inductive Op where
  | begin (id : DocumentId)
  | publish (id : DocumentId) (token : Nat) (diagnostics : List Diagnostic)
  | clearCurrent (id : DocumentId) (token : Nat)
  | remove (id : DocumentId)
  | clearAll
deriving DecidableEq, Repr

/-- the registry after an operation -/
def step (r : Registry) : Op → Registry
  | .begin id => (r.begin id).1
  | .publish id t diagnostics => (r.publish id t diagnostics).1
  | .clearCurrent id t => (r.clearCurrent id t).1
  | .remove id => r.remove id
  | .clearAll => r.clearAll

/-- the registry after operations on the empty one -/
def run (ops : List Op) : Registry := ops.foldl step empty

theorem run_snoc (ops : List Op) (op : Op) : run (ops ++ [op]) = (run ops).step op := by
  simp [run, List.foldl_append]

/-- an operation that begins a request of a document or drops its slot -/
def Op.Touches (id : DocumentId) (op : Op) : Prop := op = .begin id ∨ op = .remove id ∨ op = .clearAll

/-- the last operation on the slot of a document is a begin, and it drew this token -/
def LatestBegin (ops : List Op) (id : DocumentId) (t : Nat) : Prop :=
  ∃ before after, ops = before ++ .begin id :: after ∧ (∀ op ∈ after, ¬ op.Touches id) ∧
    ((run before).begin id).2 = t

/-! ## The latest token follows the history -/

/-- settling for any document with any token leaves every latest token as it was -/
theorem latest_settle (r : Registry) (id k : DocumentId) (t : Nat) (shown : Option (List Diagnostic)) :
    (r.settle id t shown).1.latest? k = r.latest? k := by
  by_cases h : id = k ∧ r.isCurrent id t = true
  · obtain ⟨rfl, hc⟩ := h
    rw [(isCurrent_iff r id t).1 hc]
    simp [latest?, slot_settle, hc]
  · simp only [latest?, slot_settle, if_neg h]

theorem latest_step_begin (r : Registry) (id : DocumentId) :
    (r.step (.begin id)).latest? id = some (r.begin id).2 := by
  simp [step, latest?, slot_begin]

theorem latest_step_of_not_touches (r : Registry) (op : Op) (id : DocumentId) (h : ¬ op.Touches id) :
    (r.step op).latest? id = r.latest? id := by
  cases op with
  | begin k =>
    have hk : k ≠ id := fun e => h (Or.inl (by rw [e]))
    simp [step, latest?, slot_begin, hk]
  | publish k t diagnostics => exact latest_settle r k id t _
  | clearCurrent k t => exact latest_settle r k id t _
  | remove k =>
    have hk : k ≠ id := fun e => h (Or.inr (Or.inl (by rw [e])))
    simp [step, latest?, hk]
  | clearAll => exact absurd (Or.inr (Or.inr rfl)) h

/-- an operation on the slot that is not a begin drops it -/
theorem latest_step_of_touches (r : Registry) (op : Op) (id : DocumentId) (h : op.Touches id)
    (hb : op ≠ .begin id) : (r.step op).latest? id = none := by
  rcases h with h | rfl | rfl
  · exact absurd h hb
  · simp [step, latest?]
  · rfl

theorem latestBegin_snoc (ops : List Op) (op : Op) (id : DocumentId) (t : Nat) :
    LatestBegin (ops ++ [op]) id t ↔
      (op = .begin id ∧ ((run ops).begin id).2 = t) ∨ (¬ op.Touches id ∧ LatestBegin ops id t) := by
  constructor
  · rintro ⟨before, after, hops, hafter, ht⟩
    rcases List.eq_nil_or_concat after with rfl | ⟨after, last, rfl⟩
    · obtain ⟨rfl, h⟩ := List.append_inj' hops rfl
      cases h
      exact Or.inl ⟨rfl, ht⟩
    · rw [List.concat_eq_append, ← List.cons_append, ← List.append_assoc] at hops
      obtain ⟨rfl, h⟩ := List.append_inj' hops rfl
      cases h
      refine Or.inr ⟨hafter op (by simp), before, after, rfl, fun o ho => hafter o (by simp [ho]), ht⟩
  · rintro (⟨rfl, ht⟩ | ⟨hop, before, after, rfl, hafter, ht⟩)
    · exact ⟨ops, [], rfl, by simp, ht⟩
    · refine ⟨before, after ++ [op], by simp, fun o ho => ?_, ht⟩
      rcases List.mem_append.1 ho with ho | ho
      · exact hafter o ho
      · rw [List.mem_singleton.1 ho]; exact hop

/-- **The latest token is that of the last begin.** After any operations a slot has a latest token exactly when the
last operation on it was a begin, and it is the token which that begin drew. -/
theorem latest_run (ops : List Op) (id : DocumentId) (t : Nat) :
    (run ops).latest? id = some t ↔ LatestBegin ops id t := by
  induction ops using List.reverseRecOn with
  | nil => simp [run, latest?, empty, LatestBegin]
  | append_singleton ops op ih =>
    rw [run_snoc, latestBegin_snoc]
    by_cases hop : op.Touches id
    · by_cases hb : op = .begin id
      · subst hb
        rw [latest_step_begin]
        simp [hop]
      · rw [latest_step_of_touches _ _ _ hop hb]
        simp [hop, hb]
    · have hb : op ≠ .begin id := fun e => hop (Or.inl e)
      rw [latest_step_of_not_touches _ _ _ hop, ih]
      simp [hop, hb]

/-! ## Main results -/

/-- **Only the latest request may publish or clear.** After any operations, with any tokens for any documents,
publishing and clearing succeed exactly when the last operation on the slot of the document was a begin and drew the
token that is presented. When they are refused, the registry is what it was. -/
theorem settle_iff_latest_begin (ops : List Op) (id : DocumentId) (t : Nat) (diagnostics : List Diagnostic) :
    (((run ops).publish id t diagnostics).2 = true ↔ LatestBegin ops id t) ∧
    (((run ops).clearCurrent id t).2 = true ↔ LatestBegin ops id t) ∧
    (((run ops).publish id t diagnostics).2 = false → ((run ops).publish id t diagnostics).1 = run ops) ∧
    (((run ops).clearCurrent id t).2 = false → ((run ops).clearCurrent id t).1 = run ops) := by
  have ok : ∀ shown, ((run ops).settle id t shown).2 = true ↔ LatestBegin ops id t := by
    intro shown
    rw [settle_ok, isCurrent_iff, latest_run]
  exact ⟨ok _, ok _, settle_refused _ _ _ _, settle_refused _ _ _ _⟩

/-- whether an operation draws a token -/
def Op.isBegin : Op → Bool
  | .begin _ => true
  | _ => false

/-- the counter is the number of begins so far -/
theorem issued_run (ops : List Op) : (run ops).issued = ops.countP Op.isBegin := by
  induction ops using List.reverseRecOn with
  | nil => rfl
  | append_singleton ops op ih =>
    rw [run_snoc, List.countP_append, ← ih]
    cases op <;> simp [step, Op.isBegin, publish, clearCurrent]

/-- **A token belongs to one begin.** Of two begins in a run, for whatever documents, the later one drew the larger
token. -/
theorem token_lt_of_earlier (before between : List Op) (id k : DocumentId) :
    ((run before).begin id).2 < ((run (before ++ .begin id :: between)).begin k).2 := by
  simp only [begin_token, issued_run, List.countP_append, List.countP_cons, Op.isBegin, if_true]
  omega

/-- **Tokens are 64-bit numbers** as long as fewer than 2^64 requests begin -/
theorem token_fits (before after : List Op) (id : DocumentId)
    (h : (before ++ .begin id :: after).countP Op.isBegin < 18446744073709551616) :
    ((run before).begin id).2 < 18446744073709551616 := by
  simp only [begin_token, issued_run]
  simp only [List.countP_append, List.countP_cons, Op.isBegin, if_true] at h
  omega

end ScriptBridge.Registry
