/-
Begins that overlap. A begin is two steps: it draws a number from the counter, and later makes it the latest token of
its document. Between the two anything may happen, so that several begins of one document may draw in one order and
store in another. `Shared` is a registry with all begins in it, `step` one step of any caller; a schedule is a list of
steps in any order.

- `run_begin`: both steps of a begin in a row are the begin of the registry.
- `latest_eq_lastStored`: the latest token of a document is the one stored last since its slot was dropped, and not the
  one drawn last.
- `guarantee_iff_inOrder`: a result is published only for the largest token stored exactly as long as the begins of each
  document store in the order in which they drew.
- `late_store_revives_older`: in other schedules a request publishes after a newer one of its document has begun.
- `publish_of_apart`: begins of one document that do not overlap store in order, so that the guarantee holds for them.
-/
import ScriptBridge.Proofs.Session.RegistryHistory

namespace ScriptBridge

/-- a begin that has drawn its token, and whether it has made it the latest of its document -/
structure Begin where
  id : DocumentId
  token : Nat
  stored : Bool
deriving DecidableEq, Repr

/-- a registry and all begins in it, in the order in which they drew -/
structure Shared where
  registry : Registry
  begins : List Begin

namespace Shared

/-- one step of a caller. A begin is named by its place among the draws -/
inductive Step where
  | draw (id : DocumentId)
  | store (k : Nat)
  | publish (id : DocumentId) (token : Nat) (diagnostics : List Diagnostic)
  | clearCurrent (id : DocumentId) (token : Nat)
  | remove (id : DocumentId)
  | clearAll
deriving DecidableEq, Repr

/-- the state after a step; a begin stores once -/
def step (s : Shared) : Step → Shared
  | .draw id =>
    let (registry, token) := s.registry.draw
    ⟨registry, s.begins ++ [⟨id, token, false⟩]⟩
  | .store k =>
    match s.begins[k]? with
    | some ⟨id, token, false⟩ => ⟨s.registry.adopt id token, s.begins.set k ⟨id, token, true⟩⟩
    | _ => s
  | .publish id token diagnostics => { s with registry := (s.registry.publish id token diagnostics).1 }
  | .clearCurrent id token => { s with registry := (s.registry.clearCurrent id token).1 }
  | .remove id => { s with registry := s.registry.remove id }
  | .clearAll => { s with registry := s.registry.clearAll }

/-- the state after a schedule -/
def run (steps : List Step) : Shared := steps.foldl step ⟨.empty, []⟩

theorem run_snoc (steps : List Step) (x : Step) : run (steps ++ [x]) = (run steps).step x := by
  simp [run, List.foldl_append]

/-- **Both steps of a begin in a row are one begin** of the registry, whatever has happened before -/
theorem run_begin (steps : List Step) (id : DocumentId) :
    (run (steps ++ [.draw id, .store (run steps).begins.length])).registry = ((run steps).registry.begin id).1 := by
  simp [run, List.foldl_append, step, Registry.begin, Registry.draw]

/-! ## What has been stored -/

/-- whether a step drops the slot of a document -/
def Step.drops (id : DocumentId) : Step → Bool
  | .remove other => decide (other = id)
  | .clearAll => true
  | _ => false

/-- begin `k` has drawn a token for a document and is yet to store it -/
def Pending (s : Shared) (k : Nat) (id : DocumentId) (t : Nat) : Prop := s.begins[k]? = some ⟨id, t, false⟩

/-- the token that a step stores for a document -/
def stores? (s : Shared) (id : DocumentId) : Step → Option Nat
  | .store k =>
    match s.begins[k]? with
    | some ⟨other, token, false⟩ => if other = id then some token else none
    | _ => none
  | _ => none

theorem step_store (s : Shared) (k : Nat) (id : DocumentId) (t : Nat) (hk : s.Pending k id t) :
    s.step (.store k) = ⟨s.registry.adopt id t, s.begins.set k ⟨id, t, true⟩⟩ := by
  unfold Pending at hk
  simp only [step, hk]

theorem stores?_store (s : Shared) (k : Nat) (id other : DocumentId) (t : Nat) (hk : s.Pending k other t) :
    s.stores? id (.store k) = if other = id then some t else none := by
  unfold Pending at hk
  simp only [stores?, hk]

/-- a store of a begin that has none to make changes nothing -/
theorem store_idle (s : Shared) (k : Nat) (hk : ∀ id t, ¬ s.Pending k id t) :
    s.step (.store k) = s ∧ ∀ id, s.stores? id (.store k) = none := by
  simp only [step, stores?]
  rcases hb : s.begins[k]? with _ | ⟨other, token, _ | _⟩
  · exact ⟨rfl, fun _ => rfl⟩
  · exact absurd hb (hk other token)
  · exact ⟨rfl, fun _ => rfl⟩

/-- goes on with the tokens stored for a document -/
def storedFrom (id : DocumentId) (s : Shared) (tokens : List Nat) : List Step → List Nat
  | [] => tokens
  | x :: rest => storedFrom id (s.step x) (if x.drops id then [] else tokens ++ (s.stores? id x).toList) rest

/-- the tokens that begins have stored for a document since its slot was last dropped, in the order of the stores -/
def stored (id : DocumentId) (steps : List Step) : List Nat := storedFrom id ⟨.empty, []⟩ [] steps

theorem stored_snoc (id : DocumentId) (steps : List Step) (x : Step) :
    stored id (steps ++ [x]) =
      if x.drops id then [] else stored id steps ++ ((run steps).stores? id x).toList := by
  have hfrom (s : Shared) (tokens : List Nat) : storedFrom id s tokens (steps ++ [x]) =
      if x.drops id then [] else storedFrom id s tokens steps ++ ((steps.foldl step s).stores? id x).toList := by
    induction steps generalizing s tokens with
    | nil => rfl
    | cons y steps ih => exact ih _ _
  exact hfrom _ _

/-! ## The latest token -/

theorem latest_adopt (r : Registry) (id k : DocumentId) (t : Nat) :
    (r.adopt id t).latest? k = if id = k then some t else r.latest? k := by
  simp only [Registry.latest?, Registry.adopt, Table.get?_put]
  split <;> rfl

/-- a step sets the latest token of a document by a store, and drops it with the slot -/
theorem latest_step (s : Shared) (x : Step) (id : DocumentId) :
    (s.step x).registry.latest? id =
      if x.drops id then none else (s.stores? id x).or (s.registry.latest? id) := by
  cases x with
  | draw other => rfl
  | store k =>
    simp only [step, stores?, Step.drops]
    rcases s.begins[k]? with _ | ⟨other, token, _ | _⟩
    · rfl
    · rw [latest_adopt]
      by_cases h : other = id <;> simp [h]
    · rfl
  | publish other t diagnostics => exact Registry.latest_settle s.registry other id t _
  | clearCurrent other t => exact Registry.latest_settle s.registry other id t _
  | remove other =>
    by_cases h : other = id <;> simp [step, Registry.latest?, Step.drops, stores?, h]
  | clearAll => rfl

/-- **The latest token is the one stored last**, whichever was drawn last -/
theorem latest_eq_lastStored (steps : List Step) (id : DocumentId) :
    (run steps).registry.latest? id = (stored id steps).getLast? := by
  induction steps using List.reverseRecOn with
  | nil => rfl
  | append_singleton steps x ih =>
    rw [run_snoc, latest_step, stored_snoc, ih]
    split
    · rfl
    · cases (run steps).stores? id x <;> simp

theorem publish_iff_lastStored (steps : List Step) (id : DocumentId) (t : Nat) (diagnostics : List Diagnostic) :
    ((run steps).registry.publish id t diagnostics).2 = true ↔ (stored id steps).getLast? = some t := by
  rw [Registry.publish, Registry.settle_ok, Registry.isCurrent_iff, latest_eq_lastStored]

/-! ## Main results -/

/-- of tokens stored in order, the one that publishes is the largest -/
theorem largest_of_inOrder (steps : List Step) (id : DocumentId) (horder : (stored id steps).Pairwise (· ≤ ·))
    (t : Nat) (diagnostics : List Diagnostic)
    (hpub : ((run steps).registry.publish id t diagnostics).2 = true) : ∀ u ∈ stored id steps, u ≤ t := by
  intro u hu
  obtain ⟨init, hinit⟩ := List.getLast?_eq_some_iff.1 ((publish_iff_lastStored _ _ _ _).1 hpub)
  rw [hinit] at hu horder
  rcases List.mem_append.1 hu with hu | hu
  · exact (List.pairwise_append.1 horder).2.2 u hu t (List.mem_singleton.2 rfl)
  · exact Nat.le_of_eq (List.mem_singleton.1 hu)

/-- as long as only the largest token publishes, each store is of a token above those stored before: it publishes at
once -/
theorem inOrder_of_largest (steps : List Step) (id : DocumentId)
    (h : ∀ p, p <+: steps → ∀ t diagnostics, ((run p).registry.publish id t diagnostics).2 = true →
      ∀ u ∈ stored id p, u ≤ t) : (stored id steps).Pairwise (· ≤ ·) := by
  induction steps using List.reverseRecOn with
  | nil => exact List.Pairwise.nil
  | append_singleton steps x ih =>
    have hbefore := ih fun p hp => h p (hp.trans (List.prefix_append _ _))
    have hnow := stored_snoc id steps x
    split at hnow
    · rw [hnow]
      exact List.Pairwise.nil
    · cases ht : (run steps).stores? id x with
      | none => simpa [hnow, ht] using hbefore
      | some t =>
        replace hnow : stored id (steps ++ [x]) = stored id steps ++ [t] := by rw [hnow, ht]; rfl
        have hlast : (stored id (steps ++ [x])).getLast? = some t := by rw [hnow, List.getLast?_concat]
        have hlargest := h _ (List.prefix_refl _) t [] ((publish_iff_lastStored _ _ _ _).2 hlast)
        rw [hnow] at hlargest ⊢
        refine List.pairwise_append.2 ⟨hbefore, List.pairwise_singleton _ _, fun u hu v hv => ?_⟩
        obtain rfl := List.mem_singleton.1 hv
        exact hlargest u (List.mem_append_left _ hu)

/-- **A result is published for the largest token only while begins store in order.** A publication succeeds exactly
for the token that was stored last for its document since the slot was dropped. Throughout a schedule no larger one was
stored before it, whatever is published when, exactly if throughout the schedule the tokens of the document were stored
in the order in which they were drawn. -/
theorem guarantee_iff_inOrder (steps : List Step) (id : DocumentId) :
    (∀ t diagnostics, ((run steps).registry.publish id t diagnostics).2 = true ↔
      (stored id steps).getLast? = some t) ∧
    ((∀ p, p <+: steps → ∀ t diagnostics, ((run p).registry.publish id t diagnostics).2 = true →
        ∀ u ∈ stored id p, u ≤ t) ↔
      ∀ p, p <+: steps → (stored id p).Pairwise (· ≤ ·)) := by
  refine ⟨publish_iff_lastStored steps id, fun hsafe p hp => ?_, fun horder p hp => ?_⟩
  · exact inOrder_of_largest p id fun q hq => hsafe q (hq.trans hp)
  · exact largest_of_inOrder p id (horder p hp)

/-- a late store makes an older request publish, even with the token that its own begin gave back: two begins of a
document draw, and the later one stores first -/
theorem late_store_revives_older : ¬ ∀ steps (b : Begin) diagnostics, b ∈ (run steps).begins → b.stored = true →
    ((run steps).registry.publish b.id b.token diagnostics).2 = true → ∀ u ∈ stored b.id steps, u ≤ b.token := by
  intro h
  have hle := h [.draw ⟨"a"⟩, .draw ⟨"a"⟩, .store 1, .store 0] ⟨⟨"a"⟩, 1, true⟩ [] (by decide) rfl (by decide) 2
    (by decide)
  exact absurd hle (by decide)

/-! ## Begins that do not overlap -/

/-- a begin of the document draws only when every earlier one has stored -/
def Apart (id : DocumentId) (steps : List Step) : Prop :=
  ∀ before after, steps = before ++ .draw id :: after → ∀ b ∈ (run before).begins, b.id = id → b.stored = true

theorem Apart.of_prefix {id : DocumentId} {steps p : List Step} (h : Apart id steps) (hp : p <+: steps) :
    Apart id p := by
  obtain ⟨more, rfl⟩ := hp
  exact fun before after hs => h before (after ++ more) (by simp [hs])

/-- what holds while begins of a document do not overlap: at most one of them is to store, with a token above all that
were stored -/
structure ApartInv (id : DocumentId) (s : Shared) (tokens : List Nat) : Prop where
  sorted : tokens.Pairwise (· ≤ ·)
  drawn : ∀ u ∈ tokens, u ≤ s.registry.issued
  begun : ∀ b ∈ s.begins, b.token ≤ s.registry.issued
  single : ∀ i j t u, s.Pending i id t → s.Pending j id u → i = j
  above : ∀ i t, s.Pending i id t → ∀ u ∈ tokens, u ≤ t

theorem getElem?_concat_eq_some {α : Type} (l : List α) (a b : α) (i : Nat) (h : (l ++ [a])[i]? = some b) :
    l[i]? = some b ∨ (i = l.length ∧ a = b) := by
  rcases Nat.lt_trichotomy i l.length with hi | rfl | hi
  · exact Or.inl (by rwa [List.getElem?_append_left hi] at h)
  · exact Or.inr ⟨rfl, by simpa using h⟩
  · rw [List.getElem?_eq_none (by simp; omega)] at h
    cases h

/-- a begin of the document that draws is the only one to store, above all that were -/
theorem ApartInv.draw {id : DocumentId} {s : Shared} {tokens : List Nat} (hi : ApartInv id s tokens)
    (other : DocumentId) (hfree : other = id → ∀ b ∈ s.begins, b.id = id → b.stored = true) :
    ApartInv id (s.step (.draw other)) tokens := by
  have hbegins : (s.step (.draw other)).begins = s.begins ++ [⟨other, s.registry.issued + 1, false⟩] := rfl
  have hissued : (s.step (.draw other)).registry.issued = s.registry.issued + 1 := rfl
  have hnone {i t} (hother : other = id) (h : s.Pending i id t) : False := by
    have := hfree hother _ (List.mem_of_getElem? h) rfl
    cases this
  have hcases {i t} (h : (s.step (.draw other)).Pending i id t) :
      s.Pending i id t ∨ (i = s.begins.length ∧ other = id ∧ t = s.registry.issued + 1) := by
    rcases getElem?_concat_eq_some _ _ _ _ h with h | ⟨hi, h⟩
    · exact Or.inl h
    · cases h
      exact Or.inr ⟨hi, rfl, rfl⟩
  refine ⟨hi.sorted, fun u hu => Nat.le_succ_of_le (hi.drawn u hu), fun b hb => ?_, fun i j t u ht hu => ?_,
    fun i t ht u hu => ?_⟩
  · rw [hissued]
    rw [hbegins] at hb
    rcases List.mem_append.1 hb with hb | hb
    · exact Nat.le_succ_of_le (hi.begun b hb)
    · exact Nat.le_of_eq (by rw [List.mem_singleton.1 hb])
  · rcases hcases ht with ht | ⟨hlast, hother, -⟩
    · rcases hcases hu with hu | ⟨-, hother, -⟩
      · exact hi.single i j t u ht hu
      · exact (hnone hother ht).elim
    · rcases hcases hu with hu | ⟨hlast', -⟩
      · exact (hnone hother hu).elim
      · rw [hlast, hlast']
  · rcases hcases ht with ht | ⟨-, -, rfl⟩
    · exact hi.above i t ht u hu
    · exact Nat.le_succ_of_le (hi.drawn u hu)

/-- the one begin that is to store does so in order -/
theorem ApartInv.store {id : DocumentId} {s : Shared} {tokens : List Nat} (hi : ApartInv id s tokens) (k : Nat) :
    ApartInv id (s.step (.store k)) (tokens ++ (s.stores? id (.store k)).toList) := by
  by_cases hk : ∃ other t, s.Pending k other t
  · obtain ⟨other, token, hk⟩ := hk
    rw [step_store s k other token hk, stores?_store s k id other token hk]
    have hbegun : token ≤ s.registry.issued := hi.begun _ (List.mem_of_getElem? hk)
    have hpending {i t} (h : (s.begins.set k ⟨other, token, true⟩)[i]? = some ⟨id, t, false⟩) :
        i ≠ k ∧ s.Pending i id t := by
      by_cases hik : k = i
      · subst hik
        rw [List.getElem?_set_self (List.getElem?_eq_some_iff.1 hk).1] at h
        cases h
      · exact ⟨Ne.symm hik, by rwa [List.getElem?_set_ne hik] at h⟩
    have hnew (u) (hu : u ∈ tokens ++ (if other = id then some token else none).toList) :
        u ∈ tokens ∨ (other = id ∧ u = token) := by
      by_cases h : other = id <;> simpa [h] using hu
    refine ⟨?_, fun u hu => ?_, fun b hb => ?_, fun i j t u ht hu => ?_, fun i t ht u hu => ?_⟩
    · by_cases hid : other = id
      · subst hid
        rw [if_pos rfl]
        refine List.pairwise_append.2 ⟨hi.sorted, List.pairwise_singleton _ _, fun u hu v hv => ?_⟩
        rw [List.mem_singleton.1 hv]
        exact hi.above k token hk u hu
      · simpa [hid] using hi.sorted
    · rcases hnew u hu with hu | ⟨-, rfl⟩
      · exact hi.drawn u hu
      · exact hbegun
    · rcases List.mem_or_eq_of_mem_set hb with hb | rfl
      · exact hi.begun b hb
      · exact hbegun
    · exact hi.single i j t u (hpending ht).2 (hpending hu).2
    · obtain ⟨hik, hbefore⟩ := hpending ht
      rcases hnew u hu with hu | ⟨rfl, rfl⟩
      · exact hi.above i t hbefore u hu
      · exact absurd (hi.single i k t u hbefore hk) hik
  · obtain ⟨hstep, hstores⟩ := s.store_idle k fun other t h => hk ⟨other, t, h⟩
    rw [hstep, hstores]
    simpa using hi

/-- the other steps leave the begins and the counter, and may forget stored tokens -/
theorem ApartInv.same {id : DocumentId} {s s' : Shared} {tokens tokens' : List Nat} (hi : ApartInv id s tokens)
    (hbegins : s'.begins = s.begins) (hissued : s'.registry.issued = s.registry.issued)
    (hsub : tokens'.Sublist tokens) : ApartInv id s' tokens' := by
  have hpending (i t) : s'.Pending i id t ↔ s.Pending i id t := by rw [Pending, hbegins]; rfl
  refine ⟨hi.sorted.sublist hsub, fun u hu => ?_, fun b hb => ?_, fun i j t u ht hu => ?_, fun i t ht u hu => ?_⟩
  · rw [hissued]
    exact hi.drawn u (hsub.subset hu)
  · rw [hissued]
    exact hi.begun b (hbegins ▸ hb)
  · exact hi.single i j t u ((hpending i t).1 ht) ((hpending j u).1 hu)
  · exact hi.above i t ((hpending i t).1 ht) u (hsub.subset hu)

theorem apartInv_run (id : DocumentId) (steps : List Step) (h : Apart id steps) :
    ApartInv id (run steps) (stored id steps) := by
  induction steps using List.reverseRecOn with
  | nil => constructor <;> simp [run, stored, storedFrom, Pending]
  | append_singleton steps x ih =>
    have hi := ih (h.of_prefix (List.prefix_append _ _))
    rw [run_snoc, stored_snoc]
    cases x with
    | draw other =>
      have := hi.draw other fun ho => h steps [] (by rw [ho])
      simpa [Step.drops, stores?] using this
    | store k => simpa [Step.drops] using hi.store k
    | publish other t diagnostics =>
      exact hi.same rfl (Registry.settle_issued _ other t _) (by simp [Step.drops, stores?])
    | clearCurrent other t => exact hi.same rfl (Registry.settle_issued _ other t _) (by simp [Step.drops, stores?])
    | remove other =>
      refine hi.same rfl rfl ?_
      split
      · exact List.nil_sublist _
      · simp [stores?]
    | clearAll => exact hi.same rfl rfl (List.nil_sublist _)

/-- **Begins that do not overlap store in order,** so that the guarantee holds throughout: when no begin of a document
draws between the two steps of another, a publication succeeds only for the largest token stored -/
theorem publish_of_apart (id : DocumentId) (steps : List Step) (h : Apart id steps) (t : Nat)
    (diagnostics : List Diagnostic) (hpub : ((run steps).registry.publish id t diagnostics).2 = true) :
    ∀ u ∈ stored id steps, u ≤ t :=
  largest_of_inOrder steps id (apartInv_run id steps h).sorted t diagnostics hpub

end Shared

end ScriptBridge
