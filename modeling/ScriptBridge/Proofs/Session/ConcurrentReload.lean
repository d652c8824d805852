/-
Starts and reloads that overlap. The start of a lint first takes its token, then looks at the configuration, and if
linting is off drops its document; a reload first resolves the settings, then puts the new configuration in place, and
only then calls its listeners. Between these steps anything may happen in other requests. `Overlap` is a session with
all lints and reloads in it, each at its stage.

- `starts_alone`, `reloads_alone`: run without interruption, the steps are the start of a lint and the reload that are
  single events of a host.
- `held_step`: a slot that is held while linting is off belongs to a start that will drop it, or will be cleared by a
  reload that has yet to call its listeners.
- `nothing_kept_when_off`: when no start and no reload is half done and linting is off, nothing is shown.
-/
import ScriptBridge.Proofs.Session.LintingOff

namespace ScriptBridge

/-- how far a lint has come: it has its token, it has found linting off, its tool is running, or it is over -/
inductive LintStage where
  | begun
  | refused
  | running (command : Command)
  | over

/-- a lint at its stage -/
structure StagedLint where
  document : Document
  token : Nat
  stage : LintStage

/-- the lint has its token, and has yet to look at the configuration or to drop its document -/
def StagedLint.starting (lint : StagedLint) : Bool :=
  match lint.stage with
  | .begun => true
  | .refused => true
  | _ => false

/-- how far a reload has come: it has resolved the settings, its configuration is in place, or it has called its
listeners -/
inductive ReloadStage where
  | resolved
  | inPlace
  | over

/-- a reload at its stage, with the configuration that it resolved -/
structure StagedReload where
  configuration : Configuration
  stage : ReloadStage

/-- the configuration is in place and turns linting off, and the listeners have yet to hear of it -/
def StagedReload.clearing (reload : StagedReload) : Bool :=
  match reload.stage with
  | .inPlace => !reload.configuration.enabledLint
  | _ => false

/-- a session with all lints and reloads that were begun in it -/
structure Overlap where
  session : Session
  lints : List StagedLint
  reloads : List StagedReload

namespace Overlap

/-- one step of a lint, of a reload, or of the host. Lints and reloads are named by the place of their begin -/
inductive Step where
  | begin (document : Document)
  | snapshot (k : Nat)
  | refuse (k : Nat)
  | finish (k : Nat) (reply : Reply)
  | resolve
  | replace (k : Nat)
  | notify (k : Nat)
  | close (id : DocumentId)
  | editStore (edit : Store → Store)
  | shutdown

/-- puts another registry into a session -/
def withRegistry (s : Session) (registry : Registry) : Session := { s with results := { s.results with registry } }

/-- the state after a step; a step that is not next for its lint or reload changes nothing -/
def step (o : Overlap) : Step → Overlap
  | .begin document =>
    let (registry, token) := o.session.results.registry.begin document.id
    { o with session := withRegistry o.session registry, lints := o.lints ++ [⟨document, token, .begun⟩] }
  | .snapshot k =>
    match o.lints[k]? with
    | some ⟨document, token, .begun⟩ =>
      let stage := if o.session.config.enabledLint then .running (o.session.command .lint document) else .refused
      { o with lints := o.lints.set k ⟨document, token, stage⟩ }
    | _ => o
  | .refuse k =>
    match o.lints[k]? with
    | some ⟨document, token, .refused⟩ =>
      { o with session := o.session.close document.id, lints := o.lints.set k ⟨document, token, .over⟩ }
    | _ => o
  | .finish k reply =>
    match o.lints[k]? with
    | some ⟨document, token, .running command⟩ =>
      { o with
        session := (o.session.completeLint ⟨document, token, command⟩ reply).1
        lints := o.lints.set k ⟨document, token, .over⟩ }
    | _ => o
  | .resolve => { o with reloads := o.reloads ++ [⟨o.session.resolver.store.resolve, .resolved⟩] }
  | .replace k =>
    match o.reloads[k]? with
    | some ⟨configuration, .resolved⟩ =>
      { o with
        session := { o.session with resolver := { o.session.resolver with current := configuration } }
        reloads := o.reloads.set k ⟨configuration, .inPlace⟩ }
    | _ => o
  | .notify k =>
    match o.reloads[k]? with
    | some ⟨configuration, .inPlace⟩ =>
      { o with
        session := withRegistry o.session
          (o.session.listeners.foldl (Listener.call configuration) (o.session.results.registry, [])).1
        reloads := o.reloads.set k ⟨configuration, .over⟩ }
    | _ => o
  | .close id => { o with session := o.session.close id }
  | .editStore edit => { o with session := o.session.editStore edit }
  | .shutdown => { o with session := o.session.shutdown }

/-- the state after steps -/
def run (o : Overlap) (steps : List Step) : Overlap := steps.foldl step o

/-- the steps of the start of a lint without interruption are the event of a host -/
theorem starts_alone (o : Overlap) (h : Host) (hs : o.session = h.session) (document : Document) :
    (o.run [.begin document, .snapshot o.lints.length, .refuse o.lints.length]).session =
      (h.step (.lint document)).session := by
  have hstep : (h.step (.lint document)).session = (o.session.startLint document).1 := by rw [hs]; rfl
  have hconfig (r : Registry) : (withRegistry o.session r).config = o.session.config := rfl
  rw [hstep]
  simp only [run, List.foldl_cons, List.foldl_nil, step, List.getElem?_concat_length, hconfig]
  unfold Session.startLint
  cases o.session.config.enabledLint <;> simp [Session.close, withRegistry]

/-- the steps of a reload without interruption are the event of a host -/
theorem reloads_alone (o : Overlap) (h : Host) (hs : o.session = h.session) :
    (o.run [.resolve, .replace o.reloads.length, .notify o.reloads.length]).session = (h.step .reload).session := by
  have hstep : (h.step .reload).session = o.session.reload.1 := by rw [hs]; rfl
  have hself (a b : StagedReload) : ((o.reloads ++ [a]).set o.reloads.length b)[o.reloads.length]? = some b :=
    List.getElem?_set_self (by simp)
  rw [hstep]
  simp only [run, List.foldl_cons, List.foldl_nil, step, List.getElem?_concat_length, hself, Session.call_listeners]
  by_cases hl : o.session.resolver.store.resolve.enabledLint = true <;>
    simp [Session.reload, Resolver.reload, Session.settle, Session.config, withRegistry, hl]

/-! ## Slots that are held -/

/-- the slot of a document -/
def slot? (o : Overlap) (id : DocumentId) : Option Slot := o.session.results.registry.slots.get? id

/-- a slot that is there while linting is off will be dropped by a lint of its document that is starting, or cleared by
a reload -/
def Held (o : Overlap) : Prop :=
  ∀ id, o.slot? id ≠ none → o.session.config.enabledLint = true ∨ (∃ r ∈ o.reloads, r.clearing = true) ∨
    ∃ l ∈ o.lints, l.document.id = id ∧ l.starting = true

theorem exists_mem_set {α : Type} {P : α → Prop} {l : List α} {k : Nat} {a b : α} (hk : l[k]? = some a)
    (hab : P a → P b) (h : ∃ x ∈ l, P x) : ∃ x ∈ l.set k b, P x := by
  obtain ⟨x, hx, hP⟩ := h
  obtain ⟨j, hj⟩ := List.mem_iff_getElem?.1 hx
  by_cases hjk : k = j
  · subst hjk
    obtain rfl : a = x := Option.some.inj (hk.symm.trans hj)
    exact ⟨b, List.mem_set (List.getElem?_eq_some_iff.1 hk).1 _, hab hP⟩
  · exact ⟨x, List.mem_of_getElem? ((List.getElem?_set_ne hjk).trans hj), hP⟩

/-- the end of a run makes no slot -/
theorem slot_finish (o : Overlap) (id : DocumentId) (request : LintRequest) (reply : Reply) (h : o.slot? id = none) :
    (o.session.completeLint request reply).1.results.registry.slots.get? id = none := by
  rw [Session.registry_completeLint, Registry.slot_settle, if_neg]
  · exact h
  · rintro ⟨rfl, hcurrent⟩
    rw [Registry.isCurrent_iff, Registry.latest?] at hcurrent
    unfold slot? at h
    rw [h] at hcurrent
    cases hcurrent

/-- **What is held goes.** Every step keeps it that a slot which is there while linting is off has a lint or a reload
under way that will take it away -/
theorem held_step (o : Overlap) (x : Step) (h : o.Held) : (o.step x).Held := by
  cases x with
  | begin document =>
    intro id hslot
    by_cases hid : document.id = id
    · exact Or.inr (Or.inr ⟨⟨document, o.session.results.registry.issued + 1, .begun⟩, by simp [step], hid, rfl⟩)
    · have hbefore : o.slot? id ≠ none := by
        simpa [slot?, step, withRegistry, Registry.slot_begin, hid] using hslot
      refine (h id hbefore).imp_right (Or.imp_right ?_)
      rintro ⟨lint, hmem, hlint⟩
      exact ⟨lint, List.mem_append_left _ hmem, hlint⟩
  | snapshot k =>
    simp only [step]
    split
    · next document token hk =>
      intro id hslot
      by_cases hl : o.session.config.enabledLint = true
      · exact Or.inl hl
      · -- a lint that finds linting off goes on to drop its document
        refine (h id hslot).imp_right (Or.imp_right (exists_mem_set hk ?_))
        rintro ⟨hid, -⟩
        exact ⟨hid, by simp [hl, StagedLint.starting]⟩
    · exact h
  | refuse k =>
    simp only [step]
    split
    · next document token hk =>
      intro id hslot
      have hslot : (o.session.results.registry.remove document.id).slots.get? id ≠ none := hslot
      rw [Registry.slot_remove] at hslot
      have hid : document.id ≠ id := fun hid => hslot (if_pos hid)
      rw [if_neg hid] at hslot
      refine (h id hslot).imp_right (Or.imp_right (exists_mem_set hk ?_))
      exact fun hlint => absurd hlint.1 hid
    · exact h
  | finish k reply =>
    simp only [step]
    split
    · next document token command hk =>
      intro id hslot
      have hbefore : o.slot? id ≠ none := fun hnone => hslot (o.slot_finish id _ reply hnone)
      refine (h id hbefore).imp_right (Or.imp_right (exists_mem_set hk ?_))
      exact fun hlint => absurd hlint.2 (by simp [StagedLint.starting])
    · exact h
  | resolve =>
    intro id hslot
    refine (h id hslot).imp_right (Or.imp_left ?_)
    rintro ⟨reload, hmem, hreload⟩
    exact ⟨reload, List.mem_append_left _ hmem, hreload⟩
  | replace k =>
    simp only [step]
    split
    · next configuration hk =>
      intro id hslot
      by_cases hl : configuration.enabledLint = true
      · exact Or.inl hl
      · refine Or.inr (Or.inl ⟨⟨configuration, .inPlace⟩, ?_, by simp [StagedReload.clearing, hl]⟩)
        exact List.mem_set (List.getElem?_eq_some_iff.1 hk).1 _
    · exact h
  | notify k =>
    simp only [step]
    split
    · next configuration hk =>
      intro id hslot
      rw [slot?, Session.call_listeners] at hslot
      by_cases hl : configuration.enabledLint = true
      · simp only [hl, if_true] at hslot
        refine (h id hslot).imp_right (Or.imp_left (exists_mem_set hk ?_))
        exact fun hclear => absurd hclear (by simp [StagedReload.clearing, hl])
      · simp only [hl] at hslot
        exact absurd rfl hslot
    · exact h
  | close id =>
    intro k hslot
    have hslot : (o.session.results.registry.remove id).slots.get? k ≠ none := hslot
    rw [Registry.slot_remove] at hslot
    have hid : id ≠ k := fun hid => hslot (if_pos hid)
    rw [if_neg hid] at hslot
    exact h k hslot
  | editStore edit => exact h
  | shutdown => exact fun id hslot => absurd rfl hslot

theorem held_run (o : Overlap) (steps : List Step) (h : o.Held) : (o.run steps).Held := by
  induction steps generalizing o with
  | nil => exact h
  | cons x steps ih => exact ih _ (o.held_step x h)

/-- a session that was just made, with nothing begun in it -/
def create (root : Path) (store : Store) (builtIn : String) : Overlap := ⟨.create root store builtIn, [], []⟩

/-- **Nothing is kept while linting is off,** however starts and reloads overlap: once every lint that was begun has
looked at the configuration and every refused one has dropped its document, and every reload has called its listeners,
no document has diagnostics if linting is off -/
theorem nothing_kept_when_off (root : Path) (store : Store) (builtIn : String) (steps : List Step) :
    let o := (create root store builtIn).run steps
    (∀ l ∈ o.lints, l.starting = false) → (∀ r ∈ o.reloads, r.clearing = false) →
      o.session.config.enabledLint = false → ∀ id, o.session.diagnostics id = none := by
  intro o hlints hreloads hoff id
  have hheld : o.Held := held_run _ steps fun id hslot => absurd rfl hslot
  have hnone : o.slot? id = none := by
    by_contra hslot
    rcases hheld id hslot with hon | ⟨r, hmem, hr⟩ | ⟨l, hmem, -, hl⟩
    · rw [hoff] at hon
      cases hon
    · rw [hreloads r hmem] at hr
      cases hr
    · rw [hlints l hmem] at hl
      cases hl
  exact (congrArg (Option.bind · Slot.diagnostics) hnone)

end Overlap

end ScriptBridge
