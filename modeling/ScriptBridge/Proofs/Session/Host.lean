/-
A host at work. A host keeps one session and starts requests in it; while the tool runs for a request anything else may
happen, and the runs end in any order. `Host` is the session together with every lint and format started in it, and
whether the run of each has given something back. `step` is the effect of one event, `run` that of a list of events;
nothing is assumed about their order, their documents or what a run gives back.

- `registry_startLint`, `registry_completeLint`, `registry_reload`: what the operations of a session do to the published
  diagnostics.
- `requests_step`: an event starts at most one lint, and never changes what an earlier one was started with;
  `request_started`: every lint goes back to such an event.
- `lint_kept`: of a lint that was started, only its answer changes later, and that only once.
- `inv_run`: in every state that a host reaches, the lints hold growing tokens, all of them drawn from the counter, and
  commands of the lint mode (`Inv`); hence a token names one lint (`Inv.place_of_token`).
-/
import Mathlib.Data.List.Pairwise
import ScriptBridge.Proofs.Session.RegistryHistory
import ScriptBridge.Session.Basic

namespace ScriptBridge

/-! ## What a session does to its registry -/

namespace Session

theorem registry_startLint (s : Session) (document : Document) :
    (s.startLint document).1.results.registry =
      if s.config.enabledLint then (s.results.registry.begin document.id).1
      else (s.results.registry.begin document.id).1.remove document.id := by
  unfold startLint
  cases s.config.enabledLint <;> rfl

theorem request_startLint (s : Session) (document : Document) :
    (s.startLint document).2 =
      if s.config.enabledLint then some ⟨document, s.results.registry.issued + 1, s.command .lint document⟩
      else none := by
  unfold startLint
  cases s.config.enabledLint <;> rfl

theorem registry_completeLint (s : Session) (request : LintRequest) (reply : Reply) :
    (s.completeLint request reply).1.results.registry =
      (s.results.registry.settle request.document.id request.token
        (decodeLintReply request.document request.command reply).toOption).1 := by
  unfold completeLint Results.applyLint
  cases decodeLintReply request.document request.command reply <;> rfl

/-- a reload that turns linting off clears the registry; any other leaves it -/
theorem registry_reload (s : Session) :
    s.reload.1.results.registry =
      if s.resolver.store.resolve.enabledLint then s.results.registry else s.results.registry.clearAll := by
  simp only [reload, Resolver.reload, settle, config]
  by_cases hl : s.resolver.store.resolve.enabledLint = true <;> simp [hl]

theorem settingsChanged_fst (s : Session) (change : SettingsChange) :
    (s.settingsChanged change).1 = if change.affects settingsNamespace then s.reload.1 else s := by
  unfold settingsChanged Resolver.handleChange
  cases change.affects settingsNamespace <;> rfl

theorem registry_completeEdits (s : Session) (request : FormatRequest) (reply : Reply) :
    (s.completeEdits request reply).1.results.registry = s.results.registry := by
  unfold completeEdits
  split <;> rfl

theorem registry_completeFormat {σ : Type} (s : Session) (request : FormatRequest) (reply : Reply)
    (surface : Surface σ) (state : σ) :
    (s.completeFormat request reply surface state).1.results.registry = s.results.registry := by
  unfold completeFormat Results.applyFormat
  cases request.edit reply with
  | error e => rfl
  | ok edit =>
    simp only
    rcases surface request.document edit state with ⟨_ | _, _⟩ <;> rfl

end Session

/-! ## A host and its events -/

/-- a lint that was started, with what its run gave back once it is over -/
structure Lint where
  request : LintRequest
  reply : Option Reply

/-- what becomes of the edit of a format: it is only computed, given to the caller, or handed to a surface -/
inductive FormatUse where
  | compute
  | provide
  | apply
deriving DecidableEq, Repr

/-- a format that was started, with what its run gave back once it is over -/
structure Format where
  use : FormatUse
  request : FormatRequest
  reply : Option Reply

/-- a session with everything that was started in it, in the order of the starts -/
structure Host where
  session : Session
  lints : List Lint
  formats : List Format

/-- what can happen at a host. A run is named by the place of its start among the lints or the formats; `answer` is what
the surface says to the edit of a format, if it is handed one -/
inductive Event where
  | lint (document : Document)
  | lintDone (k : Nat) (reply : Reply)
  | format (use : FormatUse) (document : Document)
  | formatDone (k : Nat) (reply : Reply) (answer : Except FormatError Unit)
  | close (id : DocumentId)
  | editStore (edit : Store → Store)
  | listen (name : String)
  | reload
  | change (change : SettingsChange)
  | shutdown

/-- the session after a format whose run gave something back -/
def FormatUse.finish (use : FormatUse) (s : Session) (request : FormatRequest) (reply : Reply)
    (answer : Except FormatError Unit) : Session :=
  match use with
  | .compute => s
  | .provide => (s.completeEdits request reply).1
  | .apply => (s.completeFormat request reply (fun _ _ state => (answer, state)) ()).1

theorem FormatUse.registry_finish (use : FormatUse) (s : Session) (request : FormatRequest) (reply : Reply)
    (answer : Except FormatError Unit) :
    (use.finish s request reply answer).results.registry = s.results.registry := by
  cases use with
  | compute => rfl
  | provide => exact s.registry_completeEdits request reply
  | apply => exact s.registry_completeFormat request reply _ _

namespace Host

/-- a host whose session was just made over a store -/
def create (root : Path) (store : Store) (builtIn : String) : Host := ⟨.create root store builtIn, [], []⟩

/-- the registry of the session -/
def registry (h : Host) : Registry := h.session.results.registry

/-- the lints started so far -/
def requests (h : Host) : List LintRequest := h.lints.map Lint.request

/-- the host after an event; the end of a run that is not under way changes nothing -/
def step (h : Host) : Event → Host
  | .lint document =>
    let (session, request) := h.session.startLint document
    { h with session, lints := h.lints ++ request.toList.map fun r => ⟨r, none⟩ }
  | .lintDone k reply =>
    match h.lints[k]? with
    | some ⟨request, none⟩ =>
      { h with
        session := (h.session.completeLint request reply).1
        lints := h.lints.set k ⟨request, some reply⟩ }
    | _ => h
  | .format use document =>
    { h with formats := h.formats ++ (h.session.startFormat? document).toList.map fun r => ⟨use, r, none⟩ }
  | .formatDone k reply answer =>
    match h.formats[k]? with
    | some ⟨use, request, none⟩ =>
      { h with
        session := use.finish h.session request reply answer
        formats := h.formats.set k ⟨use, request, some reply⟩ }
    | _ => h
  | .close id => { h with session := h.session.close id }
  | .editStore edit => { h with session := h.session.editStore edit }
  | .listen name => { h with session := h.session.listen name }
  | .reload => { h with session := h.session.reload.1 }
  | .change change => { h with session := (h.session.settingsChanged change).1 }
  | .shutdown => { h with session := h.session.shutdown }

/-- the host after a list of events -/
def run (h : Host) (events : List Event) : Host := events.foldl step h

theorem run_snoc (h : Host) (events : List Event) (e : Event) : h.run (events ++ [e]) = (h.run events).step e := by
  simp [run, List.foldl_append]

/-! ## Steps on the registry -/

theorem registry_step_lint (h : Host) (document : Document) :
    (h.step (.lint document)).registry =
      if h.session.config.enabledLint then (h.registry.begin document.id).1
      else (h.registry.begin document.id).1.remove document.id :=
  h.session.registry_startLint document

theorem lints_step_lint (h : Host) (document : Document) :
    (h.step (.lint document)).lints =
      if h.session.config.enabledLint then
        h.lints ++ [⟨⟨document, h.registry.issued + 1, h.session.command .lint document⟩, none⟩]
      else h.lints := by
  simp only [step, h.session.request_startLint document]
  cases h.session.config.enabledLint <;> simp [registry]

/-- the end of a run settles the registry for the lint it was started for -/
theorem step_lintDone (h : Host) (k : Nat) (reply : Reply) (request : LintRequest)
    (hk : h.lints[k]? = some ⟨request, none⟩) :
    (h.step (.lintDone k reply)).registry =
        (h.registry.settle request.document.id request.token
          (decodeLintReply request.document request.command reply).toOption).1 ∧
      (h.step (.lintDone k reply)).lints = h.lints.set k ⟨request, some reply⟩ := by
  simp only [step, hk, registry]
  exact ⟨h.session.registry_completeLint request reply, trivial⟩

/-- the end of a run that is not under way is ignored -/
theorem step_lintDone_idle (h : Host) (k : Nat) (reply : Reply)
    (hk : ∀ request, h.lints[k]? ≠ some ⟨request, none⟩) : h.step (.lintDone k reply) = h := by
  rcases hr : h.lints[k]? with _ | ⟨request, _ | earlier⟩
  · simp only [step, hr]
  · exact absurd hr (hk request)
  · simp only [step, hr]

theorem registry_step_formatDone (h : Host) (k : Nat) (reply : Reply) (answer : Except FormatError Unit) :
    (h.step (.formatDone k reply answer)).registry = h.registry := by
  simp only [step]
  split
  · next use request _ => exact use.registry_finish h.session request reply answer
  · rfl

theorem lints_step_formatDone (h : Host) (k : Nat) (reply : Reply) (answer : Except FormatError Unit) :
    (h.step (.formatDone k reply answer)).lints = h.lints := by
  simp only [step]
  split <;> rfl

theorem registry_step_reload (h : Host) :
    (h.step .reload).registry =
      if h.session.resolver.store.resolve.enabledLint then h.registry else h.registry.clearAll :=
  h.session.registry_reload

theorem issued_step_reload (h : Host) : (h.step .reload).registry.issued = h.registry.issued := by
  rw [registry_step_reload]
  split <;> rfl

theorem step_change (h : Host) (change : SettingsChange) :
    h.step (.change change) = if change.affects settingsNamespace then h.step .reload else h := by
  simp only [step, h.session.settingsChanged_fst change]
  cases change.affects settingsNamespace <;> rfl

/-! ## The lints of a host -/

theorem map_set_of_same {α β : Type} (f : α → β) {l : List α} {k : Nat} {a b : α} (hk : l[k]? = some a)
    (hf : f b = f a) : (l.set k b).map f = l.map f := by
  have hself : (l.map f)[k]? = some (f a) := by simp [hk]
  obtain ⟨hlt, hget⟩ := List.getElem?_eq_some_iff.1 hself
  rw [List.map_set, hf, ← hget, List.set_getElem_self hlt]

/-- an event starts at most one lint, with the next token; what the earlier ones were started with stays -/
theorem requests_step (h : Host) (e : Event) :
    ((h.step e).requests = h.requests ∧ h.registry.issued ≤ (h.step e).registry.issued) ∨
      ∃ document, e = .lint document ∧ h.session.config.enabledLint = true ∧
        (h.step e).requests =
          h.requests ++ [⟨document, h.registry.issued + 1, h.session.command .lint document⟩] ∧
        (h.step e).registry.issued = h.registry.issued + 1 := by
  cases e with
  | lint document =>
    by_cases hl : h.session.config.enabledLint = true
    · refine Or.inr ⟨document, rfl, hl, ?_, ?_⟩
      · simp [requests, lints_step_lint, hl]
      · simp [registry_step_lint, hl]
    · refine Or.inl ⟨?_, ?_⟩
      · simp [requests, lints_step_lint, hl]
      · simp [registry_step_lint, hl]
  | lintDone k reply =>
    left
    by_cases hk : ∃ request, h.lints[k]? = some ⟨request, none⟩
    · obtain ⟨request, hk⟩ := hk
      obtain ⟨hr, hl⟩ := h.step_lintDone k reply request hk
      refine ⟨?_, Nat.le_of_eq (by rw [hr, Registry.settle_issued])⟩
      unfold requests
      rw [hl]
      exact map_set_of_same Lint.request hk rfl
    · rw [h.step_lintDone_idle k reply fun request hr => hk ⟨request, hr⟩]
      exact ⟨rfl, Nat.le_refl _⟩
  | formatDone k reply answer =>
    left
    rw [registry_step_formatDone]
    exact ⟨by unfold requests; rw [lints_step_formatDone], Nat.le_refl _⟩
  | reload =>
    left
    exact ⟨rfl, Nat.le_of_eq h.issued_step_reload.symm⟩
  | change change =>
    left
    rw [step_change]
    split
    · exact ⟨rfl, Nat.le_of_eq h.issued_step_reload.symm⟩
    · exact ⟨rfl, Nat.le_refl _⟩
  | _ => exact Or.inl ⟨rfl, Nat.le_refl _⟩

/-- the counter never goes back -/
theorem issued_step_le (h : Host) (e : Event) : h.registry.issued ≤ (h.step e).registry.issued := by
  rcases h.requests_step e with ⟨-, hle⟩ | ⟨-, -, -, -, heq⟩ <;> omega

theorem issued_run_le (h : Host) (events : List Event) : h.registry.issued ≤ (h.run events).registry.issued := by
  induction events generalizing h with
  | nil => exact Nat.le_refl _
  | cons e events ih => exact Nat.le_trans (h.issued_step_le e) (ih _)

/-- every lint was started by an event, with the token drawn then and the command of the configuration of that moment -/
theorem request_started (h : Host) (h0 : h.requests = []) (events : List Event) (k : Nat) (request : LintRequest)
    (hk : (h.run events).requests[k]? = some request) :
    ∃ before document after, events = before ++ .lint document :: after ∧ (h.run before).requests.length = k ∧
      (h.run before).session.config.enabledLint = true ∧
      request = ⟨document, (h.run before).registry.issued + 1, (h.run before).session.command .lint document⟩ := by
  induction events using List.reverseRecOn with
  | nil => simp [run, h0] at hk
  | append_singleton events e ih =>
    rw [run_snoc] at hk
    have earlier (hold : (h.run events).requests[k]? = some request) :
        ∃ before document after, events ++ [e] = before ++ .lint document :: after ∧
          (h.run before).requests.length = k ∧ (h.run before).session.config.enabledLint = true ∧
          request = ⟨document, (h.run before).registry.issued + 1, (h.run before).session.command .lint document⟩ := by
      obtain ⟨before, document, after, rfl, hstart⟩ := ih hold
      exact ⟨before, document, after ++ [e], by simp, hstart⟩
    rcases (h.run events).requests_step e with ⟨hr, -⟩ | ⟨document, rfl, hl, hr, -⟩
    · exact earlier (hr ▸ hk)
    · rw [hr] at hk
      by_cases hlt : k < (h.run events).requests.length
      · exact earlier (by rwa [List.getElem?_append_left hlt] at hk)
      · obtain rfl : k = (h.run events).requests.length := by
          have := (List.getElem?_eq_some_iff.1 hk).1
          simp only [List.length_append, List.length_singleton] at this
          omega
        rw [List.getElem?_concat_length] at hk
        exact ⟨events, document, [], rfl, rfl, hl, (Option.some.inj hk).symm⟩

/-- an event leaves every lint as it was, but one that is under way and whose run it ends -/
theorem lint_kept (h : Host) (e : Event) (k : Nat) (lint : Lint) (hk : h.lints[k]? = some lint)
    (he : ¬ ∃ request reply, e = .lintDone k reply ∧ lint = ⟨request, none⟩) :
    (h.step e).lints[k]? = some lint := by
  cases e with
  | lint document =>
    rw [lints_step_lint]
    split
    · rw [List.getElem?_append_left (List.getElem?_eq_some_iff.1 hk).1, hk]
    · exact hk
  | lintDone j reply =>
    by_cases hj : ∃ request, h.lints[j]? = some ⟨request, none⟩
    · obtain ⟨request, hj⟩ := hj
      have hjk : j ≠ k := by
        rintro rfl
        rw [hj] at hk
        exact he ⟨request, reply, rfl, (Option.some.inj hk).symm⟩
      rw [(h.step_lintDone j reply request hj).2, List.getElem?_set_ne hjk, hk]
    · rw [h.step_lintDone_idle j reply fun request hr => hj ⟨request, hr⟩, hk]
  | formatDone k reply answer => rw [lints_step_formatDone, hk]
  | _ => exact hk

/-- what every reachable state keeps: the lints drew growing tokens, all from the counter, and run the linter -/
structure Inv (h : Host) : Prop where
  sorted : (h.requests.map LintRequest.token).Pairwise (· < ·)
  drawn : ∀ r ∈ h.requests, r.token ≤ h.registry.issued
  lint : ∀ r ∈ h.requests, r.command.mode = .lint

theorem inv_create (root : Path) (store : Store) (builtIn : String) : (create root store builtIn).Inv := by
  constructor <;> simp [create, requests]

theorem inv_step (h : Host) (e : Event) (hi : h.Inv) : (h.step e).Inv := by
  rcases h.requests_step e with ⟨hr, hissued⟩ | ⟨document, -, -, hr, hissued⟩
  · refine ⟨?_, ?_, ?_⟩
    · rw [hr]; exact hi.sorted
    · rw [hr]; exact fun r hm => Nat.le_trans (hi.drawn r hm) hissued
    · rw [hr]; exact hi.lint
  · refine ⟨?_, ?_, ?_⟩
    · rw [hr, List.map_append, List.pairwise_append]
      refine ⟨hi.sorted, List.pairwise_singleton _ _, fun t ht u hu => ?_⟩
      obtain ⟨r, hm, rfl⟩ := List.mem_map.1 ht
      have := hi.drawn r hm
      simp only [List.map_cons, List.map_nil, List.mem_singleton] at hu
      omega
    · rw [hr, hissued]
      intro r hm
      rcases List.mem_append.1 hm with hm | hm
      · exact Nat.le_succ_of_le (hi.drawn r hm)
      · exact Nat.le_of_eq (by rw [List.mem_singleton.1 hm])
    · rw [hr]
      intro r hm
      rcases List.mem_append.1 hm with hm | hm
      · exact hi.lint r hm
      · rw [List.mem_singleton.1 hm]; rfl

theorem inv_run (h : Host) (events : List Event) (hi : h.Inv) : (h.run events).Inv := by
  induction events generalizing h with
  | nil => exact hi
  | cons e events ih => exact ih _ (h.inv_step e hi)

/-- a token names one lint -/
theorem Inv.place_of_token {h : Host} (hi : h.Inv) {i j : Nat} {r s : LintRequest} {x y : Option Reply}
    (hr : h.lints[i]? = some ⟨r, x⟩) (hs : h.lints[j]? = some ⟨s, y⟩) (ht : r.token = s.token) : i = j := by
  have hnd : (h.requests.map LintRequest.token).Nodup := hi.sorted.imp fun hlt => Nat.ne_of_lt hlt
  have hri : (h.requests.map LintRequest.token)[i]? = some r.token := by simp [requests, hr]
  have hsj : (h.requests.map LintRequest.token)[j]? = some s.token := by simp [requests, hs]
  have hlt := (List.getElem?_eq_some_iff.1 hri).1
  refine (List.getElem?_inj hlt hnd).1 ?_
  rw [hri, hsj, ht]

end Host

end ScriptBridge
