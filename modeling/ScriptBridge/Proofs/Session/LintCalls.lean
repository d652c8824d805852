/-
Whole lints. A lint is asked for, its run goes on while anything may happen to the session, and the caller is told what
came of it. Each outcome says one thing about the snapshot, the run and the token, and what the registry then holds is
what the outcome says.

- `lintDocument_off`, `lintDocument_on`: the two ways of a lint, by its snapshot.
- `outcome_cases`: the three outcomes of a completion; `published_iff`, `superseded_iff`, `failed_with_iff`: when each of
  them is told; `diagnostics_of_published`, `unchanged_of_superseded`: what it leaves.
- `session_lintDocument`: a lint during whose run some events happen is its start, these events and its end.
- `lint_outcome_exact`: the outcomes of a whole lint, in every state that a host reaches.
-/
import ScriptBridge.Proofs.Session.Invocations
import ScriptBridge.Proofs.Session.Outcomes
import ScriptBridge.Proofs.Tool.Failures

namespace ScriptBridge

namespace Session

/-! ## The end of a lint -/

section

variable (s : Session) (request : LintRequest) (reply : Reply)

/-- a completed lint failed, was published or is superseded -/
theorem outcome_cases :
    (∃ error, decodeLintReply request.document request.command reply = .error error ∧
      (s.completeLint request reply).2 = .failed error.message) ∨
    (∃ found, decodeLintReply request.document request.command reply = .ok found ∧
      s.results.registry.latest? request.document.id = some request.token ∧
      (s.completeLint request reply).2 = .published found) ∨
    (∃ found, decodeLintReply request.document request.command reply = .ok found ∧
      s.results.registry.latest? request.document.id ≠ some request.token ∧
      (s.completeLint request reply).2 = .superseded) := by
  rw [outcome_completeLint]
  cases decodeLintReply request.document request.command reply with
  | error e => exact .inl ⟨e, rfl, rfl⟩
  | ok found =>
    by_cases hcurrent : s.results.registry.isCurrent request.document.id request.token = true
    · exact .inr (.inl ⟨found, rfl, (Registry.isCurrent_iff _ _ _).1 hcurrent, by simp [hcurrent]⟩)
    · exact .inr (.inr ⟨found, rfl, mt (Registry.isCurrent_iff _ _ _).2 hcurrent, by simp [hcurrent]⟩)

theorem published_iff (found : List Diagnostic) (hc : request.command.mode = .lint) :
    (s.completeLint request reply).2 = .published found ↔
      s.results.registry.latest? request.document.id = some request.token ∧
        ∃ outcome, reply = .ok outcome ∧ (outcome.exitCode = 0 ∨ outcome.exitCode = 1) ∧
          found = decodeLint outcome.stdout request.document := by
  rw [← decodeLintReply_eq_ok _ request.command _ _ hc]
  rcases s.outcome_cases request reply with ⟨e, hd, ho⟩ | ⟨other, hd, hlatest, ho⟩ | ⟨other, hd, hlatest, ho⟩
  · simp [hd, ho]
  · simp [hd, ho, hlatest]
  · simp [ho, hlatest]

theorem superseded_iff (hc : request.command.mode = .lint) :
    (s.completeLint request reply).2 = .superseded ↔
      s.results.registry.latest? request.document.id ≠ some request.token ∧
        ∃ outcome, reply = .ok outcome ∧ (outcome.exitCode = 0 ∨ outcome.exitCode = 1) := by
  have hfound : (∃ outcome, reply = .ok outcome ∧ (outcome.exitCode = 0 ∨ outcome.exitCode = 1)) ↔
      ∃ found, decodeLintReply request.document request.command reply = .ok found := by
    simp only [decodeLintReply_eq_ok _ _ _ _ hc]
    constructor
    · rintro ⟨outcome, hreply, hcode⟩
      exact ⟨_, outcome, hreply, hcode, rfl⟩
    · rintro ⟨_, outcome, hreply, hcode, -⟩
      exact ⟨outcome, hreply, hcode⟩
  rw [hfound]
  rcases s.outcome_cases request reply with ⟨e, hd, ho⟩ | ⟨found, hd, hlatest, ho⟩ | ⟨found, hd, hlatest, ho⟩
  · simp [hd, ho]
  · simp [ho, hlatest]
  · simp [hd, ho, hlatest]

theorem failed_with_iff (message : String) :
    (s.completeLint request reply).2 = .failed message ↔
      ∃ error, RunFailed request.command reply error ∧ message = error.message := by
  simp only [← decodeLintReply_eq_error request.document]
  rcases s.outcome_cases request reply with ⟨e, hd, ho⟩ | ⟨found, hd, -, ho⟩ | ⟨found, hd, -, ho⟩
  · simp [hd, ho, eq_comm]
  · simp [hd, ho]
  · simp [hd, ho]

theorem not_disabled : (s.completeLint request reply).2 ≠ .disabled := by
  rcases s.outcome_cases request reply with ⟨e, -, ho⟩ | ⟨found, -, -, ho⟩ | ⟨found, -, -, ho⟩ <;> simp [ho]

/-- findings that are told as published are shown -/
theorem diagnostics_of_published (found : List Diagnostic) (hc : request.command.mode = .lint)
    (h : (s.completeLint request reply).2 = .published found) :
    (s.completeLint request reply).1.diagnostics request.document.id = some found := by
  obtain ⟨hlatest, hreply⟩ := (s.published_iff request reply found hc).1 h
  have hfound := (decodeLintReply_eq_ok _ request.command _ _ hc).2 hreply
  have hcurrent := (Registry.isCurrent_iff _ _ _).2 hlatest
  simp [diagnostics, registry_completeLint, Registry.get?, Registry.slot_settle, hcurrent, hfound, Except.toOption]

/-- a lint that is told as superseded changes nothing at its end -/
theorem unchanged_of_superseded (hc : request.command.mode = .lint)
    (h : (s.completeLint request reply).2 = .superseded) : (s.completeLint request reply).1 = s := by
  obtain ⟨hstale, outcome, hreply, hcode⟩ := (s.superseded_iff request reply hc).1 h
  have hfound := (decodeLintReply_eq_ok request.document request.command reply _ hc).2 ⟨outcome, hreply, hcode, rfl⟩
  have hrefused : (s.results.registry.settle request.document.id request.token
      (some (decodeLint outcome.stdout request.document))).2 = false := by
    rw [Registry.settle_ok, ← Bool.not_eq_true, Registry.isCurrent_iff]
    exact hstale
  simp only [completeLint, hfound, Results.applyLint, Registry.publish, Registry.settle_refused _ _ _ _ hrefused]

end

/-! ## The two ways of a lint -/

section

variable {σ : Type} (s : Session) (tool : ToolRun σ) (document : Document) (state : σ)

theorem lintDocument_off (hoff : s.config.enabledLint = false) :
    s.lintDocument tool document state = (.disabled, (s.startLint document).1, state) := by
  simp [lintDocument, startLint, hoff]

theorem lintDocument_on (hon : s.config.enabledLint = true) :
    s.lintDocument tool document state =
      let request : LintRequest := ⟨document, (s.results.registry.begin document.id).2, s.command .lint document⟩
      let ran := tool request.command (stdinPayload document.text) (s.startLint document).1 state
      let done := ran.2.1.completeLint request ran.1
      (done.2, done.1, ran.2.2) := by
  simp [lintDocument, startLint, hon]

/-- a lint that is refused leaves its document without a slot -/
theorem slot_startLint_off (hoff : s.config.enabledLint = false) :
    (s.startLint document).1.results.registry.slots.get? document.id = none := by
  rw [registry_startLint, if_neg (by simp [hoff])]
  simp

end

end Session

namespace Host

/-! ## Events while a lint runs -/

/-- a run of the tool during which some events happen to a host -/
def meanwhile (events : List Event) (reply : Reply) : ToolRun Host := fun _ _ s h =>
  let h := { h with session := s }.run events
  (reply, h.session, h)

/-- a lint stays under way as long as its run goes on -/
theorem underWay_run (h : Host) (events : List Event) (k : Nat) (request : LintRequest)
    (hk : h.lints[k]? = some ⟨request, none⟩) (hopen : ∀ reply, Event.lintDone k reply ∉ events) :
    (h.run events).lints[k]? = some ⟨request, none⟩ := by
  induction events generalizing h with
  | nil => exact hk
  | cons e events ih =>
    refine ih _ (h.lint_kept e k _ hk ?_) fun reply hmem => hopen reply (List.mem_cons_of_mem _ hmem)
    rintro ⟨-, reply, rfl, -⟩
    exact hopen reply List.mem_cons_self

theorem session_step_lintDone (h : Host) (k : Nat) (reply : Reply) (request : LintRequest)
    (hk : h.lints[k]? = some ⟨request, none⟩) :
    (h.step (.lintDone k reply)).session = (h.session.completeLint request reply).1 := by
  simp only [step, hk]

/-- a whole lint during whose run some events happen is its start, these events, and its end -/
theorem session_lintDocument (h : Host) (document : Document) (during : List Event) (reply : Reply)
    (hon : h.session.config.enabledLint = true)
    (hopen : ∀ other, Event.lintDone h.lints.length other ∉ during) :
    (h.session.lintDocument (meanwhile during reply) document (h.step (.lint document))).2.1 =
      (h.run (.lint document :: during ++ [.lintDone h.lints.length reply])).session := by
  have hstart : (h.step (.lint document)).lints[h.lints.length]? =
      some ⟨⟨document, (h.registry.begin document.id).2, h.session.command .lint document⟩, none⟩ := by
    rw [lints_step_lint, if_pos hon, List.getElem?_concat_length, Registry.begin_token]
  have hrunning := underWay_run _ during _ _ hstart hopen
  have hrun : h.run (.lint document :: during ++ [.lintDone h.lints.length reply]) =
      ((h.step (.lint document)).run during).step (.lintDone h.lints.length reply) := by
    rw [run_snoc]
    rfl
  rw [hrun, session_step_lintDone _ _ _ _ hrunning, Session.lintDocument_on _ _ _ _ hon]
  rfl

/-! ## Main result -/

/-- **The outcome of a lint is what happened.** In every state that a host reaches, for every document, and whatever
happens to the session while the tool runs: findings are told as published exactly if the snapshot had linting on, the
run ended with exit code 0 or 1, and the token of the lint was then still the latest of its document; they are the
findings in the output of the run, and the document shows them. A lint is told as superseded exactly if linting was on
and the run ended so, but the token was no longer the latest; its end then changes nothing. A lint is told as disabled
exactly if the snapshot had linting off; the tool is not run, and the document is left without a slot. It is told as
failed, with the reason, exactly if linting was on and the run failed. A lint with events of the host during its run is
the start of the lint, these events, and its end. -/
theorem lint_outcome_exact (root : Path) (store : Store) (builtIn : String) (events : List Event)
    (document : Document) :
    let h := (create root store builtIn).run events
    let s := h.session
    (∀ {σ : Type} (tool : ToolRun σ) (state : σ),
      let call := s.lintDocument tool document state
      let ran := tool (s.command .lint document) (stdinPayload document.text) (s.startLint document).1 state
      let token := (s.results.registry.begin document.id).2
      let current := ran.2.1.results.registry.latest? document.id = some token
      (∀ found, call.1 = .published found ↔ s.config.enabledLint = true ∧ current ∧
        ∃ outcome, ran.1 = .ok outcome ∧ (outcome.exitCode = 0 ∨ outcome.exitCode = 1) ∧
          found = decodeLint outcome.stdout document) ∧
      (∀ found, call.1 = .published found → call.2.1.diagnostics document.id = some found) ∧
      (call.1 = .superseded ↔ s.config.enabledLint = true ∧ ¬ current ∧
        ∃ outcome, ran.1 = .ok outcome ∧ (outcome.exitCode = 0 ∨ outcome.exitCode = 1)) ∧
      (call.1 = .superseded → call.2.1 = ran.2.1) ∧
      (call.1 = .disabled ↔ s.config.enabledLint = false) ∧
      (call.1 = .disabled → (s.lintDocument tool.noting document (state, [])).2.2.2 = [] ∧
        call.2.1.results.registry.slots.get? document.id = none) ∧
      (∀ message, call.1 = .failed message ↔ s.config.enabledLint = true ∧
        ∃ error, RunFailed (s.command .lint document) ran.1 error ∧ message = error.message)) ∧
    (∀ during reply, s.config.enabledLint = true → (∀ other, Event.lintDone h.lints.length other ∉ during) →
      (s.lintDocument (meanwhile during reply) document (h.step (.lint document))).2.1 =
        (h.run (.lint document :: during ++ [.lintDone h.lints.length reply])).session) := by
  intro h s
  refine ⟨fun {σ} tool state => ?_,
    fun during reply hon hopen => h.session_lintDocument document during reply hon hopen⟩
  intro call ran token current
  cases hlint : s.config.enabledLint with
  | false =>
    have hcall : call = (.disabled, (s.startLint document).1, state) := s.lintDocument_off tool document state hlint
    have hruns : (s.lintDocument tool.noting document (state, [])).2.2.2 = [] := by
      rw [s.lintDocument_off tool.noting document _ hlint]
    rw [hcall]
    simp [hruns, s.slot_startLint_off document hlint]
  | true =>
    let request : LintRequest := ⟨document, token, s.command .lint document⟩
    have hmode : request.command.mode = .lint := rfl
    have hcall : call = ((ran.2.1.completeLint request ran.1).2, (ran.2.1.completeLint request ran.1).1, ran.2.2) :=
      s.lintDocument_on tool document state hlint
    rw [hcall]
    refine ⟨fun found => ?_, fun found => ?_, ?_, ?_, ?_, ?_, fun message => ?_⟩
    · rw [Session.published_iff _ _ _ _ hmode, eq_self, true_and]
    · exact Session.diagnostics_of_published _ _ _ _ hmode
    · rw [Session.superseded_iff _ _ _ hmode, eq_self, true_and]
    · exact Session.unchanged_of_superseded _ _ _ hmode
    · simp [Session.not_disabled]
    · exact fun hoff => absurd hoff (Session.not_disabled _ _ _)
    · rw [Session.failed_with_iff, eq_self, true_and]

end Host

end ScriptBridge
