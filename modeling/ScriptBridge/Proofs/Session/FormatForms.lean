/-
The three forms of a format. For one document, one configuration and one reply of the tool they say the same: formatting
is off, or there is one edit, or there is one failure. Whatever other requests do to the session while the tool runs, a
format leaves the published diagnostics and the configuration as that run left them.

- `FormatRequest.edit_finished`, `FormatRequest.edit_failed`: exit code 0 gives the replacement of the whole document,
  anything else a failure.
- `completeFormat_ok`, `completeFormat_error`: a surface is handed the edit of a format once, and nothing of a failed one.
- `format_forms_agree`: the three forms side by side.
-/
import ScriptBridge.Proofs.Session.Host
import ScriptBridge.Session.Requests

namespace ScriptBridge

variable {σ τ : Type}

/-- a surface that also notes what it is handed -/
def Surface.noting (surface : Surface τ) : Surface (τ × List (Document × TextEdit)) :=
  fun document edit (shown, handed) =>
    let (answer, shown) := surface document edit shown
    (answer, shown, handed ++ [(document, edit)])

/-- a run of the formatter failed: it gave nothing back, or ended with another exit code than 0 -/
def FormatFailed (command : Command) (reply : Reply) (error : RunError) : Prop :=
  reply = .error error ∨ ∃ outcome, reply = .ok outcome ∧ outcome.exitCode ≠ 0 ∧ error = .badExit command.display outcome

theorem FormatRequest.edit_finished (request : FormatRequest) (outcome : Outcome) (hzero : outcome.exitCode = 0) :
    request.edit (.ok outcome) = .ok ⟨request.document.fullRange, outcome.stdout⟩ := by
  have haccepts : request.command.mode.accepts outcome.exitCode = true := by simp [Mode.accepts, hzero]
  simp only [FormatRequest.edit, decodeFormatReply, Outcome.check, if_pos haccepts]
  rfl

theorem FormatRequest.edit_failed (request : FormatRequest) (hmode : request.command.mode = .format) (reply : Reply)
    (error : RunError) (hf : FormatFailed request.command reply error) : request.edit reply = .error error := by
  rcases hf with rfl | ⟨outcome, rfl, hcode, rfl⟩
  · rfl
  · have haccepts : ¬ request.command.mode.accepts outcome.exitCode = true := by simp [Mode.accepts, hmode, hcode]
    simp only [FormatRequest.edit, decodeFormatReply, Outcome.check, if_neg haccepts]
    rfl

namespace Session

/-! ## Completions -/

theorem completeEdits_ok (s : Session) (request : FormatRequest) (reply : Reply) (edit : TextEdit)
    (he : request.edit reply = .ok edit) : s.completeEdits request reply = (s, [edit]) := by
  simp only [completeEdits, he]

theorem completeEdits_error (s : Session) (request : FormatRequest) (reply : Reply) (error : RunError)
    (he : request.edit reply = .error error) : (s.completeEdits request reply).2 = [] := by
  simp only [completeEdits, he]

theorem config_completeEdits (s : Session) (request : FormatRequest) (reply : Reply) :
    (s.completeEdits request reply).1.config = s.config := by
  unfold completeEdits
  split <;> rfl

/-- an edit is handed to the surface, whose answer is the answer of the format -/
theorem completeFormat_ok (s : Session) (request : FormatRequest) (reply : Reply) (surface : Surface τ) (shown : τ)
    (edit : TextEdit) (he : request.edit reply = .ok edit) :
    (s.completeFormat request reply surface shown).2 = surface request.document edit shown := by
  simp only [completeFormat, Results.applyFormat, he]
  rcases surface request.document edit shown with ⟨_ | _, _⟩ <;> rfl

/-- without an edit the surface stays as it is -/
theorem completeFormat_error (s : Session) (request : FormatRequest) (reply : Reply) (surface : Surface τ) (shown : τ)
    (error : RunError) (he : request.edit reply = .error error) :
    (s.completeFormat request reply surface shown).2 = (.error (.run error), shown) := by
  simp only [completeFormat, Results.applyFormat, he]

/-! ## Forms -/

theorem startFormat?_off (s : Session) (document : Document) (hoff : s.config.enabledFormat = false) :
    s.startFormat? document = none := by
  simp [startFormat?, hoff]

theorem startFormat?_on (s : Session) (document : Document) (hon : s.config.enabledFormat = true) :
    s.startFormat? document = some ⟨document, s.command .format document⟩ := by
  simp [startFormat?, hon]

section

variable (s : Session) (document : Document) (tool : ToolRun σ) (surface : Surface τ) (state : σ) (shown : τ)

theorem computeEdit_off (hoff : s.config.enabledFormat = false) :
    s.computeEdit tool document state = (.ok none, s, state) := by
  simp only [computeEdit, s.startFormat?_off document hoff]

theorem provideEdits_off (hoff : s.config.enabledFormat = false) :
    s.provideEdits tool document state = ([], s, state) := by
  simp only [provideEdits, s.startFormat?_off document hoff]

theorem formatDocument_off (hoff : s.config.enabledFormat = false) :
    s.formatDocument tool surface document state shown = (.ok false, s, state, shown) := by
  simp only [formatDocument, s.startFormat?_off document hoff]

theorem computeEdit_on (hon : s.config.enabledFormat = true) :
    s.computeEdit tool document state =
      let request : FormatRequest := ⟨document, s.command .format document⟩
      let ran := tool request.command (stdinPayload document.text) s state
      ((request.edit ran.1).map some, ran.2) := by
  simp only [computeEdit, s.startFormat?_on document hon]

theorem provideEdits_on (hon : s.config.enabledFormat = true) :
    s.provideEdits tool document state =
      let request : FormatRequest := ⟨document, s.command .format document⟩
      let ran := tool request.command (stdinPayload document.text) s state
      let done := ran.2.1.completeEdits request ran.1
      (done.2, done.1, ran.2.2) := by
  simp only [provideEdits, s.startFormat?_on document hon]

theorem formatDocument_on (hon : s.config.enabledFormat = true) :
    s.formatDocument tool surface document state shown =
      let request : FormatRequest := ⟨document, s.command .format document⟩
      let ran := tool request.command (stdinPayload document.text) s state
      let done := ran.2.1.completeFormat request ran.1 surface shown
      (done.2.1.map fun _ => true, done.1, ran.2.2, done.2.2) := by
  simp only [formatDocument, s.startFormat?_on document hon]

end

/-- **The three forms of a format agree.** When formatting is off, there is no edit, the tool is not run and nothing
changes. Otherwise each form runs the tool once, with the same command and input. If the run ends with exit code 0, the
edit replaces the whole document by its output: it is computed, provided as the only one, or handed to the surface once,
and the format succeeds exactly if the surface accepts it. If the run fails in any way, that failure is the answer,
no edit is provided, and the surface is handed nothing. In every case the diagnostics and the configuration are left as
the run of the tool left them. -/
theorem format_forms_agree (s : Session) (document : Document) (tool : ToolRun σ) (surface : Surface τ) (state : σ)
    (shown : τ) :
    let computed := s.computeEdit tool document state
    let provided := s.provideEdits tool document state
    let formatted := s.formatDocument tool surface document state shown
    let handed := (s.formatDocument tool surface.noting document state (shown, [])).2.2.2.2
    let command := s.command .format document
    let ran := tool command (stdinPayload document.text) s state
    (s.config.enabledFormat = false →
      computed = (.ok none, s, state) ∧ provided = ([], s, state) ∧ formatted = (.ok false, s, state, shown) ∧
        handed = []) ∧
    (s.config.enabledFormat = true →
      (computed.2 = ran.2 ∧ provided.2.2 = ran.2.2 ∧ formatted.2.2.1 = ran.2.2) ∧
      (∀ outcome, ran.1 = .ok outcome → outcome.exitCode = 0 →
        let edit : TextEdit := ⟨document.fullRange, outcome.stdout⟩
        computed.1 = .ok (some edit) ∧ provided.1 = [edit] ∧ handed = [(document, edit)] ∧
          formatted.2.2.2 = (surface document edit shown).2 ∧
          formatted.1 = ((surface document edit shown).1.map fun _ => true) ∧
          (formatted.1 = .ok true ↔ (surface document edit shown).1 = .ok ())) ∧
      (∀ error, FormatFailed command ran.1 error →
        computed.1 = .error error ∧ provided.1 = [] ∧ handed = [] ∧ formatted.2.2.2 = shown ∧
          formatted.1 = .error (.run error)) ∧
      (provided.2.1.results.registry = ran.2.1.results.registry ∧ provided.2.1.config = ran.2.1.config) ∧
      (formatted.2.1.results.registry = ran.2.1.results.registry ∧ formatted.2.1.config = ran.2.1.config)) := by
  intro computed provided formatted handed command ran
  refine ⟨fun hoff => ⟨?_, ?_, ?_, ?_⟩, fun hon => ?_⟩
  · exact s.computeEdit_off document tool state hoff
  · exact s.provideEdits_off document tool state hoff
  · exact s.formatDocument_off document tool surface state shown hoff
  · simp only [handed, s.formatDocument_off document tool surface.noting state _ hoff]
  · let request : FormatRequest := ⟨document, command⟩
    let edits := ran.2.1.completeEdits request ran.1
    let format := ran.2.1.completeFormat request ran.1 surface shown
    let noted := ran.2.1.completeFormat request ran.1 surface.noting (shown, [])
    have hcomputed : computed = ((request.edit ran.1).map some, ran.2) := s.computeEdit_on document tool state hon
    have hprovided : provided = (edits.2, edits.1, ran.2.2) := s.provideEdits_on document tool state hon
    have hformatted : formatted = (format.2.1.map fun _ => true, format.1, ran.2.2, format.2.2) :=
      s.formatDocument_on document tool surface state shown hon
    have hhanded : handed = noted.2.2.2 :=
      congrArg (·.2.2.2.2) (s.formatDocument_on document tool surface.noting state (shown, []) hon)
    rw [hcomputed, hprovided, hformatted, hhanded]
    refine ⟨⟨rfl, rfl, rfl⟩, fun outcome hran hzero => ?_, fun error hf => ?_, ⟨?_, ?_⟩, ⟨?_, ?_⟩⟩
    · have he : request.edit ran.1 = .ok ⟨document.fullRange, outcome.stdout⟩ := by
        rw [hran]
        exact request.edit_finished outcome hzero
      have hedits : edits = (ran.2.1, [⟨document.fullRange, outcome.stdout⟩]) := completeEdits_ok _ _ _ _ he
      have hformat : format.2 = surface document _ shown := completeFormat_ok _ _ _ surface shown _ he
      have hnoted : noted.2 = surface.noting document _ (shown, []) := completeFormat_ok _ _ _ _ _ _ he
      rw [he, hedits, hformat, hnoted]
      refine ⟨rfl, rfl, rfl, rfl, rfl, ?_⟩
      cases (surface document ⟨document.fullRange, outcome.stdout⟩ shown).1 <;> simp [Except.map]
    · have he : request.edit ran.1 = .error error := request.edit_failed rfl ran.1 error hf
      have hformat : format.2 = (.error (.run error), shown) := completeFormat_error _ _ _ surface shown _ he
      have hnoted : noted.2 = (.error (.run error), (shown, [])) := completeFormat_error _ _ _ _ _ _ he
      rw [he, hformat, hnoted]
      exact ⟨rfl, completeEdits_error _ _ _ _ he, rfl, rfl, rfl⟩
    · exact registry_completeEdits ..
    · exact config_completeEdits ..
    · exact registry_completeFormat ..
    · rfl

end Session

end ScriptBridge
