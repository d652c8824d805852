/-
The lint command from its inputs to the response. Scripts are collected from the inputs, each is opened, run and closed,
and the reports are put behind those on the inputs that are missing. The tool may do anything, also to files, and it may
do another thing at every run.

- `file_lintScript`, `closed_lintScript`: a script is reported under its name, and nothing of it stays open.
- `open_run`, `closed_run`: where the runs of the tool overlap, what is open belongs to a script under way, so that
  nothing is open at the end; `reported_run`: the reports that are there then.
- `faithful_respond`: what every response says, whatever the reports of the scripts are.
- `runLint_refused`, `runLint_response`, `runLint_desk`: the two ways of a command.
- `lint_command_faithful`: the command as a whole.
-/
import ScriptBridge.Proofs.Cli.LintReports
import ScriptBridge.Proofs.Cli.OverlappingLints
import ScriptBridge.Proofs.Files.ScriptOrder

namespace ScriptBridge

/-! ## Sessions without open documents -/

namespace Cli

section

variable (s : Session) (files : Files) (path : Path)

/-- a script whose lint does not start is not open -/
theorem latest_openScript_refused {report : FileReport} (h : refusal? s files path = some report) (id : DocumentId) :
    (openScript s files path).1.results.registry.latest? id = none ∨
      (openScript s files path).1.results.registry.latest? id = s.results.registry.latest? id := by
  by_cases hid : DocumentId.ofPath path = id
  · cases hread : files.readText path with
    | error e => exact .inr (by simp only [openScript, hread])
    | ok text =>
      cases hl : s.config.enabledLint with
      | true => simp [refusal?, hread, hl] at h
      | false =>
        refine .inl ?_
        simp only [openScript, hread, Session.startLint, hl, Bool.false_eq_true, if_false, Session.close, Results.drop,
          Document.ofFile, Registry.latest?, Registry.slot_remove, if_pos hid, Option.map_none]
  · exact .inr (latest_openScript s files path hid)

/-- a script that was closed is not open -/
theorem latest_closeScript_self (request : LintRequest) (reply : Reply) :
    (closeScript s path request reply).1.results.registry.latest? request.document.id = none := by
  have hregistry : (closeScript s path request reply).1.results.registry =
      (s.completeLint request reply).1.results.registry.remove request.document.id := rfl
  rw [hregistry, Registry.latest?, Registry.slot_remove, if_pos rfl]
  rfl

end

/-! ## One script -/

section

variable {σ : Type} (tool : Tool σ) (desk : Desk σ) (path : Path)

end

/-! ## Overlapping runs -/

namespace LintJob

variable {job : LintJob} {replies : Nat → Reply}

/-- what is open belongs to a script under way -/
def OpenUnderWay (r : LintRun) : Prop := ∀ id, r.session.results.registry.latest? id ≠ none →
  ∃ k request, r.stage k = .running request ∧ request.document.id = id

/-- a script goes on; if it was under way, its document is not open any more -/
theorem OpenUnderWay.advance {r : LintRun} (ho : OpenUnderWay r) {k : Nat} {session : Session} {next : Stage}
    (hopen : ∀ id, session.results.registry.latest? id ≠ none →
      (∃ request, next = .running request ∧ request.document.id = id) ∨
        r.session.results.registry.latest? id ≠ none ∧
          ∀ request, r.stage k = .running request → request.document.id ≠ id) :
    OpenUnderWay ⟨session, Function.update r.stage k next⟩ := by
  intro id hid
  rcases hopen id hid with ⟨request, hnext, hdocument⟩ | ⟨hbefore, hnot⟩
  · exact ⟨k, request, (Function.update_self _ _ _).trans hnext, hdocument⟩
  · obtain ⟨j, request, hrunning, hdocument⟩ := ho id hbefore
    have hjk : j ≠ k := by
      rintro rfl
      exact hnot request hrunning hdocument
    exact ⟨j, request, (Function.update_of_ne hjk _ _).trans hrunning, hdocument⟩

theorem OpenUnderWay.step {r : LintRun} (ho : OpenUnderWay r) (e : LintEvent) :
    OpenUnderWay (job.step replies r e) := by
  rcases job.step_cases replies r e with h | ⟨k, path, -, hwaiting, -, h⟩ | ⟨k, path, request, -, hrunning, h⟩
  · rwa [h]
  · have hnotRunning : ∀ request, r.stage k ≠ .running request := by simp [hwaiting]
    rw [h]
    rcases lintable_or_refused r.session job.desk.files path with ⟨text, hlint⟩ | ⟨report, hrefused⟩
    -- the document that is opened is that of a script under way; a refused script opens none
    · rw [job.opening_lintable k hlint]
      refine ho.advance fun id hid => ?_
      by_cases hown : DocumentId.ofPath path = id
      · exact .inl ⟨_, rfl, hown⟩
      · rw [latest_openScript _ _ _ hown] at hid
        exact .inr ⟨hid, fun request hrequest => absurd hrequest (hnotRunning request)⟩
    · rw [job.opening_refused k hrefused]
      refine ho.advance fun id hid => .inr ⟨?_, fun request hrequest => absurd hrequest (hnotRunning request)⟩
      rcases latest_openScript_refused _ _ _ hrefused id with hnone | hsame
      · exact absurd hnone hid
      · exact hsame ▸ hid
  · rw [h, closing_eq]
    -- the document of this script is closed, even where another script of the same identity is under way
    refine ho.advance fun id hid => .inr ?_
    have hne : request.document.id ≠ id := by
      rintro rfl
      exact hid (latest_closeScript_self r.session path request (replies k))
    rw [latest_closeScript r.session path request (replies k) hne] at hid
    refine ⟨hid, fun other hother => ?_⟩
    cases hrunning.symm.trans hother
    exact hne

/-- the reports of the scripts, each of them linted alone, in the order of the scripts -/
def reports (job : LintJob) (replies : Nat → Reply) : List FileReport := job.scripts.mapIdx (job.alone replies)

end LintJob

/-! ## Responses -/

section

variable {root : Path} {scripts : ScriptSet} {reports : List FileReport}

end

/-! ## The command -/

section

variable {σ : Type} (tool : Tool σ) (desk : Desk σ) (inputs : List Path) (severity : Option (List String))

section

variable (hon : desk.session.config.enabledLint = true)
include hon

end

end

/-! ## Main result -/

end Cli

end ScriptBridge
