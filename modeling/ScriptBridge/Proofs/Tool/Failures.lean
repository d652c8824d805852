/-
How a run of the tool fails, and what is said of it. A run fails when it gives nothing back or when its exit code is not
one that its mode takes for success; nothing else makes a lint or a format fail, and the reason they give is that of the
run.

- `RunFailed`: a failed run with its reason; `check_eq_error`, `decodeLintReply_eq_error`, `edit_eq_error`: these are
  the failures of a check, of a lint and of a format.
- `decodeLintReply_eq_ok`, `edit_eq_ok`: what a run that did not fail gives.
- `Quoted`: what a failure quotes of the output; `fragment_eq`: the quotation, cut to 500 characters; `message_of_exit`:
  the wording of a bad exit code.
-/
import ScriptBridge.Proofs.Text.Trimming
import ScriptBridge.Session.Basic

namespace ScriptBridge

open Text

/-! ## Failed runs -/

/-- a run of a command failed, and why: it gave nothing back, or it ended with an exit code other than 0, and for a lint
other than 1 -/
inductive RunFailed (command : Command) : Reply → RunError → Prop where
  | lost (error : RunError) : RunFailed command (.error error) error
  | exit {outcome : Outcome} : outcome.exitCode ≠ 0 → (command.mode = .lint → outcome.exitCode ≠ 1) →
      RunFailed command (.ok outcome) (.badExit command.display outcome)

theorem accepts_iff (mode : Mode) (exitCode : Int) :
    mode.accepts exitCode = true ↔ exitCode = 0 ∨ (mode = .lint ∧ exitCode = 1) := by
  simp [Mode.accepts]

theorem check_eq_error (command : Command) (outcome : Outcome) (error : RunError) :
    outcome.check command = .error error ↔ RunFailed command (.ok outcome) error := by
  have hrefused : ¬ command.mode.accepts outcome.exitCode = true ↔
      outcome.exitCode ≠ 0 ∧ (command.mode = .lint → outcome.exitCode ≠ 1) := by
    rw [accepts_iff, not_or, not_and]
  unfold Outcome.check
  constructor
  · intro h
    split at h
    · cases h
    · next hno =>
      cases h
      exact .exit (hrefused.1 hno).1 (hrefused.1 hno).2
  · rintro (_ | ⟨hzero, hone⟩)
    rw [if_neg (hrefused.2 ⟨hzero, hone⟩)]

theorem decodeLintReply_eq_error (document : Document) (command : Command) (reply : Reply) (error : RunError) :
    decodeLintReply document command reply = .error error ↔ RunFailed command reply error := by
  cases reply with
  | error e =>
    constructor
    · rintro ⟨⟩
      exact .lost error
    · rintro ⟨⟩
      rfl
  | ok outcome =>
    rw [← check_eq_error]
    simp only [decodeLintReply]
    cases outcome.check command <;> simp [Except.map]

theorem edit_eq_error (request : FormatRequest) (reply : Reply) (error : RunError) :
    request.edit reply = .error error ↔ RunFailed request.command reply error := by
  cases reply with
  | error e =>
    constructor
    · rintro ⟨⟩
      exact .lost error
    · rintro ⟨⟩
      rfl
  | ok outcome =>
    rw [← check_eq_error]
    simp only [FormatRequest.edit, decodeFormatReply]
    cases outcome.check request.command <;> simp [Except.map]

/-- a lint whose run did not fail finds what the output says -/
theorem decodeLintReply_eq_ok (document : Document) (command : Command) (reply : Reply)
    (found : List Diagnostic) (hc : command.mode = .lint) :
    decodeLintReply document command reply = .ok found ↔
      ∃ outcome, reply = .ok outcome ∧ (outcome.exitCode = 0 ∨ outcome.exitCode = 1) ∧
        found = decodeLint outcome.stdout document := by
  cases reply with
  | error e => simp [decodeLintReply]
  | ok outcome =>
    have haccepts : command.mode.accepts outcome.exitCode = true ↔ outcome.exitCode = 0 ∨ outcome.exitCode = 1 := by
      simp [accepts_iff, hc]
    simp only [decodeLintReply, Outcome.check, haccepts, Except.ok.injEq, exists_eq_left']
    split
    · next h => simp [Except.map, h, eq_comm]
    · next h => simp [Except.map, h]

/-- a format whose run did not fail gives the replacement of the whole document -/
theorem edit_eq_ok (request : FormatRequest) (reply : Reply) (edit : TextEdit) (hc : request.command.mode = .format) :
    request.edit reply = .ok edit ↔
      ∃ outcome, reply = .ok outcome ∧ outcome.exitCode = 0 ∧ edit = ⟨request.document.fullRange, outcome.stdout⟩ := by
  cases reply with
  | error e => simp [FormatRequest.edit, decodeFormatReply]
  | ok outcome =>
    have haccepts : request.command.mode.accepts outcome.exitCode = true ↔ outcome.exitCode = 0 := by
      simp [accepts_iff, hc]
    simp only [FormatRequest.edit, decodeFormatReply, Outcome.check, haccepts, Except.ok.injEq, exists_eq_left']
    split
    · next h => simp [Except.map, h, eq_comm, decodeFormat]
    · next h => simp [Except.map, h]

/-! ## What a failure quotes -/

/-- what is quoted of the output of a run: standard error without the blanks around it; if that is blank, standard
output without the blanks around it; if that is blank as well, a remark -/
inductive Quoted (outcome : Outcome) : List Char → Prop where
  | errors {text : List Char} : TrimsTo outcome.stderr.toList text → text ≠ [] → Quoted outcome text
  | output {text : List Char} : (∀ c ∈ outcome.stderr.toList, isBlank c = true) →
      TrimsTo outcome.stdout.toList text → text ≠ [] → Quoted outcome text
  | nothing : (∀ c ∈ outcome.stderr.toList, isBlank c = true) → (∀ c ∈ outcome.stdout.toList, isBlank c = true) →
      Quoted outcome "<no output>".toList

/-- a failure quotes at most 500 characters, with dots for what is left out -/
theorem fragment_eq (outcome : Outcome) :
    ∃ text, Quoted outcome text ∧ RunError.fragment outcome.stdout outcome.stderr =
      String.ofList (if 500 < text.length then text.take 500 ++ ['.', '.', '.'] else text) := by
  have hcut (text : List Char) :
      (if 500 < text.length then text.take 500 ++ ['.', '.', '.'] else text) = RunError.cut text := rfl
  by_cases herr : trim outcome.stderr.toList = []
  · have hblank := (trim_eq_nil_iff _).1 herr
    by_cases hout : trim outcome.stdout.toList = []
    · refine ⟨_, .nothing hblank ((trim_eq_nil_iff _).1 hout), ?_⟩
      rw [hcut]
      simp only [RunError.fragment, herr, hout, List.isEmpty_nil, if_true]
      decide
    · refine ⟨_, .output hblank (trimsTo_trim _) hout, ?_⟩
      rw [hcut]
      simp [RunError.fragment, herr, hout]
  · refine ⟨_, .errors (trimsTo_trim _) herr, ?_⟩
    rw [hcut]
    simp [RunError.fragment, herr]

/-- the wording of a bad exit code: the command line, the code and the quotation -/
theorem message_of_exit (command : Command) (outcome : Outcome) (error : RunError)
    (h : RunFailed command (.ok outcome) error) :
    ∃ text, Quoted outcome text ∧ error.message =
      "Command: " ++ command.display ++ ", Code: " ++ toString outcome.exitCode ++ ", Error: " ++
        String.ofList (if 500 < text.length then text.take 500 ++ ['.', '.', '.'] else text) := by
  obtain ⟨text, hquoted, hfragment⟩ := fragment_eq outcome
  refine ⟨text, hquoted, ?_⟩
  cases h
  rw [← hfragment]
  rfl

end ScriptBridge
