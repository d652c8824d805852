/-
Exit codes. A run that was given a task prints one object, which says whether the task succeeded. There are two ways to
fail: an error ends the program, or a command reports its failure and ends as usual. Only the first way gives the exit
code 2; a failure that was reported gives 0, like a success.

- `json_report`: every report is an object that says whether it is a success.
- `Aborts`, `Declines`: the failures of a task that end the program, and those that a command reports.
- `perform_aborts`, `perform_declines`, `perform_succeeds`: these are all of them.
- `runArguments_cases`: the three ways in which a run ends.
- `exit_code_iff`: the exit code tells a failure from a success exactly if no command reported its failure;
  `reported_failure_exits_zero`: a run where it does not.
-/
import ScriptBridge.Cli.Program
import ScriptBridge.Proofs.Settings.Layers
import ScriptBridge.Proofs.Tool.Failures

namespace ScriptBridge

/-! ## Reports -/

theorem Json.lookup_putField (key : String) (value : Json) (fields : List (String × Json)) :
    (Json.putField key value fields).lookup key = some value := by
  induction fields with
  | nil => simp [Json.putField]
  | cons field fields ih =>
    simp only [Json.putField]
    split
    · simp
    · next hne => rw [List.lookup_cons, beq_false_of_ne (Ne.symm hne), ih]

/-- a report is an object that says whether it is a success -/
theorem Report.json_report (report : Report) :
    (∃ fields, report.json = .object fields) ∧
      report.json.field? "success" = some (.bool report.succeeded) := by
  cases report with
  | success fields => exact ⟨⟨_, rfl⟩, Json.lookup_putField _ _ _⟩
  | failure message => exact ⟨⟨_, rfl⟩, rfl⟩

namespace Cli

variable {σ : Type} (tool : Tool σ) (desk : Desk σ)

/-! ## Failures of a task -/

/-- the request to format a document -/
def Desk.formatRequest (document : Document) : FormatRequest := ⟨document, desk.session.command .format document⟩

/-- what the tool gives back for it -/
def Desk.formatRun (document : Document) : Reply × Files × σ :=
  tool (desk.session.command .format document) (stdinPayload document.text) desk.files desk.state

/-- the format of a file runs the tool on a document -/
def Desk.Formats (desk : Desk σ) (file : Path) (document : Document) : Prop :=
  desk.session.config.enabledFormat = true ∧ ∃ text,
    desk.files.readText (desk.session.root.join file) = .ok text ∧
      document = .ofFile (desk.session.root.join file) text

/-- a task fails with an error that ends the program: its file cannot be read, or its formatted text not be written -/
inductive Aborts : Task → Prop where
  | unreadable {file : Path} {write : Bool} {cause : FileError} :
      desk.files.readText (desk.session.root.join file) = .error cause → Aborts (.format file write)
  | unwritable {file : Path} {document : Document} {outcome : Outcome} {cause : FormatError} :
      desk.Formats file document → (desk.formatRun tool document).1 = .ok outcome → outcome.exitCode = 0 →
      (saveEdit document ⟨document.fullRange, outcome.stdout⟩ (desk.formatRun tool document).2.1).1 = .error cause →
      Aborts (.format file true)

/-- a task fails, and its command reports it: the run of the formatter fails, linting is off, a word that should name a
severity names none, or the settings file is not made -/
inductive Declines : Task → Prop where
  | formatFailed {file : Path} {write : Bool} {document : Document} {error : RunError} :
      desk.Formats file document →
      RunFailed (desk.session.command .format document) (desk.formatRun tool document).1 error →
      Declines (.format file write)
  | lintOff {paths : List Path} {severity : Option (List String)} {jobs : Nat} :
      desk.session.config.enabledLint = false → Declines (.lint paths severity jobs)
  | noSeverity {paths : List Path} {words : List String} {jobs : Nat} {word : String} :
      word ∈ words → (∀ s : Severity, Text.trimmed word ≠ s.token) → Declines (.lint paths (some words) jobs)
  | notMade {level : SettingsLevel} {force : Bool} {error : SettingsError} :
      (desk.settings.init desk.files level force).2 = .error error → Declines (.init level force)

variable {tool desk}

/-! ### Formats -/

section

variable {file : Path} {write : Bool} {document : Document}

theorem runFormat_unreadable {cause : FileError}
    (hread : desk.files.readText (desk.session.root.join file) = .error cause) :
    ∃ message, (runFormat tool desk file write).1 = .error message := by
  unfold runFormat
  simp only [hread]
  exact ⟨_, rfl⟩

theorem runFormat_disabled {text : String}
    (hread : desk.files.readText (desk.session.root.join file) = .ok text)
    (hoff : desk.session.config.enabledFormat = false) :
    runFormat tool desk file write =
      (.ok (FormatResult.disabled.report (shownName desk.session.root (desk.session.root.join file))), desk) := by
  unfold runFormat
  simp only [hread, Session.startFormat?, hoff]
  rfl

/-- a format whose run failed reports why, and the files are what the tool left -/
theorem runFormat_failed (h : desk.Formats file document) {error : RunError}
    (hf : RunFailed (desk.session.command .format document) (desk.formatRun tool document).1 error) :
    runFormat tool desk file write = (.ok (.failure ("Formatting failed: " ++ error.message)),
      { desk with files := (desk.formatRun tool document).2.1, state := (desk.formatRun tool document).2.2 }) := by
  have he := (edit_eq_error (desk.formatRequest document) _ _).2 hf
  obtain ⟨hon, text, hread, rfl⟩ := h
  simp only [Desk.formatRun, Desk.formatRequest] at he
  unfold runFormat
  simp only [hread, Session.startFormat?, hon, if_true, Desk.runTool, he, Desk.formatRun]

/-- a format whose run did not fail comes to what becomes of the edit -/
theorem runFormat_edited (h : desk.Formats file document) {outcome : Outcome}
    (hran : (desk.formatRun tool document).1 = .ok outcome) (hzero : outcome.exitCode = 0) :
    runFormat tool desk file write =
      let applied := applyFormatted document ⟨document.fullRange, outcome.stdout⟩ write
        (desk.formatRun tool document).2.1
      (applied.1.map fun r => r.report (shownName desk.session.root (desk.session.root.join file)),
        { desk with files := applied.2, state := (desk.formatRun tool document).2.2 }) := by
  have he := (edit_eq_ok (desk.formatRequest document) _ _ rfl).2 ⟨outcome, hran, hzero, rfl⟩
  obtain ⟨hon, text, hread, rfl⟩ := h
  simp only [Desk.formatRun, Desk.formatRequest] at he
  unfold runFormat
  simp only [hread, Session.startFormat?, hon, if_true, Desk.runTool, he, Desk.formatRun]

/-- an edit of a file fails exactly if it is to be written and cannot be -/
theorem applyFormatted_eq_error {path : Path} (hpath : document.path = some path) (edit : TextEdit) (files : Files) :
    (∃ message, (applyFormatted document edit write files).1 = .error message) ↔
      write = true ∧ ∃ cause, (saveEdit document edit files).1 = .error cause := by
  by_cases hsame : document.apply edit = document.text
  · simp [applyFormatted, saveEdit, hpath, hsame]
  · rcases hsaved : saveEdit document edit files with ⟨cause | _, after⟩ <;> cases write <;>
      simp [applyFormatted, hsame, hsaved]

end

/-! ### Lints -/

theorem ofToken?_eq_none (token : String) : Severity.ofToken? token = none ↔ ∀ s : Severity, token ≠ s.token := by
  constructor
  · rintro h s rfl
    cases h.symm.trans s.ofToken?_token
  · intro h
    cases hs : Severity.ofToken? token with
    | none => rfl
    | some s => exact absurd (Severity.ofToken?_eq_some hs) (h s)

theorem readSeverities_cons (word : String) (words : List String) :
    readSeverities (word :: words) =
      match Severity.ofToken? (Text.trimmed word) with
      | some s => (readSeverities words).map (s :: ·)
      | none => .error ("Unknown severity '" ++ word ++ "' (expected error or warning)") := by
  simp only [readSeverities, List.mapM_cons]
  cases Severity.ofToken? (Text.trimmed word) <;> rfl

/-- a selection of severities is refused exactly if one of its words names none -/
theorem readSeverities_eq_error (words : List String) :
    (∃ message, readSeverities words = .error message) ↔
      ∃ word ∈ words, ∀ s : Severity, Text.trimmed word ≠ s.token := by
  simp only [← ofToken?_eq_none]
  induction words with
  | nil => simp [readSeverities, pure, Except.pure]
  | cons word words ih =>
    rw [readSeverities_cons, List.exists_mem_cons_iff, ← ih]
    cases Severity.ofToken? (Text.trimmed word) with
    | none => simp
    | some s => cases readSeverities words <;> simp [Except.map]

/-! ### Any task -/

section

variable {task : Task}

/-- a task that is aborted ends with an error -/
theorem perform_aborts (h : Aborts tool desk task) : ∃ message, (perform tool desk task).1 = .error message := by
  cases h with
  | unreadable hread => exact runFormat_unreadable hread
  | @unwritable file document outcome cause hformats hran hzero hsave =>
    obtain ⟨path, hpath⟩ : ∃ path, document.path = some path := by
      obtain ⟨-, text, -, rfl⟩ := hformats
      exact ⟨_, rfl⟩
    obtain ⟨message, hm⟩ := (applyFormatted_eq_error hpath _ _).2 ⟨rfl, cause, hsave⟩
    have hending : (runFormat tool desk file true).1 = _ := congrArg Prod.fst (runFormat_edited hformats hran hzero)
    exact ⟨message, hending.trans (by simp only [hm]; rfl)⟩

/-- a task that is declined ends with the report of a failure -/
theorem perform_declines (h : Declines tool desk task) :
    ∃ message, (perform tool desk task).1 = .ok (.failure message) := by
  cases h with
  | formatFailed hformats hfailed => exact ⟨_, congrArg Prod.fst (runFormat_failed hformats hfailed)⟩
  | lintOff hoff =>
    simp only [perform, runLint, hoff]
    exact ⟨_, rfl⟩
  | @noSeverity paths words jobs word hmem hnone =>
    obtain ⟨message, hm⟩ := (readSeverities_eq_error words).2 ⟨word, hmem, hnone⟩
    simp only [perform, runLint, Option.mapM_some, hm]
    cases desk.session.config.enabledLint <;> exact ⟨_, rfl⟩
  | notMade hinit =>
    simp only [perform, runInit, hinit]
    exact ⟨_, rfl⟩

/-- any other task ends with the report of a success -/
theorem perform_succeeds (ha : ¬ Aborts tool desk task) (hd : ¬ Declines tool desk task) :
    ∃ fields, (perform tool desk task).1 = .ok (.success fields) := by
  cases task with
  | format file write =>
    cases hread : desk.files.readText (desk.session.root.join file) with
    | error cause => exact absurd (.unreadable hread) ha
    | ok text =>
      cases hon : desk.session.config.enabledFormat with
      | false => exact ⟨_, congrArg Prod.fst (runFormat_disabled hread hon)⟩
      | true =>
        let document := Document.ofFile (desk.session.root.join file) text
        have hformats : desk.Formats file document := ⟨hon, text, hread, rfl⟩
        have hpath : document.path = some (desk.session.root.join file) := rfl
        cases he : (desk.formatRequest document).edit (desk.formatRun tool document).1 with
        | error e => exact absurd (.formatFailed hformats ((edit_eq_error _ _ _).1 he)) hd
        | ok edit =>
          obtain ⟨outcome, hran, hzero, rfl⟩ := (edit_eq_ok _ _ _ rfl).1 he
          have hresult : (runFormat tool desk file write).1 = _ :=
            congrArg Prod.fst (runFormat_edited hformats hran hzero)
          cases happlied : (applyFormatted document ⟨document.fullRange, outcome.stdout⟩ write
              (desk.formatRun tool document).2.1).1 with
          | error message =>
            obtain ⟨rfl, cause, hsave⟩ := (applyFormatted_eq_error hpath _ _).1 ⟨message, happlied⟩
            exact absurd (.unwritable hformats hran hzero hsave) ha
          | ok r => exact ⟨_, hresult.trans (by simp only [happlied]; rfl)⟩
  | lint paths severity jobs =>
    have hon : desk.session.config.enabledLint = true := by
      by_contra hoff
      exact hd (.lintOff (Bool.not_eq_true _ ▸ hoff))
    cases severity with
    | none =>
      simp only [perform, runLint, hon]
      exact ⟨_, rfl⟩
    | some words =>
      cases hread : readSeverities words with
      | error message =>
        obtain ⟨word, hmem, hnone⟩ := (readSeverities_eq_error words).1 ⟨message, hread⟩
        exact absurd (.noSeverity hmem hnone) hd
      | ok allowed =>
        simp only [perform, runLint, hon, Option.mapM_some, hread]
        exact ⟨_, rfl⟩
  | init level force =>
    rcases hinit : desk.settings.init desk.files level force with ⟨files, error | path⟩
    · exact absurd (.notMade (congrArg Prod.snd hinit)) hd
    · simp only [perform, runInit, hinit]
      exact ⟨_, rfl⟩
  | display => exact ⟨_, rfl⟩
  | path level => exact ⟨_, rfl⟩

end

/-! ## Whole runs -/

section

variable (around : Surroundings) (a : Arguments) (files : Files) (state : σ)

/-- one of the two settings files of a run is there but holds no settings -/
def SettingsBroken : Prop :=
  FileBroken files (settingsOf around a).userPath ∨ FileBroken files (settingsOf around a).projectPath

/-- the desk at which a run whose settings were loaded does its task -/
def deskOf : Desk σ :=
  let settings := ((settingsOf around a).reload files around.executable).1
  ⟨.create around.folder settings.values (a.builtIn.getD (defaultBuiltIn around.program).text), settings, files, state⟩

variable {around a files} {tool : Tool σ}

theorem runArguments_broken (h : SettingsBroken around a files) :
    ∃ message, (runArguments tool around a files state).1 = .aborted message := by
  obtain ⟨e, he⟩ := (settingsOf around a).load_of_broken files around.executable h
  have hreload := (settingsOf around a).reload_of_error files around.executable he
  refine ⟨"Failed to load settings: " ++ e.message, ?_⟩
  unfold runArguments
  simp only [hreload]

theorem reload_of_sound (h : ¬ SettingsBroken around a files) :
    ∃ settings, (settingsOf around a).reload files around.executable = (settings, .ok ()) := by
  have hok := ((settingsOf around a).reload_ok_iff files around.executable).2 (not_or.1 h)
  exact ⟨_, Prod.ext rfl hok⟩

theorem runArguments_report (h : ¬ SettingsBroken around a files) {report : Report}
    (hreport : (perform tool (deskOf around a files state) a.task).1 = .ok report) :
    (runArguments tool around a files state).1 = .ofReport 0 report := by
  obtain ⟨settings, hreload⟩ := reload_of_sound h
  unfold runArguments
  simp only [deskOf, hreload] at hreport ⊢
  rw [hreport]

theorem runArguments_error (h : ¬ SettingsBroken around a files) {message : String}
    (herror : (perform tool (deskOf around a files state) a.task).1 = .error message) :
    (runArguments tool around a files state).1 = .aborted message := by
  obtain ⟨settings, hreload⟩ := reload_of_sound h
  unfold runArguments
  simp only [deskOf, hreload] at herror ⊢
  rw [herror]

/-- a run ends in one of three ways: with an error, with the report of a failure, or with that of a success -/
theorem runArguments_cases (tool : Tool σ) (around : Surroundings) (a : Arguments) (files : Files) (state : σ) :
    let ending := (runArguments tool around a files state).1
    let broken := SettingsBroken around a files
    let aborts := Aborts tool (deskOf around a files state) a.task
    let declines := Declines tool (deskOf around a files state) a.task
    ((broken ∨ aborts ∧ ¬ declines) ∧ ∃ message, ending = .aborted message) ∨
      ((¬ broken ∧ ¬ aborts ∧ declines) ∧ ∃ message, ending = .ofReport 0 (.failure message)) ∨
      ((¬ broken ∧ ¬ aborts ∧ ¬ declines) ∧ ∃ fields, ending = .ofReport 0 (.success fields)) := by
  intro ending broken aborts declines
  by_cases hbroken : broken
  · exact .inl ⟨.inl hbroken, runArguments_broken state hbroken⟩
  by_cases haborts : aborts
  · obtain ⟨message, hm⟩ := perform_aborts haborts
    refine .inl ⟨.inr ⟨haborts, fun hdeclines => ?_⟩, message, runArguments_error state hbroken hm⟩
    obtain ⟨other, ho⟩ := perform_declines hdeclines
    cases hm.symm.trans ho
  by_cases hdeclines : declines
  · obtain ⟨message, hm⟩ := perform_declines hdeclines
    exact .inr (.inl ⟨⟨hbroken, haborts, hdeclines⟩, message, runArguments_report state hbroken hm⟩)
  · obtain ⟨fields, hf⟩ := perform_succeeds haborts hdeclines
    exact .inr (.inr ⟨⟨hbroken, haborts, hdeclines⟩, fields, runArguments_report state hbroken hf⟩)

end

/-! ## Main result -/

/-- the exit code is 2 for a failure and 0 for a success -/
def Ending.Tells (ending : Ending) (report : Report) : Prop :=
  (ending.code = 2 ↔ report.succeeded = false) ∧ (ending.code = 0 ↔ report.succeeded = true)

/-- **The exit code tells a failure unless a command reported it.** For every tool, every surroundings, every files and
all arguments that can be read: the run prints one object, which says whether it is a success. The exit code is 2
exactly if a settings file is broken, or else the task is aborted, and 0 otherwise; the object says that the run failed
exactly if one of these is so or the task is declined. Hence the exit code is 2 for a failure and 0 for a success
exactly if the settings are broken or the task is not declined. -/
theorem exit_code_iff (tool : Tool σ) (around : Surroundings) (args : List String) (files : Files) (state : σ)
    (a : Arguments) (ha : Arguments.read around.settingsFile args = .ok a) :
    let ending := (run tool around args files state).1
    let broken := SettingsBroken around a files
    let aborts := Aborts tool (deskOf around a files state) a.task
    let declines := Declines tool (deskOf around a files state) a.task
    ∃ report, ending.report = some report ∧ ending.text = report.json.pretty ++ "\n" ∧
      (∃ fields, report.json = .object fields) ∧ report.json.field? "success" = some (.bool report.succeeded) ∧
      (ending.code = 2 ↔ broken ∨ aborts) ∧ (ending.code = 0 ↔ ¬ (broken ∨ aborts)) ∧
      (report.succeeded = false ↔ broken ∨ aborts ∨ declines) ∧
      (ending.Tells report ↔ broken ∨ ¬ declines) := by
  intro ending broken aborts declines
  have hending : ending = (runArguments tool around a files state).1 := by simp only [ending, run, ha]
  rw [hending]
  rcases runArguments_cases tool around a files state with
    ⟨hway, message, hm⟩ | ⟨hway, message, hm⟩ | ⟨hway, fields, hf⟩
  · have hfails : broken ∨ aborts := hway.imp_right And.left
    have hall : broken ∨ aborts ∨ declines := or_assoc.1 (.inl hfails)
    have htells : broken ∨ ¬ declines := hway.imp_right And.right
    rw [hm]
    refine ⟨.failure message, rfl, rfl, (Report.json_report _).1, (Report.json_report _).2, ?_⟩
    simp [Ending.Tells, Ending.aborted, Ending.ofReport, Report.succeeded, hfails, hall, htells]
  · have hsound : ¬ broken := hway.1
    have hnot : ¬ aborts := hway.2.1
    have hdeclines : declines := hway.2.2
    rw [hm]
    refine ⟨.failure message, rfl, rfl, (Report.json_report _).1, (Report.json_report _).2, ?_⟩
    simp [Ending.Tells, Ending.ofReport, Report.succeeded, hsound, hnot, hdeclines]
  · have hsound : ¬ broken := hway.1
    have hnot : ¬ aborts := hway.2.1
    have hdeclines : ¬ declines := hway.2.2
    rw [hf]
    refine ⟨.success fields, rfl, rfl, (Report.json_report _).1, (Report.json_report _).2, ?_⟩
    simp [Ending.Tells, Ending.ofReport, Report.succeeded, hsound, hnot, hdeclines]

/-! ## A selection that names no severity -/

/-- an empty project -/
def emptyProject : Files := ⟨.folder [("proj", .folder [])], ["proj"]⟩

/-- a run that starts in it, of a user without a home folder -/
def inProject : Surroundings := ⟨⟨"/proj"⟩, ⟨"/opt/godot-formatter"⟩, none, none, none, none⟩

/-- a lint of the project with a severity that does not exist -/
def badSeverity : Arguments := ⟨none, none, false, .lint [⟨"."⟩] (some ["bad"]) defaultJobs⟩

/-- a tool that finds nothing and changes nothing -/
def silent : Tool Unit := fun _ _ files state => (.ok ⟨0, "", ""⟩, files, state)

theorem read_badSeverity : Arguments.read none ["lint", ".", "--severity", "bad"] = .ok badSeverity := by
  decide

theorem not_broken_of_nowhere {files : Files} {path : Path} {cause : FileError}
    (h : files.locate path true = .error cause) : ¬ FileBroken files path := by
  have hmissing : files.has path = false := by
    simp only [Files.has, Files.node, h]
    rfl
  exact (FileHolds.missing hmissing).not_broken

/-- there are no settings files in the empty project -/
theorem sound_emptyProject : ¬ SettingsBroken inProject badSeverity emptyProject := by
  have huser : pathParts "./godot-formatter/settings.toml" = (false, [".", "godot-formatter", "settings.toml"]) := rfl
  have hproject : pathParts "/proj/.godot-formatter/settings.toml" =
      (true, ["proj", ".godot-formatter", "settings.toml"]) := rfl
  have hnoUser : emptyProject.locate ⟨"./godot-formatter/settings.toml"⟩ true = .error .notFound := by
    simp [Files.locate, huser, Files.follow, emptyProject, Node.at?, Node.child?, Table.find?, Node.isFolder]
    decide
  have hnoProject : emptyProject.locate ⟨"/proj/.godot-formatter/settings.toml"⟩ true = .error .notFound := by
    simp [Files.locate, hproject, Files.follow, emptyProject, Node.at?, Node.child?, Table.find?, Node.isFolder]
    decide
  have hpaths : (settingsOf inProject badSeverity).userPath = ⟨"./godot-formatter/settings.toml"⟩ ∧
      (settingsOf inProject badSeverity).projectPath = ⟨"/proj/.godot-formatter/settings.toml"⟩ := by decide
  rw [SettingsBroken, hpaths.1, hpaths.2, not_or]
  exact ⟨not_broken_of_nowhere hnoUser, not_broken_of_nowhere hnoProject⟩

theorem declines_badSeverity (tool : Tool σ) (desk : Desk σ) : Declines tool desk badSeverity.task :=
  .noSeverity (List.mem_singleton_self "bad") fun s => by cases s <;> decide

/-- a failure that a command reports: the exit code is 0, and the object says that the run failed -/
theorem exit_code_iff_badSeverity :
    let ending := (run silent inProject ["lint", ".", "--severity", "bad"] emptyProject ()).1
    Arguments.read inProject.settingsFile ["lint", ".", "--severity", "bad"] = .ok badSeverity ∧ ending.code = 0 ∧
      ∃ report, ending.report = some report ∧ report.succeeded = false ∧ ¬ ending.Tells report := by
  obtain ⟨report, hreport, -, -, -, -, hzero, hfails, htells⟩ :=
    exit_code_iff silent inProject ["lint", ".", "--severity", "bad"] emptyProject () badSeverity read_badSeverity
  have hdeclines : Declines silent (deskOf inProject badSeverity emptyProject ()) badSeverity.task :=
    declines_badSeverity _ _
  have haborts : ¬ Aborts silent (deskOf inProject badSeverity emptyProject ()) badSeverity.task := nofun
  exact ⟨read_badSeverity, hzero.2 (not_or.2 ⟨sound_emptyProject, haborts⟩), report, hreport,
    hfails.2 (.inr (.inr hdeclines)), fun h => (htells.1 h).elim sound_emptyProject (· hdeclines)⟩

/-- the exit code does not tell every failure from a success -/
theorem reported_failure_exits_zero : ¬ ∀ {σ : Type} (tool : Tool σ) (around : Surroundings) (args : List String)
    (files : Files) (state : σ) (a : Arguments), Arguments.read around.settingsFile args = .ok a →
      let ending := (run tool around args files state).1
      ∃ report, ending.report = some report ∧ ending.text = report.json.pretty ++ "\n" ∧
        (∃ fields, report.json = .object fields) ∧ report.json.field? "success" = some (.bool report.succeeded) ∧
        ending.Tells report := by
  intro htold
  obtain ⟨message, hm⟩ := perform_declines (declines_badSeverity silent (deskOf inProject badSeverity emptyProject ()))
  have hending : (run silent inProject ["lint", ".", "--severity", "bad"] emptyProject ()).1 =
      .ofReport 0 (.failure message) := by
    have hread : Arguments.read inProject.settingsFile ["lint", ".", "--severity", "bad"] = .ok badSeverity :=
      read_badSeverity
    simp only [run, hread]
    exact runArguments_report () sound_emptyProject hm
  obtain ⟨report, hreport, -, -, -, htells⟩ :=
    htold silent inProject ["lint", ".", "--severity", "bad"] emptyProject () badSeverity read_badSeverity
  rw [hending] at hreport htells
  obtain rfl : Report.failure message = report := Option.some.inj hreport
  have hcode : 0 = 2 := htells.1.2 rfl
  cases hcode

end Cli

end ScriptBridge
