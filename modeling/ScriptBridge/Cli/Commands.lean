/-
The commands, run over a session, the two settings files and a file tree. The external tool is a parameter: a function
from a command and its input to what the run gives back and what it leaves behind, so that a command may be studied
for every behaviour of the tool.

A lint opens each script, runs the tool on it and closes it again; `openScript` and `closeScript` are the two ends of
one script's request, between which those of other scripts may lie.
-/
import ScriptBridge.Cli.Arguments
import ScriptBridge.Cli.Report
import ScriptBridge.Files.Scripts
import ScriptBridge.Session.Basic

namespace ScriptBridge

/-- the surface that writes an edited document back to its file: a document without a file is refused, and a file that
would not change is not written -/
def saveEdit : Surface Files := fun document edit files =>
  match document.path with
  | none => (.error (.rejected (document.id.uri ++ " has no file path")), files)
  | some path =>
    let updated := document.apply edit
    if updated = document.text then (.ok (), files)
    else match files.writeText path updated with
      | .ok files => (.ok (), files)
      | .error e => (.error (.file e.message), files)

end ScriptBridge

namespace ScriptBridge.Cli

/-- the external tool: it may change files, and a state of its own -/
abbrev Tool (σ : Type) := Command → String → Files → σ → Reply × Files × σ

/-- all that a command works on -/
structure Desk (σ : Type) where
  session : Session
  settings : LayeredSettings
  files : Files
  state : σ

variable {σ : Type}

/-- runs the tool on a document -/
def Desk.runTool (desk : Desk σ) (tool : Tool σ) (command : Command) (document : Document) : Reply × Desk σ :=
  let (reply, files, state) := tool command (stdinPayload document.text) desk.files desk.state
  (reply, { desk with files, state })

/-- the name under which a path is shown: below the root without the root -/
def shownName (root path : Path) : String := (root.relativeTo? path).getD path.text

/-! ## Formatting -/

/-- what becomes of an edit of a document that was read from a file -/
def applyFormatted (document : Document) (edit : TextEdit) (write : Bool) (files : Files) :
    Except String FormatResult × Files :=
  if document.apply edit = document.text then (.ok .unchanged, files)
  else if write then
    match saveEdit document edit files with
    | (.ok (), files) => (.ok .written, files)
    | (.error e, files) => (.error e.message, files)
  else (.ok (.proposed edit), files)

/-- formats a file; an error is one that ends the program -/
def runFormat (tool : Tool σ) (desk : Desk σ) (file : Path) (write : Bool) : Except String Report × Desk σ :=
  let path := desk.session.root.join file
  let name := shownName desk.session.root path
  match desk.files.readText path with
  | .error e => (.error ("Failed to read " ++ path.text ++ ": " ++ e.message), desk)
  | .ok text =>
    let document := Document.ofFile path text
    match desk.session.startFormat? document with
    | none => (.ok (FormatResult.disabled.report name), desk)
    | some request =>
      let (reply, desk) := desk.runTool tool request.command document
      match request.edit reply with
      | .error e => (.ok (.failure ("Formatting failed: " ++ e.message)), desk)
      | .ok edit =>
        let (result, files) := applyFormatted document edit write desk.files
        (result.map fun r => r.report name, { desk with files })

/-! ## Linting -/

/-- starts the lint of a script: a request, or the report when none starts -/
def openScript (session : Session) (files : Files) (path : Path) : Session × Except FileReport LintRequest :=
  let failed (reason : String) : Except FileReport LintRequest :=
    .error ⟨shownName session.root path, .error reason⟩
  match files.readText path with
  | .error e => (session, failed ("Failed to read file: " ++ e.message))
  | .ok text =>
    let document := Document.ofFile path text
    match session.startLint document with
    | (session, some request) => (session, .ok request)
    | (session, none) => (session.close document.id, failed "Linter is disabled")

/-- what a lint outcome says about a file -/
def outcomeResult : LintOutcome → Except String (List Diagnostic)
  | .published diagnostics => .ok diagnostics
  | .superseded => .error "Lint request was superseded"
  | .disabled => .error "Linter is disabled"
  | .failed message => .error message

/-- completes the lint of a script; nothing of it stays open -/
def closeScript (session : Session) (path : Path) (request : LintRequest) (reply : Reply) : Session × FileReport :=
  let (session, outcome) := session.completeLint request reply
  (session.close request.document.id, ⟨shownName session.root path, outcomeResult outcome⟩)

/-- lints one script -/
def lintScript (tool : Tool σ) (desk : Desk σ) (path : Path) : FileReport × Desk σ :=
  match openScript desk.session desk.files path with
  | (session, .error report) => (report, { desk with session })
  | (session, .ok request) =>
    let (reply, desk) := Desk.runTool { desk with session } tool request.command request.document
    let (session, report) := closeScript desk.session path request reply
    (report, { desk with session })

/-- lints scripts one after the other -/
def lintScripts (tool : Tool σ) (desk : Desk σ) : List Path → List FileReport × Desk σ
  | [] => ([], desk)
  | path :: rest =>
    let (report, desk) := lintScript tool desk path
    let (reports, desk) := lintScripts tool desk rest
    (report :: reports, desk)

/-- the severities that a selection names; blanks around a name do not count -/
def readSeverities (texts : List String) : Except String (List Severity) :=
  texts.mapM fun text =>
    match Severity.ofToken? (Text.trimmed text) with
    | some s => .ok s
    | none => .error ("Unknown severity '" ++ text ++ "' (expected error or warning)")

/-- the report on an input that does not exist -/
def missingReport (root path : Path) : FileReport := ⟨shownName root path, .error "Path not found"⟩

/-- lints all that some inputs stand for: first the missing ones are reported, then the scripts -/
def lintInputs (tool : Tool σ) (desk : Desk σ) (inputs : List Path) : LintReport × Desk σ :=
  let scripts := ScriptSet.collect desk.files (inputs.map desk.session.root.join)
  let (reports, after) := lintScripts tool desk scripts.files
  (⟨scripts.missing.map (missingReport desk.session.root) ++ reports⟩, after)

/-- lints some inputs and shows the diagnostics of the selected severities -/
def runLint (tool : Tool σ) (desk : Desk σ) (inputs : List Path) (severity : Option (List String)) :
    Report × Desk σ :=
  if !desk.session.config.enabledLint then (.failure "Linter is disabled", desk)
  else match severity.mapM readSeverities with
    | .error message => (.failure message, desk)
    | .ok allowed =>
      let (report, desk) := lintInputs tool desk inputs
      ((report.select allowed).report, desk)

/-! ## Settings -/

/-- writes a settings file with the defaults -/
def runInit (desk : Desk σ) (level : SettingsLevel) (force : Bool) : Report × Desk σ :=
  let (files, result) := desk.settings.init desk.files level force
  let report := match result with
    | .ok path => .success [("status", .string "created"), ("path", .string path.text), ("level", .string level.word)]
    | .error e => .failure e.message
  (report, { desk with files })

/-- shows the resolved configuration -/
def showConfiguration (session : Session) : Report :=
  .success [("config", Wire.configuration session.config), ("executable", .string session.executable),
    ("reorder_allowed", .bool session.config.reorderAllowed)]

/-- shows where a settings file lies -/
def showPath (desk : Desk σ) (level : SettingsLevel) : Report :=
  let path := desk.settings.path level
  .success [("level", .string level.word), ("path", .string path.text), ("exists", .bool (desk.files.has path))]

/-! ## Any task -/

/-- does a task; an error is one that ends the program -/
def perform (tool : Tool σ) (desk : Desk σ) : Task → Except String Report × Desk σ
  | .format file write => runFormat tool desk file write
  | .lint paths severity _ =>
    let (report, desk) := runLint tool desk paths severity
    (.ok report, desk)
  | .init level force =>
    let (report, desk) := runInit desk level force
    (.ok report, desk)
  | .display => (.ok (showConfiguration desk.session), desk)
  | .path level => (.ok (showPath desk level), desk)

end ScriptBridge.Cli
