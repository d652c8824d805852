/-
What the commands report. A command prints one JSON object: a success with the fields of its report, or a failure with
a message. Lines and columns are counted from one.

The report of a file is either its diagnostics or the reason why there are none, never both, so the count of a file is
always the number of diagnostics shown.
-/
import ScriptBridge.Settings.Layers
import ScriptBridge.Wire

namespace ScriptBridge

/-- the shown form of a diagnostic -/
def Diagnostic.report (d : Diagnostic) : Json :=
  let (line, column) := d.range.start.display
  let (endLine, endColumn) := d.range.stop.display
  .object [("severity", .string d.severity.token), ("message", .string d.message), ("line", .nat line),
    ("column", .nat column), ("end_line", .nat endLine), ("end_column", .nat endColumn), ("code", .string d.code),
    ("source", .string d.source)]

/-- the shown form of an edit -/
def TextEdit.report (e : TextEdit) : Json :=
  let (line, column) := e.range.start.display
  let (endLine, endColumn) := e.range.stop.display
  .object [("start_line", .nat line), ("start_column", .nat column), ("end_line", .nat endLine),
    ("end_column", .nat endColumn), ("new_text", .string e.newText)]

/-- what a command prints -/
inductive Report where
  | success (fields : List (String × Json))
  | failure (message : String)
deriving Inhabited

namespace Report

/-- the printed object -/
def json : Report → Json
  | success fields => .object (Json.putField "success" (.bool true) fields)
  | failure message => .object [("success", .bool false), ("error", .string message)]

/-- whether a command reports success -/
def succeeded : Report → Bool
  | success _ => true
  | failure _ => false

end Report

/-- what a lint says about one file: its diagnostics, or why there are none -/
structure FileReport where
  file : String
  result : Except String (List Diagnostic)

namespace FileReport

/-- the diagnostics of a file -/
def diagnostics (r : FileReport) : List Diagnostic :=
  match r.result with
  | .ok ds => ds
  | .error _ => []

/-- number of diagnostics of a file -/
def count (r : FileReport) : Nat := r.diagnostics.length

/-- why a file has no diagnostics, if it failed -/
def error? (r : FileReport) : Option String :=
  match r.result with
  | .ok _ => none
  | .error message => some message

/-- the report with the diagnostics of some severities only -/
def keep (allowed : List Severity) (r : FileReport) : FileReport :=
  { r with result := r.result.map fun ds => ds.filter fun d => allowed.contains d.severity }

/-- the shown form: no list when it would be empty, no error when there is none -/
def json (r : FileReport) : Json :=
  .object ([("file", Json.string r.file), ("count", Json.nat r.count)]
    ++ (if r.diagnostics.isEmpty then [] else [("diagnostics", Json.array (r.diagnostics.map Diagnostic.report))])
    ++ (r.error?.map fun message => ("error", Json.string message)).toList)

end FileReport

/-- the report of a lint, in the order in which files are shown -/
structure LintReport where
  files : List FileReport

namespace LintReport

/-- number of diagnostics of all files -/
def total (r : LintReport) : Nat := r.files.foldl (fun n file => n + file.count) 0

/-- number of files that failed -/
def failed (r : LintReport) : Nat := r.files.countP fun f => f.error?.isSome

/-- the report with the diagnostics of some severities only; without a selection all are kept -/
def select (allowed : Option (List Severity)) (r : LintReport) : LintReport :=
  match allowed with
  | some allowed => ⟨r.files.map (FileReport.keep allowed)⟩
  | none => r

def report (r : LintReport) : Report :=
  .success [("files", .array (r.files.map FileReport.json)), ("total", .nat r.total), ("failed", .nat r.failed)]

end LintReport

/-- what a format came to: the edit is shown only if it changes the text and was not written -/
inductive FormatResult where
  | disabled
  | unchanged
  | proposed (edit : TextEdit)
  | written
deriving DecidableEq, Repr, Inhabited

namespace FormatResult

/-- whether formatting changes the text -/
def changed : FormatResult → Bool
  | disabled => false
  | unchanged => false
  | proposed _ => true
  | written => true

/-- whether the file holds the formatted text now -/
def isWritten : FormatResult → Bool
  | written => true
  | _ => false

/-- the edit to show -/
def edit? : FormatResult → Option TextEdit
  | proposed edit => some edit
  | _ => none

def report (file : String) (r : FormatResult) : Report :=
  .success ([("file", Json.string file), ("changed", Json.bool r.changed), ("written", Json.bool r.isWritten)]
    ++ (r.edit?.map fun e => ("edit", e.report)).toList
    ++ (if r = disabled then [("message", Json.string "Formatter is disabled")] else []))

end FormatResult

end ScriptBridge
