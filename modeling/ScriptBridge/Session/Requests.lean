/-
Whole requests. A request starts, the tool runs, and the request completes with what the run gave back. The tool is a
parameter. Other requests of the session may go on while it runs, so a run gives back its reply together with what the
session has become, and a state of its own.

A lint publishes what it finds; `runLinter` only gives it. A format has three forms: `computeEdit` gives the edit,
`provideEdits` gives the edits for an editor that applies them itself, `formatDocument` hands the edit to a surface.
-/
import ScriptBridge.Session.Basic

namespace ScriptBridge

/-- the external tool as a request meets it -/
abbrev ToolRun (σ : Type) := Command → String → Session → σ → Reply × Session × σ

namespace Session

variable {σ τ : Type}

/-- lints a document -/
def lintDocument (s : Session) (tool : ToolRun σ) (document : Document) (state : σ) : LintOutcome × Session × σ :=
  match s.startLint document with
  | (s, none) => (.disabled, s, state)
  | (s, some request) =>
    let (reply, s, state) := tool request.command (stdinPayload document.text) s state
    let (s, outcome) := s.completeLint request reply
    (outcome, s, state)

/-- what the linter finds in a document under a configuration; nothing is published -/
def runLinter (s : Session) (tool : ToolRun σ) (c : Configuration) (document : Document) (state : σ) :
    Except RunError (List Diagnostic) × Session × σ :=
  let command := Command.build s.builtIn .lint c document.path
  let (reply, s, state) := tool command (stdinPayload document.text) s state
  (decodeLintReply document command reply, s, state)

/-- the edit that formats a document; none when formatting is off -/
def computeEdit (s : Session) (tool : ToolRun σ) (document : Document) (state : σ) :
    Except RunError (Option TextEdit) × Session × σ :=
  match s.startFormat? document with
  | none => (.ok none, s, state)
  | some request =>
    let (reply, s, state) := tool request.command (stdinPayload document.text) s state
    ((request.edit reply).map some, s, state)

/-- the edits that format a document; none when formatting is off or fails -/
def provideEdits (s : Session) (tool : ToolRun σ) (document : Document) (state : σ) :
    List TextEdit × Session × σ :=
  match s.startFormat? document with
  | none => ([], s, state)
  | some request =>
    let (reply, s, state) := tool request.command (stdinPayload document.text) s state
    let (s, edits) := s.completeEdits request reply
    (edits, s, state)

/-- formats a document on a surface; with whether an edit was applied, and the state of the surface -/
def formatDocument (s : Session) (tool : ToolRun σ) (surface : Surface τ) (document : Document) (state : σ)
    (shown : τ) : Except FormatError Bool × Session × σ × τ :=
  match s.startFormat? document with
  | none => (.ok false, s, state, shown)
  | some request =>
    let (reply, s, state) := tool request.command (stdinPayload document.text) s state
    let (s, answer, shown) := s.completeFormat request reply surface shown
    (answer.map fun _ => true, s, state, shown)

end Session

end ScriptBridge
