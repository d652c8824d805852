/-
Where results go. Edits go to a surface, which accepts or refuses them; diagnostics go to the registry; every failure
is written to the log, and nothing of a failed request is applied.

A surface is a function on a state of its own, so that what it was handed can be observed. The log channel that a host
shows keeps the last lines, up to a capacity of at least one; a line that does not fit pushes the oldest one out.
-/
import ScriptBridge.Session.Registry
import ScriptBridge.Tool.Outcome

namespace ScriptBridge

/-- a named channel with its lines, oldest first -/
structure Log where
  name : String
  capacity : Nat
  lines : List String
deriving DecidableEq, Repr, Inhabited

namespace Log

/-- an empty channel -/
def withCapacity (name : String) (capacity : Nat) : Log := ⟨name, max capacity 1, []⟩

/-- an empty channel of the usual capacity -/
def named (name : String) : Log := withCapacity name 1000

/-- the channel of a session -/
def default : Log := named "Godot Formatter"

/-- adds a line -/
def append (log : Log) (line : String) : Log :=
  let kept := if log.capacity ≤ log.lines.length then log.lines.drop 1 else log.lines
  { log with lines := kept ++ [line] }

/-- forgets all lines -/
def clear (log : Log) : Log := { log with lines := [] }

end Log

/-- what takes an edit of a document: its answer and its next state -/
abbrev Surface (σ : Type) := Document → TextEdit → σ → Except FormatError Unit × σ

/-- the registry and the log of a session -/
structure Results where
  registry : Registry
  log : Log
deriving Repr, Inhabited

namespace Results

/-- nothing published, nothing logged -/
def empty : Results := ⟨.empty, .default⟩

/-- writes a line to the log -/
def note (r : Results) (line : String) : Results := { r with log := r.log.append line }

/-- records a failure to format -/
def formatFailed (r : Results) (e : RunError) : Results := r.note ("Formatting failed: " ++ e.message)

/-- hands the edit of a format request to a surface, or records why there is none -/
def applyFormat {σ : Type} (r : Results) (document : Document) (result : Except RunError TextEdit)
    (surface : Surface σ) (state : σ) : Results × Except FormatError Unit × σ :=
  match result with
  | .error e => (r.formatFailed e, .error (.run e), state)
  | .ok edit =>
    match surface document edit state with
    | (.ok (), state) => (r, .ok (), state)
    | (.error e, state) =>
      (r.note ("Applying formatting to " ++ document.id.uri ++ " failed: " ++ e.message), .error e, state)

/-- publishes the diagnostics of a lint request, or clears the document's and records the failure; with whether
diagnostics were published -/
def applyLint (r : Results) (id : DocumentId) (token : Nat) (result : Except RunError (List Diagnostic)) :
    Results × Bool :=
  match result with
  | .ok diagnostics =>
    let (registry, published) := r.registry.publish id token diagnostics
    ({ r with registry }, published)
  | .error e =>
    let r := r.note ("Linting " ++ id.uri ++ " failed: " ++ e.message)
    ({ r with registry := (r.registry.clearCurrent id token).1 }, false)

/-- forgets a document, which makes every token of it stale -/
def drop (r : Results) (id : DocumentId) : Results := { r with registry := r.registry.remove id }

end Results

end ScriptBridge
