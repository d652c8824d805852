/-
What comes of running the external tool, and how failures are worded.

A run ends with an exit code and two streams, or it fails: the tool did not start, or talking to it failed. A run that
ends with a code that its mode does not accept is a failure as well. A failure is worded with the command line, and
for an exit code with a fragment of what the tool wrote: standard error, or standard output when that is blank.
-/
import ScriptBridge.Tool.Command

namespace ScriptBridge

open Text

/-- a finished run of the external tool -/
structure Outcome where
  exitCode : Int
  stdout : String
  stderr : String
deriving DecidableEq, Repr, Inhabited

/-- the exit code of a run that a signal ended -/
def signalExitCode : Int := -1

/-- why a run gave no result -/
inductive RunError where
  | notStarted (command cause : String)
  | badExit (command : String) (outcome : Outcome)
  | interrupted (command cause : String)
deriving DecidableEq, Repr, Inhabited

namespace RunError

/-- the most characters of output that an error quotes -/
def fragmentLimit : Nat := 500

/-- a text cut to the limit, with dots for what is left out -/
def cut (text : List Char) : List Char :=
  if fragmentLimit < text.length then text.take fragmentLimit ++ ['.', '.', '.'] else text

/-- what an error quotes of the output -/
def fragment (stdout stderr : String) : String :=
  let err := trim stderr.toList
  let text := if err.isEmpty then trim stdout.toList else err
  if text.isEmpty then "<no output>" else String.ofList (cut text)

/-- the command line of the failed run -/
def command : RunError → String
  | notStarted c _ => c
  | badExit c _ => c
  | interrupted c _ => c

/-- the exit code, when the failure is one -/
def exitCode? : RunError → Option Int
  | badExit _ o => some o.exitCode
  | _ => none

/-- whether the tool did not start -/
def isStartFailure : RunError → Bool
  | notStarted _ _ => true
  | _ => false

/-- the wording of a failure -/
def message : RunError → String
  | notStarted c cause => "Failed to start '" ++ c ++ "': " ++ cause
  | badExit c o =>
    "Command: " ++ c ++ ", Code: " ++ toString o.exitCode ++ ", Error: " ++ fragment o.stdout o.stderr
  | interrupted c cause => "I/O error while running '" ++ c ++ "': " ++ cause

end RunError

/-- what a run of the external tool gives back -/
abbrev Reply := Except RunError Outcome

/-- a finished run whose exit code its mode accepts -/
def Outcome.check (o : Outcome) (c : Command) : Reply :=
  if c.mode.accepts o.exitCode then .ok o else .error (.badExit c.display o)

/-- why a document was not formatted -/
inductive FormatError where
  | run (e : RunError)
  | rejected (reason : String)
  | file (cause : String)
deriving DecidableEq, Repr, Inhabited

/-- the wording of a failure to format -/
def FormatError.message : FormatError → String
  | run e => e.message
  | rejected reason => "Edit rejected: " ++ reason
  | file cause => cause

/-- the exit code of the tool, when the failure is one -/
def FormatError.exitCode? : FormatError → Option Int
  | run e => e.exitCode?
  | _ => none

end ScriptBridge
