/-
Starting the external tool. A command whose program cannot be run does not start, with the cause that the operating
system gives; every other command runs to its end, and a deadly signal counts as an exit code of its own. What the run
wrote is read as text, broken parts replaced.
-/
import ScriptBridge.Shell.Extended.Start
import ScriptBridge.Tool.Outcome

namespace ScriptBridge.Shell

/-- how deep a run may go before it is given up -/
def stepLimit : Nat := 1000000

/-- how many extended shells may run in one another -/
def shellLimit : Nat := 1000

/-- runs an extended shell; in it programs run that may be extended shells again -/
def runExtended : Nat → Octets → List Octets → Act Unit
  | 0, _, _ => throw .stuck
  | depth + 1, name, args => Extended.runShell (runExecutable (runExtended depth) stepLimit) stepLimit name args

/-- how many exit codes there are -/
def exitCodes : Nat := 256

/-- what a run starts from: an environment, an input and files -/
def firstMachine (environment : List (String × String)) (input : Octets) (files : Files) : Machine where
  files := files
  folder := placeText files.here
  values := ⟨environment.map fun (name, value) => (octets name, octets value)⟩
  exported := environment.map fun (name, _) => octets name
  fixed := []
  functions := .empty
  aliases := .empty
  traps := .empty
  name := "sh".toList
  args := []
  status := 0
  inputs := ⟨[(0, ⟨input, none⟩)]⟩
  buffers := .empty
  fresh := 2
  descriptors := ⟨[(0, .input 0), (1, .buffer 0), (2, .buffer 1)]⟩
  options := []
  guarded := false
  line := 0
  calling := none
  loops := 0
  locals := none
  jobs := []
  place := ⟨1, 0⟩
  tracked := []
  mask := 18
  pid := outerNumber
  lost := none
  limits := .empty
  quiet := false
  ended := none

/-- runs a command on an input; gives what comes back and the files that it leaves -/
def launch (environment : List (String × String)) (command : Command) (input : String) (files : Files) :
    Reply × Files :=
  let failed (cause : String) : Reply × Files := (.error (.notStarted command.display cause), files)
  if (command.program :: command.args).any fun a => a.toList.contains (Char.ofNat 0) then
    failed "nul byte found in provided data"
  else
    let name := octets command.program
    let folders := match environment.lookup "PATH" with
      | some folders => cutAt ':' (octets folders)
      | none => usualFolders
    match findSystemProgram files folders name with
    | .error e => failed e.message
    | .ok (path, program) =>
      let start := firstMachine environment (octets input) files
      let (leave, m) := (runExecutable (runExtended shellLimit) stepLimit name path program (command.args.map octets)).run start
      let after : Files := { m.files with here := files.here }
      let ended (code : Int) : Reply × Files := (.ok ⟨code, text (m.written 0), text (m.written 1)⟩, after)
      match leave with
      | .error (.killed _ _) => ended signalExitCode
      | .error .stuck => (.error (.interrupted command.display "too many steps"), after)
      | _ => ended ((m.status % exitCodes : Nat) : Int)

end ScriptBridge.Shell
