/-
The state of a running shell: files, variables, what is left of its inputs, and where its descriptors lead. Output is
collected in buffers; buffer 0 is standard output and buffer 1 standard error, and each captured output has one of its
own while it is captured. Inputs are numbered too, so that descriptors that lead to the same one read it together.

Statements that leave what surrounds them (`exit`, `break`, a failure, a deadly signal) end with a `Leave` in place of
a value; the state that they leave behind counts all the same.
-/
import ScriptBridge.Shell.Arithmetic
import ScriptBridge.Shell.Program
import ScriptBridge.Shell.Script
import ScriptBridge.Shell.Utility
import ScriptBridge.Shell.Word

namespace ScriptBridge.Shell

/-- where a descriptor leads -/
inductive Target where
  | buffer (id : Nat)
  | file (path : Path)
  | input (id : Nat)
  | nothing
  | full
deriving DecidableEq, Inhabited

/-- where the reading of a script's options stands: the word that comes next, counted from one, and the characters
that were read of the word before it -/
structure OptionPlace where
  index : Nat
  offset : Nat
deriving DecidableEq, Inhabited

/-- the state of a shell. Buffers hold their pieces, the last one first. `guarded` says that a failure does not end the
shell even if it was asked to end at failures; `options` are the letters of the switches that are on; `calling` is the
builtin that complaints name; `loops` is how many loops are running; `locals` is what the variables were that the
running function has of its own, if one is running; `jobs` are the statuses of what was put in the background, the
last one first; `tracked` are the names of programs that were found before, which is forgotten when the folders of
programs change; `pid` is the number by which the shell is named, `lost` says why output of the builtin that is running
found no place, if some did not, and `limits` are the limits that were set. `ended` is the signal that ended the program
which ran last, as long as that was not told, and `quiet` says that it is not to be told. -/
structure Machine where
  files : Files
  folder : Octets
  values : Variables
  exported : List Octets
  fixed : List Octets
  functions : Table Octets Statement
  aliases : Table Octets Octets
  traps : Table Nat Octets
  name : Octets
  args : List Octets
  status : Nat
  inputs : Table Nat Stream
  buffers : Table Nat (List Octets)
  fresh : Nat
  descriptors : Table Nat Target
  options : List Char
  guarded : Bool
  line : Nat
  calling : Option Octets
  loops : Nat
  locals : Option (List (Octets × Option Octets))
  jobs : List Nat
  place : OptionPlace
  tracked : List Octets
  mask : Nat
  pid : Nat
  lost : Option FileError
  limits : Table Char Octets
  quiet : Bool
  ended : Option Nat

/-- why statements are left. A failure ends a builtin that is not special, and otherwise the shell; a dropped line is
not run any further; a deadly signal ends the shell that has the given number. -/
inductive Leave where
  | exit
  | failed
  | dropped
  | out (levels : Nat)
  | again (levels : Nat)
  | back
  | killed (signal pid : Nat)
  | stuck
deriving DecidableEq, Inhabited

/-- an action of a shell -/
abbrev Act (α : Type) := ExceptT Leave (StateM Machine) α

namespace Machine

/-- whether a switch is on -/
def has (m : Machine) (option : Char) : Bool := m.options.contains option

/-- the value of a variable -/
def value? (m : Machine) (name : Octets) : Option Octets := m.values.get? name

/-- the stream that is standard input -/
def stream (m : Machine) : Stream :=
  match m.descriptors.get? 0 with
  | some (.input id) => (m.inputs.get? id).getD default
  | _ => default

/-- what is left of standard input -/
def input (m : Machine) : Octets := m.stream.rest

/-- standard input with less left of it -/
def withInput (o : Octets) (m : Machine) : Machine :=
  match m.descriptors.get? 0 with
  | some (.input id) => { m with inputs := m.inputs.put id { m.stream with rest := o } }
  | _ => m

/-- a descriptor that leads to an input of its own -/
def openInput (descriptor : Nat) (stream : Stream) (m : Machine) : Machine :=
  { m with
    inputs := m.inputs.put m.fresh stream
    fresh := m.fresh + 1
    descriptors := m.descriptors.put descriptor (.input m.fresh) }

/-- the characters that separate words -/
def separators (m : Machine) : Octets := (m.value? "IFS".toList).getD [' ', '\t', '\n']

/-- the folders that programs are looked for in -/
def folders (m : Machine) : List Octets := ((m.value? "PATH".toList).map (cutAt ':')).getD []

/-- the exported variables with their values -/
def environment (m : Machine) : List (Octets × Octets) :=
  m.exported.filterMap fun name => (m.value? name).map fun v => (name, v)

end Machine

namespace Act

/-- sets the exit status -/
def setStatus (n : Nat) : Act Unit := modify fun m => { m with status := n }

/-- writes to a target -/
def writeTo (target : Target) (o : Octets) : Act Unit :=
  match target with
  | .buffer id => modify fun m => { m with buffers := m.buffers.put id (o :: (m.buffers.get? id).getD []) }
  | .file path => modify fun m =>
    match m.files.read path with
    | .ok before => match m.files.write path (before ++ toBytes o) with
      | .ok files => { m with files }
      | .error _ => m
    | .error _ => m
  | _ => pure ()

/-- writes to a descriptor; notes where standard output has no place -/
def write (descriptor : Nat) (o : Octets) : Act Unit := do
  if o.isEmpty then return
  let lose (e : FileError) : Act Unit := if descriptor = 1 then modify fun m => { m with lost := some e } else pure ()
  match (← get).descriptors.get? descriptor with
  | some .full => lose .noSpace
  | some target => writeTo target o
  | none => lose .badDescriptor

/-- writes a line to a descriptor -/
def writeLine (descriptor : Nat) (o : Octets) : Act Unit := write descriptor (o ++ ['\n'])

/-- reports a failure on standard error, with the name of the script, the line and the builtin that is running -/
def complain (message : Octets) : Act Unit := do
  let m ← get
  let calling := match m.calling with
    | some name => name ++ octets ": "
    | none => []
  writeLine 2 (m.name ++ octets ": " ++ number m.line ++ octets ": " ++ calling ++ message)

/-- reports a failure and leaves for it -/
def failWith {α : Type} (status : Nat) (message : Octets) : Act α := do
  complain message
  setStatus status
  throw .failed

/-- reports an ordinary failure and leaves for it -/
def fail {α : Type} (message : Octets) : Act α := failWith 2 message

/-- sets a variable; some cannot be set -/
def setVariable (name value : Octets) : Act Unit := do
  let m ← get
  if m.fixed.contains name then fail (name ++ octets ": is read only")
  else set { m with
    values := m.values.put name value
    tracked := if name == "PATH".toList then [] else m.tracked
    place := if name == "OPTIND".toList then ⟨max 1 ((readNumber? value).getD 1).toNat, 0⟩ else m.place
    exported := if m.has 'a' && !m.exported.contains name then m.exported ++ [name] else m.exported }

/-- notes that a program was found by its name -/
def track (name : Octets) : Act Unit :=
  modify fun m => if name.contains '/' || m.tracked.contains name then m else { m with tracked := name :: m.tracked }

/-- does an action, then another one however the first one ended -/
def ensure {α : Type} (act : Act α) (after : Act Unit) : Act α := do
  match ← (tryCatch (Except.ok <$> act) fun e => pure (Except.error e)) with
  | .ok value => do
    after
    return value
  | .error e => do
    after
    throw e

/-- does an action; gives why it was left, if it was -/
def leaveOf (act : Act Unit) : Act (Option Leave) :=
  tryCatch (do act; return none) fun e => return some e

/-- does an action as a shell of its own: it changes files, inputs and outputs of the outer one, nothing else. A shell
that was killed takes the outer one with it. -/
def asSubshell (act : Act Unit) : Act Unit := do
  let before ← get
  let leave ← leaveOf act
  modify fun m => { before with
    files := { m.files with here := before.files.here }
    status := m.status
    inputs := m.inputs
    buffers := m.buffers
    fresh := m.fresh }
  match leave with
  | some (.killed signal pid) => throw (.killed signal pid)
  | some .stuck => throw .stuck
  | _ => pure ()

/-- does an action with standard output collected -/
def capture (act : Act Unit) : Act Octets := do
  let m ← get
  let id := m.fresh
  set { m with fresh := id + 1, descriptors := m.descriptors.put 1 (.buffer id) }
  ensure act (modify fun after => { after with descriptors := m.descriptors })
  let m ← get
  set { m with buffers := m.buffers.erase id }
  return ((m.buffers.get? id).getD []).reverse.flatten

/-- does an action under the name of a builtin, for what it gives -/
def calledResult {α : Type} (name : Octets) (act : Act α) : Act α := do
  let before := (← get).calling
  modify fun m => { m with calling := some name }
  ensure act (modify fun m => { m with calling := before })

/-- does an action under the name of a builtin -/
def calledBy (name : Octets) (act : Act Unit) : Act Unit := calledResult name act

/-- does an action whose failure does not end the shell -/
def guarding (act : Act Unit) : Act Unit := do
  let before := (← get).guarded
  modify fun m => { m with guarded := true }
  ensure act (modify fun m => { m with guarded := before })

/-- ends the shell at a failure, if it was asked to -/
def checkFailure : Act Unit := do
  let m ← get
  if m.has 'e' && !m.guarded && m.status != 0 then throw .exit

/-- does one round of a loop; gives whether another one may follow -/
def inRound (act : Act Unit) : Act Bool :=
  tryCatch (do act; return true) fun
    | .out levels => if levels ≤ 1 then return false else throw (.out (levels - 1))
    | .again levels => if levels ≤ 1 then return true else throw (.again (levels - 1))
    | other => throw other

/-- does the rounds of a loop -/
def inLoop (act : Act Unit) : Act Unit := do
  modify fun m => { m with loops := m.loops + 1 }
  ensure act (modify fun m => { m with loops := m.loops - 1 })

end Act

/-! ## Parameters -/

/-- the number by which what runs outside of every shell is named -/
def outerNumber : Nat := 3242

/-- how far the number of a shell lies above that of the shell that started it -/
def numberStep : Nat := 1000

/-- the number of a job that was put in the background, counted from one -/
def Machine.jobNumber (m : Machine) (index : Nat) : Nat := m.pid + index

/-- the switches with their names, in the order in which they are listed; some have no letter -/
def switchNames : List (Option Char × String) :=
  [(some 'e', "errexit"), (some 'f', "noglob"), (some 'I', "ignoreeof"), (some 'i', "interactive"),
    (some 'm', "monitor"), (some 'n', "noexec"), (some 's', "stdin"), (some 'x', "xtrace"), (some 'v', "verbose"),
    (some 'V', "vi"), (some 'E', "emacs"), (some 'C', "noclobber"), (some 'a', "allexport"), (some 'b', "notify"),
    (some 'u', "nounset"), (some 'p', "privileged"), (none, "nolog"), (none, "debug")]

/-- the letters of switches -/
def switchLetters : List Char := switchNames.filterMap Prod.fst

/-- the value of a parameter; `none` when it is not set -/
def Machine.parameter? (m : Machine) (name : Octets) : Option Octets :=
  match name with
  | ['?'] => some (number m.status)
  | ['#'] => some (number m.args.length)
  | ['$'] => some (number m.pid)
  | ['-'] => some (switchLetters.reverse.filter m.has)
  | ['!'] => if m.jobs.isEmpty then none else some (number (m.jobNumber m.jobs.length))
  | ['0'] => some m.name
  | ['@'] => if m.args.isEmpty then none else some (List.intersperse [' '] m.args).flatten
  | ['*'] => if m.args.isEmpty then none else some (List.intersperse [' '] m.args).flatten
  | c :: rest =>
    if c.isDigit then m.args[((c :: rest).foldl (fun n d => n * 10 + (d.toNat - 48)) 0) - 1]?
    else m.value? (c :: rest)
  | [] => none

/-- the atoms of the list of arguments -/
def argumentAtoms (quoted joined : Bool) (m : Machine) : List Atom :=
  if quoted && joined then valueAtoms true (List.intersperse (m.separators.take 1) m.args).flatten
  else if quoted && m.args.isEmpty then [.vanished]
  else
    let items := m.args.map fun a => (if quoted then [Atom.mark] else []) ++ valueAtoms quoted a
    (List.intersperse [Atom.gap] items).flatten

/-- gives variables the values they had, one after the other -/
def restoreAll (earlier : List (Octets × Option Octets)) (values : Variables) : Variables :=
  earlier.foldl (fun vars (name, value) =>
    match value with
    | some v => vars.put name v
    | none => vars.erase name) values

end ScriptBridge.Shell
