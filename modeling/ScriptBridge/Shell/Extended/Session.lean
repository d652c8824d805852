/-
The state of a running extended shell: what a plain shell has, and beside it variables that hold texts, lists or maps
and have marks, the variables of running functions and of single commands in front of the global ones, and the stack of
calls.

A map is listed in an order of its own, by `chainOf` of its keys; `setEntry` keeps that order.
-/
import ScriptBridge.Shell.Builtin
import ScriptBridge.Shell.Extended.Script

namespace ScriptBridge.Shell.Extended

/-- what a variable holds; one that was only declared holds nothing -/
inductive Held where
  | nothing
  | single (o : Octets)
  | list (items : List (Nat × Octets))
  | map (items : List (Octets × Octets))
deriving DecidableEq, Inhabited

/-- a variable with its marks, which are the letters of its attributes -/
structure Variable where
  held : Held
  marks : List Char
deriving DecidableEq, Inhabited

namespace Held

/-- the text that a variable stands for by itself -/
def text? : Held → Option Octets
  | .nothing => none
  | .single o => some o
  | .list items => (items.find? fun i => i.1 == 0).map Prod.snd
  | .map items => (items.find? fun i => i.1 == ['0']).map Prod.snd

/-- all values, in order -/
def values : Held → List Octets
  | .nothing => []
  | .single o => [o]
  | .list items => items.map Prod.snd
  | .map items => items.map Prod.snd

/-- all indices, in order -/
def indices : Held → List Octets
  | .nothing => []
  | .single _ => [['0']]
  | .list items => items.map fun i => number i.1
  | .map items => items.map Prod.fst

end Held

/-- a list with a value at an index -/
def setItem (index : Nat) (value : Octets) : List (Nat × Octets) → List (Nat × Octets)
  | [] => [(index, value)]
  | (i, v) :: rest =>
    if i < index then (i, v) :: setItem index value rest
    else if i = index then (index, value) :: rest
    else (index, value) :: (i, v) :: rest

/-- the number of the chain in which a key is kept, among so many; chains are listed one after the other -/
def chainOf (key : Octets) : Nat :=
  (key.foldl (fun h c => ((h * 16777619) % 4294967296) ^^^ c.toNat) 2166136261) % 1024

/-- a map with a value for a key. A key that is new stands in front of the others of its chain. -/
def setEntry (key value : Octets) (items : List (Octets × Octets)) : List (Octets × Octets) :=
  if items.any fun i => i.1 == key then items.map fun i => if i.1 == key then (key, value) else i
  else
    let before := items.takeWhile fun i => chainOf i.1 < chainOf key
    before ++ (key, value) :: items.drop before.length

/-- variables in front of the global ones: those of a running function, or those of a single command -/
structure Scope where
  named : Table Octets Variable
  function : Bool
deriving Inhabited

/-- a function: its body and the file that it comes from -/
structure Function where
  body : Statement
  file : Octets
deriving Inhabited

/-- a running call: its name, the line of the call, and the file that is run -/
structure Frame where
  name : Octets
  line : Nat
  file : Octets
deriving DecidableEq, Inhabited

/-- the state of an extended shell. `settings` are those that are on; `stages` are the statuses of the last pipeline;
`last` is the last argument of the command before; `opened` are the files that commands stand in for, with what reads
from them; `stack` are folders that were left; `depth` is how many shells this one runs in, and `level` how many texts
are being run; `reached` is the line that was read last; `outputs` counts the outputs
that were put into words; `fromArgument` says that the script is an argument, and `replaced` that the program which runs
next takes the place of the shell. -/
structure Session where
  machine : Machine
  globals : Table Octets Variable
  scopes : List Scope
  functions : Table Octets Function
  frames : List Frame
  settings : List String
  stages : List Nat
  last : Octets
  opened : List (Octets × List Statement)
  stack : List Octets
  depth : Nat
  level : Nat
  reached : Nat
  outputs : Nat
  fromArgument : Bool
  replaced : Bool
  random : Nat

/-- what a shell does -/
abbrev Work (α : Type) := ExceptT Leave (StateM Session) α

/-- does what a machine does -/
def onMachine {α : Type} (act : Act α) : Work α := do
  let s ← get
  let (result, machine) := act.run s.machine
  set { s with machine }
  match result with
  | .ok value => return value
  | .error e => throw e

namespace Session

/-! ## Variables -/

/-- the variable with a name, as it is kept -/
def own? (s : Session) (name : Octets) : Option Variable :=
  match s.scopes.findSome? fun scope => scope.named.get? name with
  | some v => some v
  | none => s.globals.get? name

/-- changes the variable with a name where it is kept, or makes a global one -/
def change (name : Octets) (v : Variable) (s : Session) : Session :=
  let rec go : List Scope → Option (List Scope)
    | [] => none
    | scope :: rest =>
      if (scope.named.get? name).isSome then some ({ scope with named := scope.named.put name v } :: rest)
      else (go rest).map (scope :: ·)
  match go s.scopes with
  | some scopes => { s with scopes }
  | none => { s with globals := s.globals.put name v }

/-- gives the innermost running function a variable of its own -/
def changeLocal (name : Octets) (v : Variable) (s : Session) : Session :=
  let rec go : List Scope → Option (List Scope)
    | [] => none
    | scope :: rest =>
      if scope.function then some ({ scope with named := scope.named.put name v } :: rest)
      else (go rest).map (scope :: ·)
  match go s.scopes with
  | some scopes => { s with scopes }
  | none => { s with globals := s.globals.put name v }

/-- the variables of the innermost running function -/
def locals? (s : Session) : Option (Table Octets Variable) :=
  (s.scopes.find? fun scope => scope.function).map Scope.named

/-- forgets a variable. One of the running function stays, without a value. -/
def forget (name : Octets) (s : Session) : Session :=
  let rec go (inner : Bool) : List Scope → Option (List Scope)
    | [] => none
    | scope :: rest =>
      if (scope.named.get? name).isSome then
        some ((if inner && scope.function then
            { scope with named := scope.named.put name ⟨.nothing, []⟩ }
          else { scope with named := scope.named.erase name }) :: rest)
      else (go (inner && !scope.function) rest).map (scope :: ·)
  match go true s.scopes with
  | some scopes => { s with scopes }
  | none => { s with globals := s.globals.erase name }

/-- the name that a name stands for, through variables that name others -/
def resolve (s : Session) (name : Octets) : Octets :=
  let rec go : Nat → Octets → Octets
    | 0, name => name
    | fuel + 1, name =>
      match s.own? name with
      | some v =>
        match (if v.marks.contains 'n' then v.held.text? else none) with
        | some target => if target.isEmpty then name else go fuel target
        | none => name
      | none => name
  go 8 name

/-- whether a setting is on -/
def hasSetting (s : Session) (name : String) : Bool := s.settings.contains name

/-- the file that is run -/
def file (s : Session) : Octets := (s.frames.head?.map Frame.file).getD []

/-- the names of the switches that are on, one after the other -/
def switchText (s : Session) : Octets :=
  let named : List (Char × String) :=
    [('a', "allexport"), ('B', "braceexpand"), ('e', "errexit"), ('E', "errtrace"), ('T', "functrace"), ('h', "hashall"),
      ('k', "keyword"), ('m', "monitor"), ('C', "noclobber"), ('n', "noexec"), ('f', "noglob"), ('b', "notify"),
      ('u', "nounset"), ('t', "onecmd"), ('P', "physical"), ('p', "privileged"), ('v', "verbose"), ('x', "xtrace")]
  let on := (named.filter fun n => s.machine.has n.1).map Prod.snd ++ ["interactive-comments"]
    ++ (["pipefail", "posix"].filter s.hasSetting)
  joinWith [':'] ((on.map octets).mergeSort inOrder)

/-- the version, as it is given in parts -/
def versionParts : List String := ["5", "2", "21", "1", "release", "x86_64-pc-linux-gnu"]

/-- what a name holds that the shell itself gives a value -/
def special? (s : Session) (name : Octets) : Option Held :=
  let items (values : List Octets) : Held := .list (values.mapIdx fun i v => (i, v))
  match String.ofList name with
  | "LINENO" => some (.single (number s.machine.line))
  | "FUNCNAME" =>
    let names := (s.frames.filter fun f => f.line != 0 || !f.name.isEmpty).map Frame.name
    if s.frames.any fun f => f.line != 0 then some (items names) else some .nothing
  | "BASH_LINENO" => some (items (s.frames.map fun f => number f.line))
  | "BASH_SOURCE" => some (items (s.frames.map Frame.file))
  | "PIPESTATUS" => some (items (s.stages.map fun (n : Nat) => number n))
  | "BASHPID" => some (.single (number s.machine.pid))
  | "BASH_SUBSHELL" => some (.single (number s.depth))
  | "SECONDS" => if (s.own? name).isSome then none else some (.single ['0'])
  | "RANDOM" => some (.single (number (s.random / 65536 % 32768)))
  | "EPOCHSECONDS" => some (.single (octets "1700000000"))
  | "SHELLOPTS" => some (.single s.switchText)
  | "BASHOPTS" => some (.single (joinWith [':'] ((s.settings.filter fun n => n != "pipefail" && n != "posix").map octets
      |>.mergeSort inOrder)))
  | "DIRSTACK" => some (items (s.machine.folder :: s.stack))
  | "GROUPS" => some (items [['0']])
  | "_" => some (.single s.last)
  | _ => none

/-- what a name holds -/
def held? (s : Session) (name : Octets) : Option Held :=
  match s.special? name with
  | some .nothing => none
  | some held => some held
  | none =>
    match (s.own? (s.resolve name)).map Variable.held with
    | some .nothing => none
    | other => other

/-- the marks of a variable -/
def marks (s : Session) (name : Octets) : List Char := ((s.own? (s.resolve name)).map Variable.marks).getD []

/-- the text of a variable -/
def value? (s : Session) (name : Octets) : Option Octets := (s.held? name).bind Held.text?

/-- the names of all variables, in order; those that were only declared count where that is asked for -/
def names (s : Session) (declared : Bool) : List Octets :=
  let all := s.scopes.flatMap (fun scope => scope.named.entries.map Prod.fst) ++ s.globals.entries.map Prod.fst
  let kept := all.eraseDups.filter fun n => declared || (s.held? n).isSome
  kept.mergeSort inOrder

/-- the exported variables with their values, as programs get them -/
def environment (s : Session) : List (Octets × Octets) :=
  let exported := (s.names false).filterMap fun n =>
    if (s.marks n).contains 'x' then (s.value? n).map fun v => (n, v) else none
  exported.mergeSort fun a b => chainOf a.1 ≤ chainOf b.1

/-- the characters that separate words -/
def separators (s : Session) : Octets := (s.value? "IFS".toList).getD [' ', '\t', '\n']

/-- the folders that programs are looked for in -/
def folders (s : Session) : List Octets := ((s.value? "PATH".toList).map (cutAt ':')).getD []

/-- the value of a parameter that is no list; `none` when it is not set -/
def parameter? (s : Session) (name : Octets) : Option Octets :=
  match name with
  | ['-'] =>
    let order := "abefhiklmnprtuvxBCEHPT".toList
    some (order.filter s.machine.has ++ (if s.fromArgument then ['c'] else []) ++ if s.machine.has 's' then ['s'] else [])
  | c :: _ => if c.isDigit || !isNameChar c then s.machine.parameter? name else s.value? name
  | [] => none

end Session

namespace Work

/-- sets the exit status -/
def setStatus (n : Nat) : Work Unit := modify fun s => { s with machine := { s.machine with status := n } }

/-- changes the machine -/
def modifyMachine (f : Machine → Machine) : Work Unit := modify fun s => { s with machine := f s.machine }

/-- the machine -/
def machine : Work Machine := do return (← get).machine

/-- writes to a descriptor -/
def write (descriptor : Nat) (o : Octets) : Work Unit := onMachine (Act.write descriptor o)

/-- writes a line to a descriptor -/
def writeLine (descriptor : Nat) (o : Octets) : Work Unit := write descriptor (o ++ ['\n'])

/-- the name in front of complaints -/
def complainer : Work Octets := do
  let s ← get
  return if s.file.isEmpty then s.machine.name else s.file

/-- reports a failure on standard error, with the name of the script, the line and the builtin that is running -/
def complain (message : Octets) : Work Unit := do
  let m ← machine
  let calling := match m.calling with
    | some name => name ++ octets ": "
    | none => []
  writeLine 2 ((← complainer) ++ octets ": line " ++ number m.line ++ octets ": " ++ calling ++ message)

/-- reports a failure and leaves what is run for it -/
def failWith {α : Type} (status : Nat) (message : Octets) : Work α := do
  complain message
  setStatus status
  throw .failed

/-- does an action, then another one however the first one ended -/
def ensure {α : Type} (act : Work α) (after : Work Unit) : Work α := do
  match ← (tryCatch (Except.ok <$> act) fun e => pure (Except.error e)) with
  | .ok value => do
    after
    return value
  | .error e => do
    after
    throw e

/-- does an action; gives why it was left, if it was -/
def leaveOf (act : Work Unit) : Work (Option Leave) :=
  tryCatch (do act; return none) fun e => return some e

/-- does an action as a shell of its own: it changes files, inputs and outputs of the outer one, nothing else. A shell
that was killed takes the outer one with it. -/
def asSubshell (act : Work Unit) : Work Unit := do
  let before ← get
  modify fun s => { s with depth := s.depth + 1 }
  let leave ← leaveOf act
  modify fun s => { before with
    machine := { before.machine with
      files := { s.machine.files with here := before.machine.files.here }
      status := s.machine.status
      inputs := s.machine.inputs
      buffers := s.machine.buffers
      fresh := s.machine.fresh } }
  match leave with
  | some (.killed signal pid) => throw (.killed signal pid)
  | some .stuck => throw .stuck
  | _ => pure ()

/-- does an action with standard output collected -/
def capture (act : Work Unit) : Work Octets := do
  let m ← machine
  let id := m.fresh
  modifyMachine fun m => { m with fresh := id + 1, descriptors := m.descriptors.put 1 (.buffer id) }
  ensure act (modifyMachine fun after => { after with descriptors := m.descriptors })
  let after ← machine
  modifyMachine fun m => { m with buffers := m.buffers.erase id }
  return ((after.buffers.get? id).getD []).reverse.flatten

/-- does an action under the name of a builtin, for what it gives -/
def calledBy {α : Type} (name : Octets) (act : Work α) : Work α := do
  let before := (← machine).calling
  modifyMachine fun m => { m with calling := some name }
  ensure act (modifyMachine fun m => { m with calling := before })

/-- does an action whose failure does not end the shell -/
def guarding (act : Work Unit) : Work Unit := do
  let before := (← machine).guarded
  modifyMachine fun m => { m with guarded := true }
  ensure act (modifyMachine fun m => { m with guarded := before })

/-- does one round of a loop; gives whether another one may follow -/
def inRound (act : Work Unit) : Work Bool :=
  tryCatch (do act; return true) fun
    | .out levels => if levels ≤ 1 then return false else throw (.out (levels - 1))
    | .again levels => if levels ≤ 1 then return true else throw (.again (levels - 1))
    | other => throw other

/-- does the rounds of a loop -/
def inLoop (act : Work Unit) : Work Unit := do
  modifyMachine fun m => { m with loops := m.loops + 1 }
  ensure act (modifyMachine fun m => { m with loops := m.loops - 1 })

/-- where a failure only gives a status -/
def orStatus (act : Work Unit) : Work Unit :=
  tryCatch act fun
    | .failed => pure ()
    | other => throw other

end Work

end ScriptBridge.Shell.Extended
