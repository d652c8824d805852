/-
Calling functions. A function has its arguments as an array of the cells that were given, runs in the scope that it was made
in, and leaves what was matched and what had a passing meaning as it was. A method is looked for in a package and then in
those that it is based on.
-/
import ScriptBridge.Shell.SigilScript.Assign

namespace ScriptBridge.Shell.SigilScript

/-- does something as a function that was called -/
def inFrame {α : Type} (frame : Frame) (args scope : Nat) (act : Work α) : Work α := do
  let (outer, outerArgs, want, found, package, file, line, depth) ← modifyGet fun w =>
    ((w.scope, w.args, w.want, w.found, w.package, w.file, w.line, w.saved.length), w)
  modify fun w => { w with scope, args, want := frame.want, frames := frame :: w.frames }
  afterwards act do
    if depth < (← get).saved.length then giveBack depth
    modify fun w => { w with scope := outer, args := outerArgs, want, found, package, file, line, frames := w.frames.drop 1 }

/-- as many values as are awaited -/
def awaited (want : Want) (values : List Value) : List Value :=
  match want with
  | .many => values
  | _ => (values.getLast?).toList

/-- calls a function of the program -/
def callFunction (ev : Evaluator) (f : Function) (args : List Nat) (want : Want) : Work (List Value) := do
  let array ← allocate (.array args.toArray)
  let (package, file, line) ← modifyGet fun w => ((w.package, w.file, w.line), w)
  inFrame ⟨f.name, package, file, line, want⟩ array f.scope do
    modify fun w => { w with package := f.package }
    tryCatch (do return awaited want (← ev.block want f.body)) fun
      | .back values => return awaited want values
      | leave => throw leave

/-- the one value that a call comes to -/
def callOne (ev : Evaluator) (address : Nat) (args : List Nat) : Work Value := do
  return ((← ev.apply address args .one).getLast?).getD .undefined

/-- does something with the name that is meant by itself, and with others, standing for cells -/
def withNames {α : Type} (names : List (String × Nat)) (act : Work α) : Work α := do
  let depth := (← get).saved.length
  for (name, a) in names do
    saveName ("$" ++ name)
    modify fun w => { w with globals := w.globals.insert ("$" ++ name) a }
  afterwards act (giveBack depth)

/-- does something with the name that is meant by itself standing for a cell -/
def withTopic {α : Type} (a : Nat) (act : Work α) : Work α := withNames [("main::_", a)] act

/-! ## Dying and warning -/

/-- the handler of a kind of messages -/
def handlerOf? (name : String) : Work (Option Nat) := do
  match (← get).globals.get? "%main::SIG" with
  | none => return none
  | some table => match ← entrySlot? table name.toList with
    | none => return none
    | some a => match ← cellAt a with
      | .ref f => return some f
      | .text o => functionNamed? (String.ofList o)
      | _ => return none

/-- the text of a message, with its place where no line ends in it -/
def messageText (values : List Value) (otherwise : String) : Work Value := do
  match values with
  | [.ref a] => return .ref a
  | values => do
    let o := (← values.mapM textOf).flatten
    let o := if o.isEmpty then octets otherwise else o
    if o.getLast? == some '\n' then return .text o else return .text (o ++ (← placeWords))

/-- dies with a value; a handler may look at it first -/
def dieWith {α : Type} (ev : Evaluator) (v : Value) : Work α := do
  match ← handlerOf? "__DIE__" with
  | some f => do
    let slot ← newCell v
    -- the handler does not handle its own messages
    let table ← globalSlot '%' "SIG"
    let entries ← entriesOf table
    update table (.table (entries.filter fun e => e.1 != "__DIE__".toList))
    let _ ← afterwards (ev.apply f [slot] .nothing) (update table (.table entries))
    throw (.died v)
  | none => throw (.died v)

/-- warns with a value -/
def warnWith (ev : Evaluator) (v : Value) : Work Unit := do
  match ← handlerOf? "__WARN__" with
  | some f => do
    let slot ← newCell v
    let _ ← ev.apply f [slot] .nothing
  | none => do writeErr (← textOf v)

/-! ## Methods -/

/-- the packages that a package is based on -/
def basesOf (package : String) : Work (List String) := do
  match (← get).globals.get? ("@" ++ package ++ "::ISA") with
  | none => return []
  | some a => do
    let names ← (← valuesOf a).mapM textOf
    return names.map fun o => String.ofList o

/-- a package and all that it is based on, in the order in which methods are looked for -/
def linesOf : Nat → String → Work (List String)
  | 0, _ => return []
  | fuel + 1, package => do
    let mut all := [package]
    for b in ← basesOf package do all := all ++ (← linesOf fuel b)
    return all

/-- how deep packages may be based on each other -/
def baseDepth : Nat := 30

/-- the function of a method -/
def methodOf? (packages : List String) (name : String) : Work (Option Nat) := do
  let w ← get
  return packages.findSome? fun p => w.globals.get? ("&" ++ p ++ "::" ++ name)

/-- whether a package is known -/
def isPackage (name : String) : Work Bool := do
  let w ← get
  return w.globals.fold (fun found key _ => found || (key.drop 1).startsWith (name ++ "::")) false

/-- the package that a value belongs to, or that it names -/
def packageOf (v : Value) : Work (Option String) := do
  match v with
  | .ref a => return (← get).blessed.get? a
  | .undefined => return none
  | v => do return some (String.ofList (← textOf v))

/-- what is said about a method that is not there -/
def noMethod {α : Type} (name package : String) : Work α := do
  if ← isPackage package then die s!"Can't locate object method \"{name}\" via package \"{package}\""
  else
    die s!"Can't locate object method \"{name}\" via package \"{package}\" (perhaps you forgot to load \"{package}\"?)"

/-- whether a package is another one or based on it -/
def isBasedOn (package other : String) : Work Bool := do return (← linesOf baseDepth package).contains other

end ScriptBridge.Shell.SigilScript
