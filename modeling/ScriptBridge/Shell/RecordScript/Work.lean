/-
The state of a program that works through records: variables, arrays, the record with its fields, and the files and
commands that are read from and written to.

Every variable has a place for an array too, so that a function that is given a name can use it as either. The keys of
an array come in an order that their hashes fix; keys of the same place in the table come as they were used, the last
one first.
-/
import Std.Data.HashMap
import ScriptBridge.Shell.RecordScript.Reader
import ScriptBridge.Shell.RecordScript.Value
import ScriptBridge.Shell.Utility

namespace ScriptBridge.Shell.RecordScript

/-- a variable: a value, and the number of its array -/
structure Slot where
  value : Value
  array : Nat
deriving Inhabited

/-- names and keys are found by what all their bytes come to -/
instance : Hashable Octets := ⟨fun o => o.foldl (fun hash c => mixHash hash (UInt64.ofNat c.toNat)) 7⟩

/-- an array: values with the times at which they were used last -/
abbrev Items := Std.HashMap Octets (Value × Nat)

/-- variables by their names -/
abbrev Slots := Std.HashMap Octets Slot

/-- a place that was written to, with its pieces, the last one first -/
structure Written where
  name : Octets
  outlet : Outlet
  pieces : List Octets

/-- the state of a run. `rest` is what is left of the source of records that is open, `index` the operand that comes next;
`named` says that an operand was a file; `active` are the ranges that have begun. -/
structure Work where
  globals : Slots
  locals : Slots
  arrays : Std.HashMap Nat Items
  fresh : Nat
  time : Nat
  record : Octets
  fields : Array Value
  rest : Option Octets
  index : Nat
  named : Bool
  input : Octets
  readers : List (Octets × Octets × Nat)
  written : List Written
  out : List Octets
  err : List Octets
  files : Files
  active : List Nat
  status : Nat
  seed : Nat

/-- why statements are left -/
inductive Halt where
  | next
  | nextFile
  | exit
  | back (v : Value)
  | leave
  | again
  | failed (message : Octets)

/-- what a run takes for granted -/
structure Setting where
  call : Call
  runner : Runner
  program : Program

/-- an action of a run -/
abbrev Doing (α : Type) := ReaderT Setting (ExceptT Halt (StateM Work)) α

namespace Doing

/-- ends a run with a complaint -/
def fail {α : Type} (message : Octets) : Doing α := throw (.failed message)

/-- the slot of a variable -/
def slot (name : Octets) : Doing Slot := do
  let w ← get
  match w.locals[name]? with
  | some s => return s
  | none =>
    match w.globals[name]? with
    | some s => return s
    | none =>
      let s : Slot := ⟨.unset, w.fresh⟩
      set { w with globals := w.globals.insert name s, fresh := w.fresh + 1 }
      return s

/-- the text of a variable that texts depend on -/
def textOf (name : String) : Doing Octets := do
  return (← slot name.toList).value.toText (octets "%.6g")

/-- the format of numbers that become texts -/
def numberFormat : Doing Octets := textOf "CONVFMT"

/-- the text that a value counts as -/
def asText (v : Value) : Doing Octets := do
  match v with
  | .text o => return o
  | .input o => return o
  | v => return v.toText (← numberFormat)

/-- puts a value into a variable -/
def putSlot (name : Octets) (v : Value) : Doing Unit := do
  let s ← slot name
  modify fun w =>
    if w.locals.contains name then { w with locals := w.locals.insert name { s with value := v } }
    else { w with globals := w.globals.insert name { s with value := v } }

/-- a regular expression from its text -/
def regexOf (o : Octets) : Doing Regex := do
  match Regex.read expressionStyle o with
  | .ok (r, _) => return r
  | .error f =>
    let detail := match f with
      | .opening => "missing ')'"
      | .closing => "missing '('"
      | .bracket => "bad class -- [], [^] or ["
      | .interval => "brace repetition is malformed"
      | f => f.message
    fail (octets ("line 1: regular expression compile failed (" ++ detail ++ ")\n") ++ o)

/-- the separator that a text names -/
def separatorOf (o : Octets) : Doing Separator := do
  match o with
  | [] => return .nothing
  | [' '] => return .blanks
  | [c] => return .one c
  | o => return .pattern (← regexOf o)

/-! ## The record -/

/-- cuts the record into fields -/
def setRecord (o : Octets) : Doing Unit := do
  let separator ← separatorOf (← textOf "FS")
  let paragraphs := (← textOf "RS").isEmpty
  modify fun w => { w with record := o, fields := ((separator.cut paragraphs o).map Value.input).toArray }

/-- puts the record together from its fields -/
def joinFields : Doing Unit := do
  let between ← textOf "OFS"
  let format ← numberFormat
  modify fun w => { w with record := joinWith between (w.fields.toList.map (Value.toText format)) }

/-- the fields made to be so many -/
def withFields (count : Nat) : Doing Unit := modify fun w =>
  { w with fields := (w.fields.toList.take count ++ List.replicate (count - w.fields.size) (Value.input [])).toArray }

/-- where a complaint arose -/
def situation : Doing Octets := do
  let file ← textOf "FILENAME"
  return octets "\n\tFILENAME=\"" ++ file ++ octets "\" FNR=" ++ (← textOf "FNR") ++ octets " NR=" ++ (← textOf "NR")

/-- the index that a value names -/
def fieldIndex (v : Value) : Doing Nat := do
  let n := v.toInt
  if n < 0 then fail (octets "run time error: negative field index $" ++ number n ++ (← situation))
  else return n.toNat

/-- a field; the one of index zero is the record -/
def field (index : Nat) : Doing Value := do
  let w ← get
  if index = 0 then return .input w.record else return (w.fields[index - 1]?).getD .unset

/-- puts a value into a field -/
def putField (index : Nat) (v : Value) : Doing Unit := do
  if index = 0 then setRecord (← asText v)
  else
    if (← get).fields.size < index then withFields index
    modify fun w => { w with fields := w.fields.set! (index - 1) v }
    joinFields

/-- the value of a variable -/
def valueNamed (name : Octets) : Doing Value := do
  if name == "NF".toList then return .ofInt ((← get).fields.size : Nat) else return (← slot name).value

/-- puts a value into a variable -/
def putVariable (name : Octets) (v : Value) : Doing Unit := do
  if name == "NF".toList then
    withFields v.toInt.toNat
    joinFields
  else putSlot name v

/-! ## Arrays -/

/-- the items of an array -/
def items (array : Nat) : Doing Items := do return ((← get).arrays[array]?).getD {}

/-- a value in an array; one that is not there is put there -/
def item (array : Nat) (key : Octets) : Doing Value := do
  let all ← items array
  let v := match all[key]? with
    | some (v, _) => v
    | none => .unset
  modify fun w => { w with arrays := w.arrays.insert array (all.insert key (v, w.time)), time := w.time + 1 }
  return v

/-- puts a value into an array -/
def putItem (array : Nat) (key : Octets) (v : Value) : Doing Unit := do
  let all ← items array
  modify fun w => { w with arrays := w.arrays.insert array (all.insert key (v, w.time)), time := w.time + 1 }

/-- the hash of a key -/
def keyHash (o : Octets) : Nat :=
  (o.foldl (fun (h : UInt32) c => (h ^^^ UInt32.ofNat c.toNat) * 16777619) 2166136261).toNat

/-- the size of the table of an array with so many items: no place has more than twelve on the average -/
def tableSize : Nat → Nat → Nat → Nat
  | 0, size, _ => size
  | fuel + 1, size, count => if 12 * size < count then tableSize fuel (2 * size) count else size

/-- the keys of an array in their order -/
def keysOf (array : Nat) : Doing (List Octets) := do
  let all ← items array
  let size := tableSize 40 64 all.size
  let keyed := all.toList.map fun (key, _, time) => (keyHash key % size, time, key)
  return (keyed.mergeSort fun a b => a.1 < b.1 || (a.1 == b.1 && b.2.1 ≤ a.2.1)).map fun e => e.2.2

/-- makes an array of values, counted from one -/
def fill (array : Nat) (values : List Octets) : Doing Unit := do
  modify fun w => { w with arrays := w.arrays.insert array {} }
  values.zipIdx.forM fun (o, k) => putItem array (number ((k + 1 : Nat) : Int)) (.input o)

/-! ## Output -/

/-- runs a command of the shell; gives its status -/
def runCommand (command : Octets) (stream : Stream) : Doing UtilityRun := do
  let c := (← read).call
  let w ← get
  match (← read).runner (octets "/bin/sh") [['-', 'c'], command] stream w.files c.environment with
  | .ok r => do
    set { w with files := r.files, err := r.err :: w.err }
    return r
  | .error e => return { c.done 127 [] with err := briefCause e }

/-- puts what was written where it belongs; gives a status -/
def settle (o : Written) : Doing Nat := do
  let content := o.pieces.reverse.flatten
  match o.outlet with
  | .command => do
    let r ← runCommand o.name ⟨content, none⟩
    modify fun w => { w with out := r.out :: w.out }
    return r.status
  | _ => do
    let w ← get
    let path := pathOf o.name
    let before := ((w.files.read path).toOption).getD []
    match w.files.write path (before ++ toBytes content) with
    | .ok files => set { w with files }
    | .error _ => pure ()
    return 0

/-- puts everything where it belongs that was written to files -/
def flush : Doing Unit := do
  let all := (← get).written
  all.reverse.forM fun o => do
    if o.outlet != .command then
      let _ ← settle o
  modify fun w => { w with written := w.written.map fun o => if o.outlet == .command then o else { o with pieces := [] } }

/-- closes what a name stands for; gives a status -/
def close (name : Octets) : Doing Int := do
  let w ← get
  let (closing, others) := w.written.partition fun o => o.name == name
  let reader? := w.readers.find? fun r => r.1 == name
  set { w with written := others, readers := w.readers.filter fun r => r.1 != name }
  let mut status? := reader?.map fun (_, _, status) => status
  for o in closing do status? := some (← settle o)
  return match status? with
    | some status => (status : Int)
    | none => -1

/-- writes to a file or a command -/
def writeTo (outlet : Outlet) (name o : Octets) : Doing Unit := do
  let direct : Option Bool := if outlet == .command then none
    else if name == ['-'] || name == octets "/dev/stdout" then some true
    else if name == octets "/dev/stderr" then some false
    else none
  match direct with
  | some true => modify fun w => { w with out := o :: w.out }
  | some false => modify fun w => { w with err := o :: w.err }
  | none => do
    let w ← get
    if w.written.any fun (p : Written) => p.name == name && (p.outlet == .command) == (outlet == .command) then
      let extended (p : Written) : Written := if p.name == name then { p with pieces := o :: p.pieces } else p
      set { w with written := w.written.map extended }
    else
      let start : Except FileError Files := match outlet with
        | .command => .ok w.files
        | .file => w.files.write (pathOf name) []
        | .append => if w.files.isFile (pathOf name) then .ok w.files else w.files.write (pathOf name) []
      match start with
      | .ok files => set { w with files, written := ⟨name, outlet, [o]⟩ :: w.written }
      | .error e => fail (octets "cannot open \"" ++ name ++ octets "\" for output (" ++ briefCause e ++ [')'])

/-! ## Records -/

/-- the first record of a text and what follows it -/
def firstRecord (o : Octets) : Doing (Option (Octets × Octets)) := do
  let mark ← textOf "RS"
  if o.isEmpty then return none
  else match mark with
    | [c] =>
      let record := o.takeWhile (· != c)
      return some (record, o.drop (record.length + 1))
    | [] =>
      let o := o.dropWhile (· == '\n')
      if o.isEmpty then return none
      let (before, after) ← cutAtBlank (o.length + 1) [] o
      return some (before, after)
    | mark =>
      let r ← regexOf mark
      match r.search expressionMode (.atStart o) with
      | some (s, e) =>
        if e.place = s.place then return some (o, [])
        else
          let rest := e.rest
          return some (s.since (.atStart o), rest)
      | none => return some (if o.getLast? == some '\n' then o.dropLast else o, [])
where
  /-- the text up to an empty line, and what follows -/
  cutAtBlank : Nat → Octets → Octets → Doing (Octets × Octets)
    | 0, done, rest => return (done.reverse, rest)
    | _, done, [] => return (done.reverse, [])
    | fuel + 1, done, '\n' :: rest =>
      match rest with
      | [] => return (done.reverse, [])
      | '\n' :: more => return (done.reverse, more.dropWhile (· == '\n'))
      | rest => cutAtBlank fuel ('\n' :: done) rest
    | fuel + 1, done, c :: rest => cutAtBlank fuel (c :: done) rest

/-- an operand that sets a variable -/
def assignment? (o : Octets) : Option (Octets × Octets) :=
  let name := o.takeWhile (· != '=')
  if name.length < o.length && (name.head?.map fun c => c.isAlpha || c == '_').getD false
      && name.all fun c => c.isAlphanum || c == '_' then
    some (name, withoutEscapes (o.length + 1) (o.drop (name.length + 1)))
  else none

/-- takes what is left of the input -/
def takeInput : Doing Octets := do
  let w ← get
  set { w with input := [] }
  return w.input

/-- opens the next source of records; gives whether there is one -/
def openNext : Nat → Doing Bool
  | 0 => return false
  | fuel + 1 => do
    let w ← get
    let count := (← slot "ARGC".toList).value.toInt.toNat
    if count ≤ w.index then
      if w.named then return false
      else
        let o ← takeInput
        putSlot "FILENAME".toList (.input ['-'])
        modify fun w => { w with rest := some o, named := true }
        return true
    else
      let arguments := (← slot "ARGV".toList).array
      let key := number (w.index : Nat)
      set { w with index := w.index + 1 }
      let operand ← match (← items arguments)[key]? with
        | some (v, _) => asText v
        | none => pure []
      if operand.isEmpty then openNext fuel
      else match assignment? operand with
        | some (name, value) => do
          putVariable name (.input value)
          openNext fuel
        | none => do
          let c := (← read).call
          let o ← if namesInput operand then takeInput
            else match { c with files := (← get).files }.readFile operand with
              | .ok o => pure o
              | .error e => fail (octets "cannot open \"" ++ operand ++ octets "\" (" ++ briefCause e ++ [')'])
          putSlot "FILENAME".toList (.input operand)
          putSlot "FNR".toList (.ofInt 0)
          modify fun w => { w with rest := some o, named := true }
          return true

/-- the next record of the operands -/
def nextRecord : Nat → Doing (Option Octets)
  | 0 => return none
  | fuel + 1 => do
    match (← get).rest with
    | none => if ← openNext 10000 then nextRecord fuel else return none
    | some o =>
      match ← firstRecord o with
      | some (record, rest) => do
        modify fun w => { w with rest := some rest }
        return some record
      | none => do
        modify fun w => { w with rest := none }
        if ← openNext 10000 then nextRecord fuel else return none

/-- adds one to a variable -/
def count (name : String) : Doing Unit := do
  let v := (← slot name.toList).value
  putSlot name.toList (.number (v.toNumber.add (.ofInt 1)))

/-- the next record from a file or a command; `none` when there is no such file -/
def readFrom (command : Bool) (name : Octets) : Doing (Option (Option Octets)) := do
  let w ← get
  let content? : Option (Octets × Nat) ← match w.readers.find? fun r => r.1 == name with
    | some (_, read) => pure (some read)
    | none =>
      if command then do
        flush
        let w ← get
        let r ← runCommand name ⟨w.input, none⟩
        modify fun w => { w with input := r.input }
        pure (some (r.out, r.status))
      else if namesInput name then do pure (some (← takeInput, 0))
      else pure (({ (← read).call with files := w.files }.readFile name).toOption.map fun o => (o, 0))
  match content? with
  | none => return none
  | some (o, status) =>
    match ← firstRecord o with
    | some (record, rest) => do
      modify fun w => { w with readers := (name, rest, status) :: w.readers.filter fun r => r.1 != name }
      return some (some record)
    | none => do
      modify fun w => { w with readers := (name, [], status) :: w.readers.filter fun r => r.1 != name }
      return some none

end Doing

end ScriptBridge.Shell.RecordScript
