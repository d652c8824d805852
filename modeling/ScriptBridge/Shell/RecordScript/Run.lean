/-
Running programs for records. The rules for the beginning come first, then for each record those that it is for, then
the rules for the end; `exit` goes on to the rules for the end, and among those it ends the run.

Nothing bounds what a program does, so every function takes a number of steps that it may go down.

The command comes last: its options, its operands, and what the variables are at the start.
-/
import ScriptBridge.Shell.RecordScript.Work

namespace ScriptBridge.Shell.RecordScript

open Doing

/-- the complaint of a run that goes down too far -/
def tooDeep {α : Type} : Doing α := fail (octets "function call nesting too deep")

/-- does a statement of a loop; gives whether the loop goes on -/
def inRound (act : Doing Unit) : Doing Bool :=
  tryCatch (do act; return true) fun
    | .leave => return false
    | .again => return true
    | other => throw other

/-- values in a format; a fault ends the run after what was printed -/
def formatted (name : String) (args : List Value) (streams : Bool) : Doing Octets := do
  match args with
  | [] => fail (octets ("no arguments in call to " ++ name))
  | format :: args => do
    let format ← asText format
    let f := formatPieces (format.length + 8) (← numberFormat) format args []
    let o := f.pieces.reverse.flatten
    match f.fault with
    | none => return o
    | some message => do
      if streams then modify fun w => { w with out := o :: w.out }
      fail (octets "run time error: " ++ message ++ octets name ++ octets "(\"" ++ format ++ octets "\")" ++ (← situation))

/-- a part of a text; a start before the first character makes it longer -/
def partOf (o : Octets) (start : Int) (length : Option Int) : Octets :=
  let length := length.map fun n => if start < 1 then n - start else n
  let rest := o.drop (start - 1).toNat
  match length with
  | some n => rest.take n.toNat
  | none => rest

/-- functions of one number -/
def numberFunction (name : String) (x : Extended) : Extended :=
  match name with
  | "sin" => .ofFloat x.toFloat.sin
  | "cos" => .ofFloat x.toFloat.cos
  | "exp" => .ofFloat x.toFloat.exp
  | "log" => .ofFloat x.toFloat.log
  | "sqrt" => x.root
  | _ => x.truncate

mutual

/-- the value of an expression -/
def eval : Nat → Expression → Doing Value
  | 0, _ => tooDeep
  | fuel + 1, e => do
    match e with
    | .number x => return .number x
    | .text o => return .text o
    | .regex o => do return .ofBool ((← regexOf o).found expressionMode (← get).record)
    | .name o => valueNamed o
    | .element array keys => do
      let key ← keyOf fuel keys
      item (← slot array).array key
    | .field index => do field (← fieldIndex (← eval fuel index))
    | .assign target operator value => do
      let v ← match operator with
        | none => match ← eval fuel value with
          | .unset => pure Value.unset
          | v => pure v
        | some operator => do
          let b ← eval fuel value
          let a ← eval fuel target
          pure (.number (operator.apply a.toNumber b.toNumber))
      put fuel target v
      return v
    | .bump target up before => do
      let old := (← eval fuel target).toNumber
      let new := if up then old.add (.ofInt 1) else old.sub (.ofInt 1)
      put fuel target (.number new)
      return .number (if before then new else old)
    | .either a b => do
      if (← eval fuel a).holds then return .ofBool true else return .ofBool (← eval fuel b).holds
    | .both a b => do
      if (← eval fuel a).holds then return .ofBool (← eval fuel b).holds else return .ofBool false
    | .choice condition a b => do
      if (← eval fuel condition).holds then eval fuel a else eval fuel b
    | .negation a => do return .ofBool !(← eval fuel a).holds
    | .minus a => do return .number (← eval fuel a).toNumber.neg
    | .plus a => do return .number (← eval fuel a).toNumber
    | .arithmetic operator a b => do
      let x ← eval fuel a
      let y ← eval fuel b
      return .number (operator.apply x.toNumber y.toNumber)
    | .compare comparison a b => do
      let x ← eval fuel a
      let y ← eval fuel b
      return .ofBool (comparison.holds (x.order? (← numberFormat) y))
    | .join a b => do
      let x ← asText (← eval fuel a)
      let y ← asText (← eval fuel b)
      return .text (x ++ y)
    | .matching wanted a p => do
      let o ← asText (← eval fuel a)
      return .ofBool ((← patternOf fuel p).found expressionMode o == wanted)
    | .within keys array => do
      let key ← keyOf fuel keys
      return .ofBool ((← items (← slot array).array).contains key)
    | .call name args => callFunction fuel name args
    | .builtin name args => callBuiltin fuel name args
    | .readRecord target => do
      match ← nextRecord 10000 with
      | none => return .ofInt 0
      | some o => do
        count "NR"
        count "FNR"
        match target with
        | some target => put fuel target (.input o)
        | none => setRecord o
        return .ofInt 1
    | .readFile target file => do
      let name ← asText (← eval fuel file)
      putRead fuel target false (← readFrom false name)
    | .readCommand target command => do
      let name ← asText (← eval fuel command)
      putRead fuel target true (← readFrom true name)

/-- puts what was read; gives how the reading went -/
def putRead : Nat → Option Expression → Bool → Option (Option Octets) → Doing Value
  | 0, _, _, _ => tooDeep
  | fuel + 1, target, counts, found => do
    match found with
    | none => return .ofInt (-1)
    | some none => return .ofInt 0
    | some (some o) => do
      if counts then count "NR"
      match target with
      | some target => put fuel target (.input o)
      | none => setRecord o
      return .ofInt 1

/-- puts a value into a place -/
def put : Nat → Expression → Value → Doing Unit
  | 0, _, _ => tooDeep
  | fuel + 1, target, v => do
    match target with
    | .name o => putVariable o v
    | .element array keys => do
      let key ← keyOf fuel keys
      putItem (← slot array).array key v
    | .field index => do putField (← fieldIndex (← eval fuel index)) v
    | _ => pure ()

/-- the values of expressions -/
def evalAll : Nat → List Expression → Doing (List Value)
  | 0, _ => tooDeep
  | _, [] => return []
  | fuel + 1, e :: rest => do
    let v ← eval fuel e
    return v :: (← evalAll fuel rest)

/-- the key that some values are together -/
def keyOf : Nat → List Expression → Doing Octets
  | 0, _ => tooDeep
  | fuel + 1, keys => do
    let os ← (← evalAll fuel keys).mapM asText
    return joinWith (← textOf "SUBSEP") os

/-- the regular expression that an expression is -/
def patternOf : Nat → Expression → Doing Regex
  | 0, _ => tooDeep
  | fuel + 1, e => do
    match e with
    | .regex o => regexOf o
    | e => regexOf (← asText (← eval fuel e))

/-- calls a function of the program. A name is given with its array. -/
def callFunction : Nat → Octets → List Expression → Doing Value
  | 0, _, _ => tooDeep
  | fuel + 1, name, args => do
    match Table.find? name (← read).program.functions with
    | none => fail (octets "function " ++ name ++ octets " never defined")
    | some d =>
      let slots ← slotsOf fuel args
      let missing := d.parameters.length - slots.length
      let w ← get
      let own := slots ++ (List.range missing).map fun k => ⟨Value.unset, w.fresh + k⟩
      set { w with
        fresh := w.fresh + missing
        locals := (d.parameters.zip own).foldl (fun vars (n, s) => vars.insert n s) {} }
      let result ← tryCatch (do exec fuel d.body; return Value.unset) fun
        | .back v => return v
        | other => throw other
      modify fun after => { after with locals := w.locals }
      return result

/-- the slots of arguments -/
def slotsOf : Nat → List Expression → Doing (List Slot)
  | 0, _ => tooDeep
  | _, [] => return []
  | fuel + 1, e :: rest => do
    let s ← match e with
      | .name o => do
        let s ← slot o
        let v ← valueNamed o
        pure { s with value := v }
      | e => do
        let v ← eval fuel e
        let w ← get
        set { w with fresh := w.fresh + 1 }
        pure ⟨v, w.fresh⟩
    return s :: (← slotsOf fuel rest)

/-- calls a function that is always there -/
def callBuiltin : Nat → String → List Expression → Doing Value
  | 0, _, _ => tooDeep
  | fuel + 1, name, args => do
    let textAt (k : Nat) : Doing Octets := do
      match args[k]? with
      | some e => asText (← eval fuel e)
      | none => return []
    let numberAt (k : Nat) : Doing Extended := do
      match args[k]? with
      | some e => return (← eval fuel e).toNumber
      | none => return .zero
    let toWhole (x : Extended) : Int := (Value.number x).toInt
    match name, args with
    | "length", [] => return .ofInt ((← get).record.length : Nat)
    | "length", [.name o] => do
      let s ← slot o
      let all ← items s.array
      if all.isEmpty then return .ofInt ((← asText (← valueNamed o)).length : Nat) else return .ofInt (all.size : Nat)
    | "length", _ => return .ofInt ((← textAt 0).length : Nat)
    | "substr", _ => do
      let o ← textAt 0
      let start ← numberAt 1
      if args.length = 2 then return .text (partOf o (toWhole start) none)
      else return .text (partOf o (toWhole start) (some (toWhole (← numberAt 2))))
    | "index", _ => do
      let o ← textAt 0
      let part ← textAt 1
      let places := List.range (o.length + 1)
      match places.find? fun k => part.isPrefixOf (o.drop k) with
      | some k => return .ofInt (k + 1 : Nat)
      | none => return .ofInt 0
    | "split", _ => do
      let o ← textAt 0
      let array ← match (args[1]? : Option Expression) with
        | some (.name a) => do pure (← slot a).array
        | _ => pure 0
      let separator ← match (args[2]? : Option Expression) with
        | none => separatorOf (← textOf "FS")
        | some (.regex r) => Separator.pattern <$> regexOf r
        | some e => do separatorOf (← asText (← eval fuel e))
      let parts := separator.cut false o
      fill array parts
      return .ofInt (parts.length : Nat)
    | "sub", _ => substitute fuel false args
    | "gsub", _ => substitute fuel true args
    | "match", _ => do
      let o ← textAt 0
      let r ← match args[1]? with
        | some p => patternOf fuel p
        | none => regexOf []
      let (start, length) : Int × Int := match r.search expressionMode (.atStart o) with
        | some (s, e) => ((s.place + 1 : Nat), (e.place - s.place : Nat))
        | none => (0, -1)
      putSlot "RSTART".toList (.ofInt start)
      putSlot "RLENGTH".toList (.ofInt length)
      return .ofInt start
    | "sprintf", _ => do return .text (← formatted "sprintf" (← evalAll fuel args) false)
    | "atan2", _ => do
      let y ← numberAt 0
      let x ← numberAt 1
      return .number (.ofFloat (Float.atan2 y.toFloat x.toFloat))
    | "rand", _ => do
      let w ← get
      let seed := (w.seed * 1103515245 + 12345) % 2147483648
      set { w with seed }
      return .number (.ofQuotient false seed 2147483648)
    | "srand", _ => do
      let before := (← get).seed
      let asked ← numberAt 0
      let seed := if args.isEmpty then 1 else (toWhole asked).toNat
      modify fun w => { w with seed }
      return .ofInt (before : Nat)
    | "tolower", _ => do return .text ((← textAt 0).map Char.toLower)
    | "toupper", _ => do return .text ((← textAt 0).map Char.toUpper)
    | "system", _ => do
      let command ← textAt 0
      flush
      let w ← get
      let r ← runCommand command ⟨w.input, none⟩
      modify fun w => { w with input := r.input, out := r.out :: w.out }
      return .ofInt (r.status : Nat)
    | "close", _ => do return .ofInt (← close (← textAt 0))
    | "fflush", _ => do
      flush
      return .ofInt 0
    | _, _ => do
      let x ← numberAt 0
      return .number (numberFunction name x)

/-- puts a text for what a pattern matches; gives how many matches there were -/
def substitute : Nat → Bool → List Expression → Doing Value
  | 0, _, _ => tooDeep
  | fuel + 1, all, args => do
    match args with
    | p :: replacement :: rest => do
      let r ← patternOf fuel p
      let put' ← asText (← eval fuel replacement)
      let target := rest.headD (.field (.number .zero))
      let o ← asText (← eval fuel target)
      let (pieces, n) := replaceMatches r put' all (2 * o.length + 4) false (.atStart o)
      if n != 0 then put fuel target (.text pieces.flatten)
      return .ofInt (n : Nat)
    | _ => return .ofInt 0

/-- does a statement -/
def exec : Nat → Statement → Doing Unit
  | 0, _ => tooDeep
  | fuel + 1, s => do
    match s with
    | .value e => do
      let _ ← eval fuel e
    | .print isFormat args outlet => do
      let values ← evalAll fuel args
      let o ← if isFormat then formatted "printf" values outlet.isNone
        else do
          let format ← textOf "OFMT"
          let record := (← get).record
          let shown := if args.isEmpty then [record] else values.map (Value.toText format)
          pure (joinWith (← textOf "OFS") shown ++ (← textOf "ORS"))
      match outlet with
      | none => modify fun w => { w with out := o :: w.out }
      | some (kind, e) => do writeTo kind (← asText (← eval fuel e)) o
    | .branch condition body otherwise => do
      if (← eval fuel condition).holds then exec fuel body else exec fuel otherwise
    | .loop condition body => loop fuel (some condition) none body
    | .loopAfter body condition => do
      if ← inRound (exec fuel body) then loop fuel (some condition) none body
    | .count first condition step body => do
      match first with
      | some first => exec fuel first
      | none => pure ()
      loop fuel condition step body
    | .each name array body => do
      let keys ← keysOf (← slot array).array
      eachKey fuel name keys body
    | .block body => execAll fuel body
    | .next => throw .next
    | .nextFile => throw .nextFile
    | .exit status => do
      match status with
      | some e => do
        let n := (← eval fuel e).toInt
        modify fun w => { w with status := (n % 256).toNat }
      | none => pure ()
      throw .exit
    | .back value => do
      match value with
      | some e => do throw (.back (← eval fuel e))
      | none => throw (.back .unset)
    | .leave => throw .leave
    | .again => throw .again
    | .delete array keys => do
      let a := (← slot array).array
      if keys.isEmpty then modify fun w => { w with arrays := w.arrays.insert a {} }
      else do
        let key ← keyOf fuel keys
        let all ← items a
        modify fun w => { w with arrays := w.arrays.insert a (all.erase key) }

/-- does statements one after the other -/
def execAll : Nat → List Statement → Doing Unit
  | 0, _ => tooDeep
  | _, [] => pure ()
  | fuel + 1, s :: rest => do
    exec fuel s
    execAll fuel rest

/-- does a body while a condition holds, with a step after each round -/
def loop : Nat → Option Expression → Option Statement → Statement → Doing Unit
  | 0, _, _, _ => tooDeep
  | fuel + 1, condition, step, body => do
    let holds ← match condition with
      | some e => do pure (← eval fuel e).holds
      | none => pure true
    if holds then
      if ← inRound (exec fuel body) then
        match step with
        | some s => exec fuel s
        | none => pure ()
        loop fuel condition step body

/-- does a body for each key -/
def eachKey : Nat → Octets → List Octets → Statement → Doing Unit
  | 0, _, _, _ => tooDeep
  | _, _, [], _ => pure ()
  | fuel + 1, name, key :: rest, body => do
    putVariable name (.text key)
    if ← inRound (exec fuel body) then eachKey fuel name rest body

end

/-- how deep a run may go -/
def depth : Nat := 1000000

/-- does a rule for the record if it is for it -/
def tryRule (index : Nat) (rule : Rule) : Doing Unit := do
  match rule.pattern with
  | .first => pure ()
  | .last => pure ()
  | .every => exec depth rule.body
  | .holds condition => do
    if (← eval depth condition).holds then exec depth rule.body
  | .between start stop => do
    let going := (← get).active.contains index
    let begins ← if going then pure true else do pure (← eval depth start).holds
    if begins then
      let ends ← do pure (← eval depth stop).holds
      modify fun w =>
        { w with active := if ends then w.active.filter (· != index) else if going then w.active else index :: w.active }
      exec depth rule.body

/-- does the rules for each record -/
def eachRecord (rules : List (Rule × Nat)) : Nat → Doing Unit
  | 0 => pure ()
  | fuel + 1 => do
    match ← nextRecord 10000 with
    | none => pure ()
    | some o => do
      count "NR"
      count "FNR"
      setRecord o
      tryCatch (rules.forM fun (r, k) => tryRule k r) fun
        | .next => pure ()
        | .nextFile => modify fun w => { w with rest := none }
        | other => throw other
      eachRecord rules fuel

/-- does everything that a program says -/
def whole (bound : Nat) : Doing Unit := do
  let rules := (← read).program.rules
  let ending := rules.filter fun r => match r.pattern with
    | .last => true
    | _ => false
  let opening := rules.filter fun r => match r.pattern with
    | .first => true
    | _ => false
  let through (act : Doing Unit) : Doing Bool :=
    tryCatch (do act; return true) fun
      | .exit => return false
      | other => throw other
  let goesOn ← through (opening.forM fun r => exec depth r.body)
  if goesOn && opening.length < rules.length then
    let _ ← through (eachRecord rules.zipIdx bound)
  let _ ← through (ending.forM fun r => exec depth r.body)

/-- closes all that was written to -/
def settleAll : Doing Unit := do
  let all := (← get).written
  modify fun w => { w with written := [] }
  all.forM fun o => do
    let _ ← settle o

end ScriptBridge.Shell.RecordScript

/-! ## The command -/

namespace ScriptBridge.Shell.RecordScript

/-- what was asked for: program texts, variables with their values, and operands -/
structure Asked where
  texts : List Octets
  assigned : List (Octets × Octets)
  separator : Option Octets
  operands : List Octets

/-- takes the options out of arguments -/
def takeAsked (c : Call) : Nat → List Octets → Asked → Running Asked
  | 0, _, a => return a
  | _, [], a => return a
  | fuel + 1, arg :: rest, a =>
    let withValue (more : Octets) (use : Octets → Running Asked → Running Asked) (go : List Octets → Running Asked) :
        Running Asked :=
      match more, rest with
      | _ :: _, rest => use more (go rest)
      | [], value :: rest => use value (go rest)
      | [], [] => c.refuse 2 (octets "option requires an argument -- " ++ arg.drop 1)
    match arg with
    | ['-', '-'] => return { a with operands := rest }
    | '-' :: 'f' :: more =>
      withValue more (fun name go => do
        let text ← match (if namesInput name then .ok c.input else c.readFile name) with
          | .ok o => pure o
          | .error e => c.refuse 2 (octets "cannot open \"" ++ name ++ octets "\" (" ++ briefCause e ++ [')'])
        let found ← go
        return { found with texts := text :: found.texts }) fun rest => takeAsked c fuel rest a
    | '-' :: 'F' :: more =>
      withValue more (fun o go => do
        let found ← go
        return { found with separator := found.separator.orElse fun _ => some (withoutEscapes (o.length + 1) o) })
        fun rest => takeAsked c fuel rest a
    | '-' :: 'v' :: more =>
      withValue more (fun o go => do
        match Doing.assignment? o with
        | none => c.refuse 2 (octets "improper assignment: -v " ++ o)
        | some v =>
          let found ← go
          return { found with assigned := v :: found.assigned }) fun rest => takeAsked c fuel rest a
    | '-' :: 'W' :: more => withValue more (fun _ go => go) fun rest => takeAsked c fuel rest a
    | '-' :: _ :: _ => c.refuse 2 (octets "not an option: " ++ arg)
    | _ => return { a with operands := arg :: rest }

/-- the state at the start -/
def firstWork (c : Call) (a : Asked) (operands : List Octets) : Work :=
  let given : List (String × Value) :=
    [("FS", .text ((a.separator).getD [' '])), ("OFS", .text [' ']), ("RS", .text ['\n']), ("ORS", .text ['\n']),
      ("NR", .ofInt 0), ("FNR", .ofInt 0), ("SUBSEP", .text [Char.ofNat 28]), ("CONVFMT", .text (octets "%.6g")),
      ("OFMT", .text (octets "%.6g")), ("FILENAME", .text []), ("RSTART", .ofInt 0), ("RLENGTH", .ofInt (-1)),
      ("ARGC", .ofInt ((operands.length + 1 : Nat) : Int)), ("ARGV", .unset), ("ENVIRON", .unset)]
  let globals : Slots := given.zipIdx.foldl (fun (vars : Slots) (p, k) => vars.insert p.1.toList ⟨p.2, k⟩) {}
  let globals := a.assigned.zipIdx.foldl (fun (vars : Slots) (p, k) =>
    let array := match vars[p.1]? with
      | some s => s.array
      | none => given.length + k
    vars.insert p.1 ⟨.input p.2, array⟩) globals
  let argumentItems : Items := (lastPart c.name :: operands).zipIdx.foldl (fun (items : Items) (o, k) =>
    items.insert (number (k : Nat)) (.input o, k)) {}
  let environmentItems : Items := c.environment.zipIdx.foldl (fun (items : Items) (e, k) =>
    items.insert e.1 (.input e.2, k)) {}
  let arrayOf (name : String) : Nat := (given.findIdx? fun p => p.1 == name).getD 0
  { globals
    locals := {}
    arrays := (({} : Std.HashMap Nat Items).insert (arrayOf "ARGV") argumentItems).insert (arrayOf "ENVIRON") environmentItems
    fresh := given.length + a.assigned.length
    time := operands.length + c.environment.length + 1
    record := []
    fields := #[]
    rest := none
    index := 1
    named := false
    input := c.input
    readers := []
    written := []
    out := []
    err := []
    files := c.files
    active := []
    status := 0
    seed := 1 }

/-- runs a program over the records of files or of the input -/
def awk (run : Runner) (c : Call) : Running UtilityRun := do
  let c := { c with name := lastPart c.name }
  let a ← takeAsked c (c.args.length + 1) c.args ⟨[], [], none, []⟩
  let (text, operands) ← match a.texts, a.operands with
    | [], [] => c.refuse 2 (octets "no program given")
    | [], text :: operands => pure (text, operands)
    | texts, operands => pure (joinWith ['\n'] texts, operands)
  let program ← match Program.read text with
    | .ok program => pure program
    | .error f => c.refuse 2 f.message
  let bound := c.input.length + operands.length + 1000000
  let (ended, w) := ((whole bound).run ⟨c, run, program⟩).run (firstWork c a operands)
  let (_, w) := (Doing.flush.run ⟨c, run, program⟩).run w
  let (_, w) := (settleAll.run ⟨c, run, program⟩).run w
  let (status, complaint) := match ended with
    | .error (.failed message) => (2, c.complaint message)
    | _ => (w.status, [])
  return ⟨status, w.out.reverse.flatten, complaint ++ w.err.reverse.flatten, some 0, w.input, w.files⟩

end ScriptBridge.Shell.RecordScript
