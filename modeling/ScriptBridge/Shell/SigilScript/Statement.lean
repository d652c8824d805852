/-
Running statements. Functions with names are known from the start of the block that they stand in; a round of a loop has a
scope of its own, and a loop is left or goes on by its label.
-/
import ScriptBridge.Shell.SigilScript.Evaluate

namespace ScriptBridge.Shell.SigilScript

/-- makes the functions of statements known; those of inner blocks too, as long as these do not run -/
def hoist (package : String) : List Stmt → Work String
  | [] => return package
  | s :: rest => do
    match s with
    | .function "BEGIN" _ => hoist package rest
    | .function name body => do
      let scope := (← get).scope
      let home := String.intercalate "::" (name.splitOn "::").dropLast
      let f ← allocate (.function ⟨name, if home.isEmpty then package else home, body, scope⟩)
      if name == "END" then modify fun w => { w with ends := f :: w.ends }
      else modify fun w => { w with globals := w.globals.insert ("&" ++ name) f }
      hoist package rest
    | .package name => hoist name rest
    | .block _ body => do
      let _ ← hoistInner package body
      hoist package rest
    | _ => hoist package rest
where
  /-- makes the functions of an inner block known -/
  hoistInner (package : String) (body : List Stmt) : Work String := do
    let scope := (← get).scope
    for s in body do
      match s with
      | .function name body =>
        if name != "END" then
          let home := String.intercalate "::" (name.splitOn "::").dropLast
          let f ← allocate (.function ⟨name, if home.isEmpty then package else home, body, scope⟩)
          modify fun w => { w with globals := w.globals.insert ("&" ++ name) f }
      | _ => pure ()
    return package

/-- whether leaving with a label is about a loop -/
def isAbout (label loop : String) : Bool := label.isEmpty || label == loop

/-- how a round of a loop ended -/
inductive RoundEnd where
  | next
  | out
  | anew

/-- a round of a loop with a label -/
def inRound (label : String) (act : Work Unit) : Work RoundEnd :=
  tryCatch (do
    act
    return .next) fun
    | .out l => if isAbout l label then return .out else throw (.out l)
    | .again l => if isAbout l label then return .next else throw (.again l)
    | .anew l => if isAbout l label then return .anew else throw (.anew l)
    | leave => throw leave

/-- a round that may be done anew; gives whether the loop is over -/
def roundsOf (label : String) (act : Work Unit) : Nat → Work Bool
  | 0 => throw .stuck
  | fuel + 1 => do
    match ← inRound label act with
    | .out => return true
    | .anew => roundsOf label act fuel
    | .next => return false

/-- how many rounds a loop may have -/
def roundLimit : Nat := 100000000

/-- brings in what a module has -/
def bring (name : String) (names : List String) : Work Unit := do
  match name with
  | "strict" => if names.isEmpty || names == ["*"] || names.contains "refs" then modify fun w => { w with strict := true }
  | "" => if names.isEmpty || names == ["*"] || names.contains "refs" then modify fun w => { w with strict := false }
  | "parent" | "base" => do
    let bases := names.filter fun n => n != "-norequire"
    let a ← globalSlot '@' "ISA"
    let values ← valuesOf a
    setArray a (values ++ bases.map textValue)
  | "FindBin" => do
    let w ← get
    let folder := folderOf (octets w.file)
    let here := Shell.placeText w.files.here
    let home := if folder == ['.'] then here else if folder.head? == some '/' then folder else joinedPath [here, folder]
    for n in ["Bin", "RealBin"] do setCell (← globalSlot '$' ("FindBin::" ++ n)) (.text home)
    for n in names do
      if n == "$Bin" || n == "$RealBin" then declare n (← globalSlot '$' ("FindBin::" ++ String.ofList (n.toList.drop 1)))
  | "open" =>
    if names.contains ":std" then
      let coded := names.any fun n => (n.toLower.splitOn "utf").length != 1
      for n in ["STDIN", "STDOUT", "STDERR"] do
        match (← get).globals.get? ("*main::" ++ n) with
        | some a => match ← fileAt? a with
          | some f => update a (.file { f with coded })
          | none => pure ()
        | none => pure ()
  | name =>
    if !knownModules.contains name then
      let file := String.intercalate "/" (name.splitOn "::") ++ ".pm"
      let place ← placeWords
      throw (.died (.text (octets ("Can't locate " ++ file ++ " in @INC (you may need to install the " ++ name
        ++ " module) (@INC entries checked: " ++ String.intercalate " " builtinMany.searchedFolders ++ ")")
        ++ place ++ octets "BEGIN failed--compilation aborted" ++ place)))
    let functions := moduleFunctions name
    for f in functions do
      let a ← allocate (.native (name ++ "::" ++ f))
      modify fun w => { w with globals := w.globals.insert ("&" ++ name ++ "::" ++ f) a }
    let wanted := if names == ["*"] then moduleDefaults name
      else names.flatMap fun n => if n.startsWith ":" then functions else [n]
    let package := (← get).package
    for n in wanted do
      match (← get).globals.get? ("&" ++ name ++ "::" ++ n) with
      | some a => modify fun w => { w with globals := w.globals.insert ("&" ++ package ++ "::" ++ n) a }
      | none => pure ()

/-- a loop as long as a test holds -/
def whileLoop (ev : Evaluator) (label : String) (test step : Option Expr) (body after : List Stmt) : Nat → Work Unit
  | 0 => throw .stuck
  | fuel + 1 => do
    let ended ← inScope [] do
      let holds ← match test with
        | some e => do pure (isTrue (← ev.one e))
        | none => pure true
      if !holds then return true
      else if ← roundsOf label (ev.body body) roundLimit then return true
      else do
        if !after.isEmpty then ev.body after
        match step with
        | some e => do
          let _ ← ev.one e
        | none => pure ()
        return false
    if ended then return () else whileLoop ev label test step body after fuel

/-- a loop through cells -/
def eachLoop (ev : Evaluator) (label : String) (around : Nat → Work Unit → Work Unit) (body : List Stmt) :
    List Nat → Work Unit
  | [] => return ()
  | a :: rest => do
    if ← roundsOf label (around a (ev.body body)) roundLimit then return () else eachLoop ev label around body rest

/-- the block that the tests of a statement lead to, with the value of the last test where there is none -/
def chosenCase (ev : Evaluator) (otherwise : List Stmt) : List (Expr × List Stmt) → Value → Work (List Stmt × Value)
  | [], v => return (otherwise, v)
  | (test, body) :: rest, _ => do
    let v ← ev.one test
    if isTrue v then return (body, v) else chosenCase ev otherwise rest v

/-- runs a statement -/
def runStmt (ev : Evaluator) (s : Stmt) : Work Unit := do
  match s with
  | .expr line e => do
    modify fun w => { w with line }
    match e with
    | .call name args bare => do
      let _ ← callNamed ev name args bare .nothing
    | e => do
      let _ ← ev.one e
  | .branch line cases otherwise => do
    modify fun w => { w with line }
    let (body, _) ← chosenCase ev otherwise cases .undefined
    if !body.isEmpty then ev.body body
  | .loop line label test step body after => do
    modify fun w => { w with line }
    whileLoop ev label test step body after roundLimit
  | .trailing line body test => do
    modify fun w => { w with line }
    ev.body body
    let rec go : Nat → Work Unit
      | 0 => throw .stuck
      | fuel + 1 => do
        if isTrue (← ev.one test) then
          ev.body body
          go fuel
    go roundLimit
  | .each line label name list body => do
    modify fun w => { w with line }
    let cells ← ev.slots list
    match name with
    | none => eachLoop ev label (fun a act => withTopic a act) body cells
    | some (.scalar n) => do
      if (← lexical? ("$" ++ n)).isSome then eachLoop ev label (fun a act => inScope [("$" ++ n, a)] act) body cells
      else
        let full := fullName (← get).package n
        eachLoop ev label (fun a act => withNames [(full, a)] act) body cells
    | some (.declare _ [.scalar n] _) => eachLoop ev label (fun a act => inScope [("$" ++ n, a)] act) body cells
    | some _ => die "Missing $ on loop variable"
  | .block label body => do
    let _ ← roundsOf label (ev.body body) roundLimit
  | .function "BEGIN" body => ev.body body
  | .function .. => return ()
  | .package name => modify fun w => { w with package := name }
  | .bring line name names => do
    modify fun w => { w with line }
    bring name names

/-- the values of the last statement of a block -/
def lastValues (ev : Evaluator) (want : Want) (s : Stmt) : Work (List Value) := do
  match s with
  | .expr line e => do
    modify fun w => { w with line }
    match want with
    | .nothing => do
      runStmt ev s
      return []
    | want => valuesFor ev want e
  | .branch line cases otherwise => do
    modify fun w => { w with line }
    let (body, v) ← chosenCase ev otherwise cases .undefined
    if body.isEmpty then return if want == .nothing then [] else [v] else ev.block want body
  | .block label body => do
    tryCatch (ev.block want body) fun
      | .out l => if isAbout l label then return [] else throw (.out l)
      | .again l => if isAbout l label then return [] else throw (.again l)
      | leave => throw leave
  | s => do
    runStmt ev s
    return []

/-- runs the statements of a block -/
def runBody (ev : Evaluator) (body : List Stmt) : Work Unit := inScope [] do
  let _ ← hoist (← get).package body
  body.forM (runStmt ev)

/-- the values of a block -/
def blockValues (ev : Evaluator) (want : Want) (body : List Stmt) : Work (List Value) := inScope [] do
  let _ ← hoist (← get).package body
  match body.getLast? with
  | none => return []
  | some last => do
    body.dropLast.forM (runStmt ev)
    lastValues ev want last

/-- the values of a call -/
def applied (ev : Evaluator) (address : Nat) (args : List Nat) (want : Want) : Work (List Value) := do
  match ← thingAt address with
  | .function f => callFunction ev f args want
  | .native name => nativeFunction ev name args want
  | _ => die "Not a CODE reference"

/-- the evaluation of programs whose parts lie in each other up to a depth -/
def evaluator : Nat → Evaluator
  | 0 =>
    { one := fun _ => throw .stuck
      many := fun _ => throw .stuck
      slots := fun _ => throw .stuck
      slot := fun _ => throw .stuck
      array := fun _ _ => throw .stuck
      table := fun _ _ => throw .stuck
      block := fun _ _ => throw .stuck
      body := fun _ => throw .stuck
      apply := fun _ _ _ => throw .stuck }
  | n + 1 =>
    { one := fun e => oneOf (evaluator n) e
      many := fun e => manyOf (evaluator n) e
      slots := fun e => slotsOf (evaluator n) e
      slot := fun e => slotOf (evaluator n) e
      array := fun make e => arrayOf (evaluator n) make e
      table := fun make e => tableOf (evaluator n) make e
      block := fun want body => blockValues (evaluator n) want body
      body := fun body => runBody (evaluator n) body
      apply := fun address args want => applied (evaluator n) address args want }

end ScriptBridge.Shell.SigilScript
