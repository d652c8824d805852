/-
Giving places their values. One place takes one value; a list of places takes the values of a list in turn, and an array or
a table in it takes all that are left.
-/
import ScriptBridge.Shell.SigilScript.Function

namespace ScriptBridge.Shell.SigilScript

/-- puts a text in the place of a part of another one -/
def putPart (slot : Nat) (offset : Int) (length : Option Int) (new : Octets) : Work Value := do
  let o ← textOf (← cellAt slot)
  match partPlace? o.length offset length with
  | some (start, stop) => do
    setCell slot (.text (o.take start ++ new ++ o.drop stop))
    return .text ((o.take stop).drop start)
  | none => die "substr outside of string"

/-- gives a name of a package something to mean, by its mark -/
def putName (name : String) (v : Value) : Work Unit := do
  let package := (← get).package
  let put (mark : String) (a : Nat) : Work Unit :=
    modify fun w => { w with globals := w.globals.insert (mark ++ fullName package name) a }
  match v with
  | .ref a =>
    match ← thingAt a with
    | .function _ => put "&" a
    | .native _ => put "&" a
    | .array _ => put "@" a
    | .table _ => put "%" a
    | .file _ => put "*" a
    | .cell (.handle other) => do
      let w ← get
      match w.globals.get? ("*" ++ fullName package other) with
      | some b => put "*" b
      | none => return ()
    | _ => put "$" a
  | .handle other => do
    for mark in ["$", "@", "%", "&", "*"] do
      match (← get).globals.get? (mark ++ fullName package other) with
      | some a => put mark a
      | none => pure ()
  | _ => return ()

/-- gives a place its value -/
def storeOne (ev : Evaluator) (target : Expr) (v : Value) : Work Unit := do
  match target with
  | .scalar "!" => do
    let n ← sizeOf v
    modify fun w => { w with cause := n }
  | .scalar "?" => do
    let n ← intOf v
    modify fun w => { w with child := n }
  | .scalar "|" => do
    setCell (← scalarSlot "|") v
    if isTrue v then flush
  | .scalar "." => do
    let n ← sizeOf v
    match (← get).reading with
    | some (_, a) => match ← fileAt? a with
      | some f => update a (.file { f with rows := n })
      | none => return ()
    | none => return ()
  | .lastIndex array => do
    let array ← ev.array true array
    let n ← intOf v
    let size := (n + 1).toNat
    changeArray array fun items =>
      if size ≤ items.size then items.extract 0 size else items ++ Array.replicate (size - items.size) 0
  | .builtin "substr" (place :: offset :: more) => do
    let slot ← ev.slot place
    let offset ← intOf (← ev.one offset)
    let length ← match more with
      | e :: _ => some <$> intOf (← ev.one e)
      | [] => pure none
    let _ ← putPart slot offset length (← textOf v)
  | .builtin "pos" args => do
    let slot ← match args with
      | e :: _ => ev.slot e
      | [] => scalarSlot "_"
    match v with
    | .undefined => modify fun w => { w with positions := w.positions.filter fun p => p.1 != slot }
    | v => do
      let n ← sizeOf v
      modify fun w => { w with positions := (slot, n, false) :: w.positions.filter fun p => p.1 != slot }
  | .handle name => putName name v
  | .builtin "*" [e] => do putName (String.ofList (← textOf (← ev.one e))) v
  | .declare .passing [.handle name] _ => do
    makePassing ev (.handle name)
    putName name v
  | .declare .passing [.scalar name] false => do
    makePassing ev (.scalar name)
    setCell (← scalarSlot name) v
    if name == "|" && isTrue v then flush
  | target => do setCell (← ev.slot target) v

/-- the places that a target is made of -/
def targetsOf : Expr → List Expr
  | .list members => members.attach.flatMap fun ⟨e, _⟩ => targetsOf e
  | .declare reach targets _ => targets.map fun t => .declare reach [t] false
  | e => [e]

/-- what takes all values that are left: an array, or a table -/
inductive Greedy where
  | array (e : Expr)
  | table (e : Expr)

/-- whether a target takes all values that are left -/
def greedy? (e : Expr) : Option Greedy :=
  match e with
  | .array _ => some (.array e)
  | .arrayAt _ => some (.array e)
  | .table _ => some (.table e)
  | .tableAt _ => some (.table e)
  | .declare _ [.array _] _ => some (.array e)
  | .declare _ [.table _] _ => some (.table e)
  | _ => none

/-- gives a target the first of the values, or all of them; the others are given back -/
def storeFrom (ev : Evaluator) (target : Expr) (values : List Value) : Work (List Value) := do
  match greedy? target with
  | some (.array e) => do
    setArray (← ev.array true e) values
    return []
  | some (.table e) => do
    let entries ← tableEntries values
    update (← ev.table true e) (.table entries)
    return []
  | none =>
    match target with
    | .builtin "undef" _ => return values.drop 1
    | .declare _ [.builtin "undef" _] _ => return values.drop 1
    | .items array indices => do
      let array ← ev.array true array
      let indices ← ev.many indices
      for (i, v) in indices.zip (values ++ List.replicate (indices.length - values.length) Value.undefined) do
        match placeIn (← itemsOf array).size (← intOf i) with
        | some p => setCell (← itemSlot array p) v
        | none => pure ()
      return values.drop indices.length
    | .entries table keys => do
      let table ← ev.table true table
      let keys ← ev.many keys
      for (k, v) in keys.zip (values ++ List.replicate (keys.length - values.length) Value.undefined) do
        setCell (← entrySlot table (← textOf k)) v
      return values.drop keys.length
    | target => do
      storeOne ev target (values.headD .undefined)
      return values.drop 1

/-- gives targets the values of a list in turn -/
def storeAll (ev : Evaluator) (targets : List Expr) (values : List Value) : Work Unit := do
  let mut left := values
  for t in targets do left ← storeFrom ev t left

/-- whether a target is no cell of its own -/
def isOdd : Expr → Bool
  | .scalar name => ["!", "?", "|", "."].contains name
  | .lastIndex _ => true
  | .builtin "substr" _ => true
  | .builtin "pos" _ => true
  | _ => false

/-- gives a target a value that lasts, once -/
def storeLasting (ev : Evaluator) (target : Expr) (value : Expr) : Work Unit := do
  let before := (← get).lasting.length
  declareTarget ev .lasting target
  if before < (← get).lasting.length then
    if isOne target then setCell (← ev.slot target) (← ev.one value)
    else
      let values ← ev.many value
      let _ ← storeFrom ev target values

/-- an assignment that comes to one value -/
def assignOne (ev : Evaluator) (op : String) (target value : Expr) : Work Value := do
  match op with
  | "" =>
    match target with
    | .declare .lasting [t] false => do
      storeLasting ev t value
      ev.one t
    | target =>
      if isOne target then do
        let v ← ev.one value
        storeOne ev target v
        return v
      else do
        let values ← ev.many value
        storeAll ev (targetsOf target) values
        return .int values.length
  | "||" | "&&" | "//" => do
    let slot ← ev.slot target
    let before ← cellAt slot
    let keeps : Bool := match op with
      | "||" => isTrue before
      | "&&" => !isTrue before
      | _ => isDefined before
    if keeps then return before
    else do
      let v ← ev.one value
      setCell slot v
      return v
  | op =>
    if isOdd target then do
      let before ← ev.one target
      let v ← applyBinary op before (← ev.one value)
      storeOne ev target v
      return v
    else match greedy? target with
      | some (.array e) => do
        let array ← ev.array true e
        let n ← sizeOf (← ev.one value)
        let values ← valuesOf array
        if op == "x" then setArray array (List.replicate n values).flatten
        return .int (← itemsOf array).size
      | _ => do
        let slot ← ev.slot target
        let second ← ev.one value
        let v ← applyBinary op (← cellAt slot) second
        setCell slot v
        return v

/-- an assignment that comes to many values -/
def assignMany (ev : Evaluator) (op : String) (target value : Expr) : Work (List Value) := do
  if isOne target || op != "" then return [← assignOne ev op target value]
  else do
    let _ ← assignOne ev op target value
    ev.many (declared target)

end ScriptBridge.Shell.SigilScript
