/-
Places of values: the cells, arrays and tables that names, items and references mean. What is not there yet is made where it
is about to be given a value.

An `Evaluator` is what the parts of the evaluation know of each other.
-/
import ScriptBridge.Shell.SigilScript.Match
import ScriptBridge.Shell.SigilScript.Transfer

namespace ScriptBridge.Shell.SigilScript

/-- how expressions and statements are evaluated: to one value, to many, to the addresses of cells, of an array or of a
table that is made if need be; a block to its values or only to what it does; and a function with its arguments -/
structure Evaluator where
  one : Expr → Work Value
  many : Expr → Work (List Value)
  slots : Expr → Work (List Nat)
  slot : Expr → Work Nat
  array : Bool → Expr → Work Nat
  table : Bool → Expr → Work Nat
  block : Want → List Stmt → Work (List Value)
  body : List Stmt → Work Unit
  apply : Nat → List Nat → Want → Work (List Value)

/-- the address of the cell of a name -/
def scalarSlot (name : String) : Work Nat := do
  match ← lexical? ("$" ++ name) with
  | some a => return a
  | none =>
    match ← foundValue? name with
    | some v => newCell v
    | none => globalSlot '$' name

/-- the value of a name -/
def scalarValue (name : String) : Work Value := do
  match ← lexical? ("$" ++ name) with
  | some a => cellAt a
  | none =>
    match ← foundValue? name with
    | some v => return v
    | none =>
      match name with
      | "!" => do
        let n := (← get).cause
        return .both n (octets (causeWords n))
      | "?" => return .int (← get).child
      | "." => do
        match (← get).reading with
        | some (_, a) => match ← fileAt? a with
          | some f => return .int f.rows
          | none => return .undefined
        | none => return .undefined
      | "$" => return .int ownNumber
      | "<" | ">" | "(" | ")" => return .int 0
      | _ => nameValue name

/-- what a mark stands for, in messages -/
def markWords (mark : Char) : String × String :=
  match mark with
  | '@' => ("an", "ARRAY")
  | '%' => ("a", "HASH")
  | '&' => ("a", "CODE")
  | _ => ("a", "SCALAR")

/-- whether what lies at an address is what a mark is for -/
def fits (mark : Char) (t : Thing) : Bool :=
  match mark, t with
  | '@', .array _ => true
  | '%', .table _ => true
  | '&', .function _ => true
  | '&', .native _ => true
  | '$', .cell _ => true
  | '*', .file _ => true
  | _, _ => false

/-- the address that a value refers to, for a mark; `none` where the value is not given and that is no fault -/
def referred (mark : Char) (v : Value) (makes : Bool) : Work (Option Nat) := do
  let (article, word) := markWords mark
  match v with
  | .ref a =>
    let t ← thingAt a
    if fits mark t then return some a
    else match t with
      | .cell (.handle name) => some <$> globalSlot mark name
      | _ => die s!"Not {article} {word} reference"
  | .handle name => some <$> globalSlot mark name
  | .undefined =>
    if (← get).strict && !makes then die s!"Can't use an undefined value as {article} {word} reference" else return none
  | v => do
    let o ← textOf v
    if (← get).strict then
      let shown := String.ofList (o.take 32)
      let more := if 32 < o.length then "..." else ""
      let word := if mark == '&' then "subroutine" else word
      die s!"Can't use string (\"{shown}\"{more}) as {article} {word} ref while \"strict refs\" in use"
    else if mark == '&' then functionNamed? (String.ofList o)
    else some <$> globalSlot mark (String.ofList o)

/-- whether an expression is a place whose value can be made -/
def isPlace : Expr → Bool
  | .scalar _ => true
  | .item .. => true
  | .entry .. => true
  | .scalarAt _ => true
  | .declare _ [.scalar _] false => true
  | .assign .. => true
  | _ => false

/-- the address that an expression refers to, for a mark; where `make` is set a place that is not given is given something
new to refer to -/
def reached (ev : Evaluator) (mark : Char) (make : Bool) (e : Expr) : Work (Option Nat) := do
  if make && isPlace e then do
    let slot ← ev.slot e
    match ← cellAt slot with
    | .undefined => do
      let a ← allocate (freshThing mark)
      setCell slot (.ref a)
      return some a
    | v => referred mark v true
  else do
    let v ← ev.one e
    match ← referred mark v make with
    | some a => return some a
    | none => if make then some <$> allocate (freshThing mark) else return none

/-- the key that an expression is in a table -/
def keyOf (ev : Evaluator) (e : Expr) : Work Octets := do
  match e with
  | .list (first :: second :: more) => do
    let values ← (first :: second :: more).mapM ev.one
    return joinWith (← textOf (← nameValue ";")) (← values.mapM textOf)
  | e => textOf (← ev.one e)

/-! ## Declarations -/

/-- notes what a name meant, before it is given a passing meaning -/
def saveName (key : String) : Work Unit := modify fun w => { w with saved := .name key (w.globals.get? key) :: w.saved }

/-- gives a name or an item a passing meaning -/
def makePassing (ev : Evaluator) (target : Expr) : Work Unit := do
  let named (mark : Char) (name : String) : Work Unit := do
    let key := String.singleton mark ++ fullName (← get).package name
    saveName key
    let a ← allocate (freshThing mark)
    modify fun w => { w with globals := w.globals.insert key a }
  match target with
  | .scalar n => do
    if (← lexical? ("$" ++ n)).isSome && !isCommonName n then
      if n != "a" && n != "b" then pure ()
    named '$' n
  | .array n => named '@' n
  | .table n => named '%' n
  | .handle n => do
    let key := "*" ++ fullName (← get).package n
    saveName key
  | .entry t k => do
    let table ← ev.table true t
    let key ← keyOf ev k
    let before ← entrySlot? table key
    modify fun w => { w with saved := .entry table key before :: w.saved }
    let a ← newCell .undefined
    changeTable table fun entries =>
      if before.isSome then entries.map fun e => if e.1 == key then (key, a) else e else entries ++ [(key, a)]
  | .item array i => do
    let array ← ev.array true array
    match placeIn (← itemsOf array).size (← intOf (← ev.one i)) with
    | some p => do
      let before ← itemSlot array p
      modify fun w => { w with saved := .item array p before :: w.saved }
      let a ← newCell .undefined
      changeArray array fun items => items.setIfInBounds p a
    | none => return ()
  | _ => return ()

/-- makes what a declaration tells -/
def declareTarget (ev : Evaluator) (reach : Reach) (target : Expr) : Work Unit := do
  let marked? : Option (Char × String) := match target with
    | .scalar n => some ('$', n)
    | .array n => some ('@', n)
    | .table n => some ('%', n)
    | _ => none
  match reach, marked? with
  | .passing, _ => makePassing ev target
  | _, none => return ()
  | .block, some (mark, n) => do declare (marked mark n.toList) (← allocate (freshThing mark))
  | .everywhere, some (mark, n) => declare (marked mark n.toList) 0
  | .lasting, some (mark, n) => do
    let w ← get
    let home := match w.frames with
      | f :: _ => f.function
      | [] => ""
    let key := s!"{home} {mark}{n} {w.line}"
    match w.lasting.lookup key with
    | some a => declare (marked mark n.toList) a
    | none => do
      let a ← allocate (freshThing mark)
      modify fun w => { w with lasting := (key, a) :: w.lasting }
      declare (marked mark n.toList) a

/-- what a declaration is about, without the declaration -/
def declared : Expr → Expr
  | .declare _ [target] false => target
  | .declare _ targets _ => .list targets
  | .list [e] => e
  | e => e

/-! ## Places -/

/-- the cell that an expression means; a value that has none is given a new one -/
def slotOf (ev : Evaluator) (e : Expr) : Work Nat := do
  match e with
  | .scalar n => scalarSlot n
  | .item array i => do
    let array ← ev.array true array
    let i ← intOf (← ev.one i)
    match placeIn (← itemsOf array).size i with
    | some p => itemSlot array p
    | none => die s!"Modification of non-creatable array value attempted, subscript {i}"
  | .entry table k => do
    let table ← ev.table true table
    entrySlot table (← keyOf ev k)
  | .scalarAt inner => do
    match ← reached ev '$' true inner with
    | some a => return a
    | none => newCell .undefined
  | .declare reach [target] false => do
    declareTarget ev reach target
    ev.slot target
  | .list [inner] => ev.slot inner
  | .conditional test yes no => do if isTrue (← ev.one test) then ev.slot yes else ev.slot no
  | .assign _ target _ => do
    let _ ← ev.one e
    ev.slot (declared target)
  | .step _ true target => do
    let _ ← ev.one e
    ev.slot target
  | .run false [.expr _ inner] => ev.slot inner
  | e => do newCell (← ev.one e)

/-- the array that an expression means -/
def arrayOf (ev : Evaluator) (make : Bool) (e : Expr) : Work Nat := do
  match e with
  | .array "-" => do newArray (← foundPlaces false)
  | .array "+" => do newArray (← foundPlaces true)
  | .array n => nameSlot '@' n
  | .arrayAt inner => do
    match ← reached ev '@' make inner with
    | some a => return a
    | none => allocate (.array #[])
  | .declare reach [target] _ => do
    declareTarget ev reach target
    ev.array make target
  | .list [inner] => ev.array make inner
  | .assign _ target _ =>
    if isOne target then do newArray (← ev.many e)
    else do
      let _ ← ev.one e
      ev.array make (declared target)
  | e => do newArray (← ev.many e)

/-- entries of a table that is being made, the last one first, with a further one -/
def entered (k v : Value) (done : List (Octets × Nat)) : Work (List (Octets × Nat)) := do
  let key ← textOf k
  let a ← newCell v
  return if done.any fun e => e.1 == key then done.map fun e => if e.1 == key then (key, a) else e else (key, a) :: done

/-- makes a table of a list of keys and values -/
def tableEntries (values : List Value) : Work (List (Octets × Nat)) := do
  let rec go : List Value → List (Octets × Nat) → Work (List (Octets × Nat))
    | [], done => return done
    | [k], done => entered k .undefined done
    | k :: v :: rest, done => do go rest (← entered k v done)
  return (← go values []).reverse

/-- the table that an expression means -/
def tableOf (ev : Evaluator) (make : Bool) (e : Expr) : Work Nat := do
  match e with
  | .table "+" => do
    let entries ← (← foundNames).mapM fun (k, v) => do return (k, ← newCell v)
    allocate (.table entries)
  | .table n => nameSlot '%' n
  | .tableAt inner => do
    match ← reached ev '%' make inner with
    | some a => return a
    | none => allocate (.table [])
  | .declare reach [target] _ => do
    declareTarget ev reach target
    ev.table make target
  | .list [inner] => ev.table make inner
  | .assign _ target _ => do
    let _ ← ev.one e
    ev.table make (declared target)
  | e => do allocate (.table (← tableEntries (← ev.many e)))

/-- the cells that an expression means, one after the other -/
def slotsOf (ev : Evaluator) (e : Expr) : Work (List Nat) := do
  let ofArray (a : Nat) : Work (List Nat) := do
    let size := (← itemsOf a).size
    (List.range size).mapM fun i => itemSlot a i
  match e with
  | .array _ => do ofArray (← ev.array true e)
  | .arrayAt _ => do ofArray (← ev.array true e)
  | .scalar n => do return [← scalarSlot n]
  | .item .. => do return [← ev.slot e]
  | .scalarAt _ => do return [← ev.slot e]
  | .entry t k => do
    let table ← ev.table true t
    match ← entrySlot? table (← keyOf ev k) with
    | some a => return [a]
    | none => do return [← newCell .undefined]
  | .list members => do
    let mut done : List (List Nat) := []
    for m in members do done := (← ev.slots m) :: done
    return done.reverse.flatten
  | .builtin "values" [t] => do
    match t with
    | .table _ | .tableAt _ => do return (← entriesOf (← ev.table true t)).map Prod.snd
    | t => ofArray (← ev.array true t)
  | .declare _ [.scalar _] false => do return [← ev.slot e]
  | .assign _ target _ =>
    if isOne target then do return [← ev.slot e]
    else do
      let _ ← ev.one e
      ev.slots (declared target)
  | .each "grep" _ _ => do (← ev.many e).mapM newCell
  | e => do (← ev.many e).mapM newCell

end ScriptBridge.Shell.SigilScript
