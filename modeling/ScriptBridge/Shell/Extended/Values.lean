/-
Giving variables values: texts, single values of lists and maps, and whole lists. What a variable is marked with
decides what becomes of a value: a number is calculated, the case of letters is changed, and some cannot be set.
-/
import ScriptBridge.Shell.Extended.Calculation
import ScriptBridge.Shell.Extended.Quoting

namespace ScriptBridge.Shell.Extended

open Work

/-- a value that is assigned: a text, or the values of a list with the indices that they were given; `true` says that a
value is added to the one before -/
inductive Assigned where
  | single (o : Octets)
  | items (entries : List (Option Octets × Bool × Octets))
deriving Inhabited

/-- an argument of a command; builtins that declare variables take assignments too -/
inductive Argument where
  | word (o : Octets)
  | assigned (name : Octets) (index : Option Octets) (adds : Bool) (value : Assigned)
deriving Inhabited

/-- the mark of a list that was only declared -/
def unsetMark : Char := '?'

/-- leaves the shell because a variable is not set, with a complaint -/
def leaveUnset {α : Type} (message : Octets) : Work α := do
  complain message
  let s ← get
  setStatus (if s.depth = 0 && !s.machine.has 'e' then 127 else 1)
  throw .exit

/-- leaves the shell because a variable is not set -/
def unbound {α : Type} (name : Octets) : Work α := leaveUnset (name ++ octets ": unbound variable")

/-- the value of an expression; a fault is reported -/
def calculated (o : Octets) : Work Int := do
  match ← calculate o with
  | .ok n => return n
  | .error (.unbound name) => unbound name
  | .error e => failWith 1 e.message

/-- a text with the case of its letters changed as marks say -/
def recased (marks : List Char) (o : Octets) : Octets :=
  if marks.contains 'l' then o.map Char.toLower
  else if marks.contains 'u' then o.map Char.toUpper
  else if marks.contains 'c' then (o.take 1).map Char.toUpper ++ o.drop 1
  else o

/-- the value that a variable with marks takes; `before` is what it is added to, if it is -/
def markedValue (marks : List Char) (before : Option Octets) (o : Octets) : Work Octets := do
  if marks.contains 'i' then
    let n ← calculated o
    let m ← match before with
      | some b => calculated b
      | none => pure 0
    return number (wrap (m + n))
  else return recased marks (before.getD [] ++ o)

/-- the place in a list that a subscript means; from the end if it is negative -/
def placeOf (name index : Octets) (items : List (Nat × Octets)) : Work Nat := do
  let n ← calculated index
  let last : Int := ((items.getLast?.map Prod.fst).elim 0 (· + 1) : Nat)
  let n := if n < 0 then n + last else n
  if n < 0 then failWith 1 (name ++ '[' :: index ++ octets "]: bad array subscript")
  else return n.toNat

/-- the list that a variable holds, or would hold if it were one -/
def Held.asList : Held → List (Nat × Octets)
  | .list items => items
  | .single o => [(0, o)]
  | .map items => items.mapIdx fun i e => (i, e.2)
  | .nothing => []

/-- a variable that may be set, with its name -/
def settable (name : Octets) : Work (Octets × Variable) := do
  let s ← get
  let name := s.resolve name
  let v := (s.own? name).getD ⟨.nothing, []⟩
  if v.marks.contains 'r' then failWith 1 (name ++ octets ": readonly variable")
  else return (name, v)

/-- keeps what a variable holds, and notes what follows from that -/
def keep (name : Octets) (v : Variable) (held : Held) : Work Unit := do
  let m ← machine
  let marks := v.marks.filter (· != unsetMark)
  let marks := if m.has 'a' && !marks.contains 'x' then 'x' :: marks else marks
  modify (Session.change name ⟨held, marks⟩)
  match String.ofList name with
  | "OPTIND" => modifyMachine fun m => { m with
      place := ⟨max 1 ((held.text?.bind readNumber?).getD 1).toNat, 0⟩ }
  | "RANDOM" => modify fun s => { s with random := ((held.text?.bind readNumber?).getD 0).toNat }
  | "PATH" => modifyMachine fun m => { m with tracked := [] }
  | _ => pure ()

/-- sets a variable, or one value of a list; `adds` says that the value is added to the one before -/
def store (name : Octets) (index : Option Octets) (adds : Bool) (o : Octets) : Work Unit := do
  let (name, v) ← settable name
  let onto (before : Option Octets) : Option Octets := if adds then some (before.getD []) else none
  match index, v.held with
  | none, .map items => do
    let value ← markedValue v.marks (onto v.held.text?) o
    keep name v (.map (setEntry ['0'] value items))
  | none, .list items => do
    let value ← markedValue v.marks (onto v.held.text?) o
    keep name v (.list (setItem 0 value items))
  | none, held => do keep name v (.single (← markedValue v.marks (onto held.text?) o))
  | some key, .map items => do
    let value ← markedValue v.marks (onto ((items.find? fun i => i.1 == key).map Prod.snd)) o
    keep name v (.map (setEntry key value items))
  | some index, held => do
    let items := held.asList
    let place ← placeOf name index items
    let value ← markedValue v.marks (onto ((items.find? fun i => i.1 == place).map Prod.snd)) o
    keep name v (.list (setItem place value items))

/-- sets a variable to a text -/
def setText (name o : Octets) : Work Unit := store name none false o

/-- sets a variable to a list of values -/
def setList (name : Octets) (values : List Octets) : Work Unit := do
  let (name, v) ← settable name
  keep name v (.list (values.mapIdx fun i o => (i, o)))

/-- values of a map from keys and values that take turns -/
def inPairs : List (Option Octets × Bool × Octets) → List (Option Octets × Bool × Octets)
  | (none, _, key) :: (none, adds, value) :: rest => (some key, adds, value) :: inPairs rest
  | (none, _, key) :: rest => (some key, false, []) :: inPairs rest
  | entry :: rest => entry :: inPairs rest
  | [] => []

/-- sets a variable to the values of a list; `adds` says that they are added to those before -/
def storeItems (name : Octets) (adds : Bool) (entries : List (Option Octets × Bool × Octets)) : Work Unit := do
  let (name, v) ← settable name
  match v.held with
  | .map before => do
    let mut items := if adds then before else []
    for (key, onto, o) in inPairs entries do
      let key := key.getD []
      let earlier := ((items.find? fun i => i.1 == key).map Prod.snd)
      items := setEntry key (← markedValue v.marks (if onto then some (earlier.getD []) else none) o) items
    keep name v (.map items)
  | held => do
    let mut items := if adds then held.asList else []
    let mut next := (items.getLast?.map Prod.fst).elim 0 (· + 1)
    for (index, onto, o) in entries do
      let place ← match index with
        | some index => placeOf name index items
        | none => pure next
      let earlier := ((items.find? fun i => i.1 == place).map Prod.snd)
      items := setItem place (← markedValue v.marks (if onto then some (earlier.getD []) else none) o) items
      next := place + 1
    keep name v (.list items)

/-- sets a variable to what is assigned -/
def storeAssigned (name : Octets) (index : Option Octets) (adds : Bool) (value : Assigned) : Work Unit :=
  match value with
  | .single o => store name index adds o
  | .items entries => storeItems name adds entries

/-! ## Variables as text -/

/-- the letters of the marks of a variable, as they are listed -/
def Variable.letters (v : Variable) : Octets :=
  let kind := match v.held with
    | .list _ => ['a']
    | .map _ => ['A']
    | _ => []
  kind ++ "inrtxclu".toList.filter v.marks.contains

/-- what a variable holds, as it is listed -/
def Held.listed (single : Octets → Octets) : Held → Octets
  | .nothing => []
  | .single o => single o
  | .list items =>
    let shown := items.map fun i => '[' :: number i.1 ++ octets "]=" ++ declaredValue i.2
    '(' :: joinWith [' '] shown ++ [')']
  | .map items =>
    let key (o : Octets) : Octets := if hasMeta o || !o.all isShown then declaredValue o else o
    '(' :: (items.flatMap fun i => '[' :: key i.1 ++ octets "]=" ++ declaredValue i.2 ++ [' ']) ++ [')']

/-- a variable as a command that declares it -/
def Variable.declaration (command : String) (name : Octets) (v : Variable) : Octets :=
  let letters := v.letters
  let value := if v.held == .nothing || v.marks.contains unsetMark then [] else '=' :: v.held.listed declaredValue
  octets command ++ octets " -" ++ (if letters.isEmpty then ['-'] else letters) ++ ' ' :: name ++ value

end ScriptBridge.Shell.Extended
