/-
Values of a running program, and its state. A value is small; what can change lies in a heap, and an array or a table is made
of the addresses of its cells, so that a name, an item and a reference can mean the same cell. Names of a block lie in
scopes on the heap, names of packages in one table. An action comes to a value or leaves what runs: it dies with a value,
gives the values of a function, or goes to the end or the next round of a loop.
-/
import ScriptBridge.Shell.Branching.Reader
import ScriptBridge.Shell.SigilScript.Reader
import ScriptBridge.Shell.Signal
import ScriptBridge.Shell.Utility
import Std.Data.HashMap

namespace ScriptBridge.Shell.SigilScript

/-- a value; one may be a text and a number that has nothing to do with it -/
inductive Value where
  | undefined
  | int (n : Int)
  | real (x : Extended)
  | text (o : Octets)
  | both (n : Int) (o : Octets)
  | ref (address : Nat)
  | handle (name : String)
deriving Inhabited

/-- a function: its name and package, its body, and the scope that it was made in -/
structure Function where
  name : String
  package : String
  body : List Stmt
  scope : Nat
deriving Inhabited

/-- an open file: its path, what it is open for, what is left to read, what was written to it, the last part first, the
stream of the program or the cell that it stands for, how many lines were read, and whether characters are coded in it -/
structure Opened where
  name : String
  path : Octets
  reads : Bool
  writes : Bool
  rest : Octets
  written : List Octets
  stream : Option Nat
  cell : Option Nat
  rows : Nat
  coded : Bool
  closed : Bool
deriving Inhabited

/-- what lies at an address. An address of zero in an array stands for an item that was never given. -/
inductive Thing where
  | cell (v : Value)
  | array (items : Array Nat)
  | table (entries : List (Octets × Nat))
  | function (f : Function)
  | native (name : String)
  | file (opened : Opened)
  | scope (names : List (String × Nat)) (parent : Option Nat)
  | pattern (shown : Octets) (expression : Branching.Expression)
deriving Inhabited

/-- how many values are awaited -/
inductive Want where
  | one
  | many
  | nothing
deriving DecidableEq, Inhabited

/-- what was matched last: the text, where its parts are, how many groups there are, and their names -/
structure Found where
  subject : Branching.Subject
  spot : Branching.Spot
  groups : Nat
  names : List (List Char × Nat)

/-- how an action is left other than by its end -/
inductive Leave where
  | died (v : Value)
  | back (values : List Value)
  | out (label : String)
  | again (label : String)
  | anew (label : String)
  | halted (status : Nat)
  | stuck

/-- what a name, an item or an entry meant before it was given a passing meaning -/
inductive Saved where
  | name (name : String) (address : Option Nat)
  | entry (table : Nat) (key : Octets) (address : Option Nat)
  | item (array index address : Nat)

/-- a call that runs: the function, and the package, the file and the line that it was called from -/
structure Frame where
  function : String
  package : String
  file : String
  line : Nat
  want : Want
deriving Inhabited

/-- the state of a running program. `flushed` is how much of the output was passed on, and `lead` how much of it had
been when the first complaint was; `args` is the array of the arguments of the running function, and `reading` the file
that was read last. `positions` are the places where searches in cells go on, with whether the last one took nothing;
`queue` are the files that are still to be read one after the other, and `edits` says that they are written anew.
`texts` counts the texts that were run as programs. -/
structure World where
  heap : Array Thing
  blessed : Std.HashMap Nat String
  globals : Std.HashMap String Nat
  call : Call
  run : Runner
  input : Octets
  files : Files
  out : List Octets
  err : List Octets
  held : Nat
  flushed : Nat
  lead : Option Nat
  file : String
  line : Nat
  package : String
  scope : Nat
  args : Nat
  want : Want
  found : Option Found
  positions : List (Nat × Nat × Bool)
  walks : List (Nat × Nat)
  saved : List Saved
  frames : List Frame
  reading : Option (String × Nat)
  strict : Bool
  cause : Nat
  child : Int
  compiled : Std.HashMap String Branching.Expression
  seed : Nat
  ends : List Nat
  queue : Option (List Octets)
  edits : Option Octets
  selected : Nat
  lasting : List (String × Nat)
  texts : Nat

/-- what a program does -/
abbrev Work (α : Type) := ExceptT Leave (StateM World) α

/-! ## Numbers and texts -/

/-- the text of a number that is not whole: fifteen digits at most -/
def realText (x : Extended) : Octets :=
  match x with
  | .infinite n => if n then "-Inf".toList else "Inf".toList
  | .notANumber => "NaN".toList
  | x =>
    if x.isZero then ['0']
    else (if x.isNegative then ['-'] else []) ++ x.placesText .general 15 false false

/-- the number at the start of a text, with whether all of the text is one -/
def numberIn (o : Octets) : Value × Bool :=
  let o := o.dropWhile isGap
  let (negative, body) := signOf o
  if startsWith "inf" body then (.real (.infinite negative), true)
  else if startsWith "nan" body then (.real .notANumber, true)
  else
    let whole := body.takeWhile Char.isDigit
    let after := body.drop whole.length
    let isReal : Bool := match after with
      | '.' :: _ => true
      | e :: more =>
        let (_, digits) := signOf more
        (e == 'e' || e == 'E') && !whole.isEmpty && digits.head?.any Char.isDigit
      | [] => false
    let ends (rest : Octets) : Bool := rest.all isGap
    if isReal then
      match decimalNumeral? negative body with
      | some (x, rest) => (.real x, ends rest)
      | none => (.int 0, false)
    else if whole.isEmpty then (.int 0, false)
    else
      let n := (digitsIn 10 whole).1
      let n : Int := if negative then -(n : Int) else n
      (if -9223372036854775808 ≤ n && n < 18446744073709551616 then .int n else .real (.ofInt n), ends after)

/-- a number without places after the point is whole, as far as all of its digits count -/
def settled (v : Value) : Value :=
  match v with
  | .real x =>
    match x.exactInt? with
    | some n => if n.natAbs < 9007199254740992 then .int n else v
    | none => v
  | v => v

/-- the number nearest to a value that is a number -/
def realOf : Value → Extended
  | .int n => .ofInt n
  | .real x => x
  | _ => .zero

/-- a whole number, as a value -/
def wholeValue (n : Int) : Value :=
  if -9223372036854775808 ≤ n && n < 18446744073709551616 then .int n else .real (.ofInt n)

/-- what is true and what is not, as values -/
def truthValue (b : Bool) : Value := if b then .int 1 else .text []

/-- a text as a value -/
def textValue (s : String) : Value := .text (octets s)

/-! ## The heap -/

/-- puts something on the heap -/
def allocate (t : Thing) : Work Nat := modifyGet fun w =>
  let size := w.heap.size
  (size, { w with heap := w.heap.push t })

/-- what lies at an address -/
def thingAt (address : Nat) : Work Thing := do return ((← get).heap[address]?).getD (.cell .undefined)

/-- changes what lies at an address -/
def update (address : Nat) (t : Thing) : Work Unit := modify fun w => { w with heap := w.heap.setIfInBounds address t }

/-- changes an array in place -/
def changeArray (address : Nat) (f : Array Nat → Array Nat) : Work Unit := modify fun w =>
  { w with heap := w.heap.modify address fun t => match t with
      | .array items => .array (f items)
      | t => t }

/-- changes a table in place -/
def changeTable (address : Nat) (f : List (Octets × Nat) → List (Octets × Nat)) : Work Unit := modify fun w =>
  { w with heap := w.heap.modify address fun t => match t with
      | .table entries => .table (f entries)
      | t => t }

/-- makes a cell -/
def newCell (v : Value) : Work Nat := allocate (.cell v)

/-- the value of a cell -/
def cellAt (address : Nat) : Work Value := do
  match ← thingAt address with
  | .cell v => return v
  | _ => return .ref address

/-- gives a cell a value; a search in it begins anew -/
def setCell (address : Nat) (v : Value) : Work Unit := modify fun w =>
  { w with heap := w.heap.setIfInBounds address (.cell v)
           positions := if w.positions.isEmpty then [] else w.positions.filter fun p => p.1 != address }

/-- the addresses of the items of an array -/
def itemsOf (array : Nat) : Work (Array Nat) := do
  match ← thingAt array with
  | .array items => return items
  | _ => return #[]

/-- the entries of a table -/
def entriesOf (table : Nat) : Work (List (Octets × Nat)) := do
  match ← thingAt table with
  | .table entries => return entries
  | _ => return []

/-- the value of an item of an array -/
def itemValue (address : Nat) : Work Value := if address = 0 then return .undefined else cellAt address

/-- the values of an array -/
def valuesOf (array : Nat) : Work (List Value) := do (← itemsOf array).toList.mapM itemValue

/-- makes an array of values -/
def newArray (values : List Value) : Work Nat := do
  let cells ← values.mapM newCell
  allocate (.array cells.toArray)

/-- gives an array the values of a list -/
def setArray (array : Nat) (values : List Value) : Work Unit := do
  let cells ← values.mapM newCell
  update array (.array cells.toArray)

/-- the place of an index in an array; negative ones count from its end -/
def placeIn (size : Nat) (index : Int) : Option Nat :=
  if 0 ≤ index then some index.toNat
  else if 0 ≤ (size : Int) + index then some ((size : Int) + index).toNat
  else none

/-- the address of an item, which is made if it is not there -/
def itemSlot (array index : Nat) : Work Nat := do
  let items ← itemsOf array
  match items[index]? with
  | some 0 | none => do
    let a ← newCell .undefined
    changeArray array fun items =>
      (if index < items.size then items else items ++ Array.replicate (index + 1 - items.size) 0).setIfInBounds index a
    return a
  | some a => return a

/-- the address of an entry, if it is there -/
def entrySlot? (table : Nat) (key : Octets) : Work (Option Nat) := do return (← entriesOf table).lookup key

/-- the address of an entry, which is made if it is not there -/
def entrySlot (table : Nat) (key : Octets) : Work Nat := do
  let entries ← entriesOf table
  match entries.lookup key with
  | some a => return a
  | none => do
    let a ← newCell .undefined
    changeTable table fun entries => entries ++ [(key, a)]
    return a

/-! ## Names -/

/-- the names that belong to the first package wherever they are used -/
def isCommonName (name : String) : Bool :=
  !(name.toList.head?.any Reading.startsName) ||
    ["ENV", "ARGV", "STDIN", "STDOUT", "STDERR", "INC", "_", "ARGVOUT", "SIG"].contains name

/-- a name with its package -/
def fullName (package name : String) : String :=
  if name.contains ':' then
    let o := name.toList
    if [':', ':'].isPrefixOf o then "main" ++ name else name
  else if isCommonName name then "main::" ++ name
  else package ++ "::" ++ name

/-- the address that a name means in the scopes around; an address of zero says that it is a name of the package -/
def lexical? (marked : String) : Work (Option Nat) := do
  let w ← get
  let rec go : Nat → Nat → Option Nat
    | 0, _ => none
    | fuel + 1, a =>
      match w.heap[a]? with
      | some (.scope names parent) =>
        match names.lookup marked with
        | some 0 => none
        | some found => some found
        | none => match parent with
          | some p => go fuel p
          | none => none
      | _ => none
  return go (w.heap.size + 1) w.scope

/-- gives a name of a block its address -/
def declare (marked : String) (address : Nat) : Work Unit := modify fun w =>
  match w.heap[w.scope]? with
  | some (.scope names parent) => { w with heap := w.heap.setIfInBounds w.scope (.scope ((marked, address) :: names) parent) }
  | _ => w

/-- something new that a mark is for -/
def freshThing (mark : Char) : Thing :=
  match mark with
  | '@' => .array #[]
  | '%' => .table []
  | _ => .cell .undefined

/-- the address that a name of a package means; it is made where it is not there -/
def globalSlot (mark : Char) (name : String) : Work Nat := do
  let w ← get
  let key := String.singleton mark ++ fullName w.package name
  match w.globals.get? key with
  | some a => return a
  | none => do
    let a ← allocate (freshThing mark)
    modify fun w => { w with globals := w.globals.insert key a }
    return a

/-- the address that a name means -/
def nameSlot (mark : Char) (name : String) : Work Nat := do
  if mark == '@' && name == "_" then return (← get).args
  else match ← lexical? (String.singleton mark ++ name) with
    | some a => return a
    | none => globalSlot mark name

/-- the value of a name of one value -/
def nameValue (name : String) : Work Value := do cellAt (← globalSlot '$' name)

/-- the function of a name, if there is one -/
def functionNamed? (name : String) : Work (Option Nat) := do
  let w ← get
  return w.globals.get? ("&" ++ fullName w.package name)

/-! ## Dying -/

/-- the kind of what lies at an address -/
def kindOf (address : Nat) : Work String := do
  match ← thingAt address with
  | .cell (.ref _) => return "REF"
  | .cell (.handle _) => return "GLOB"
  | .cell _ => return "SCALAR"
  | .array _ => return "ARRAY"
  | .table _ => return "HASH"
  | .function _ => return "CODE"
  | .native _ => return "CODE"
  | .file _ => return "GLOB"
  | .scope .. => return "SCALAR"
  | .pattern .. => return "Regexp"

/-- where the program is, as a message tells it -/
def placeWords : Work Octets := do
  let w ← get
  let rows := match w.reading with
    | some (name, a) => match w.heap[a]? with
      | some (.file f) => if f.rows = 0 || f.closed then "" else s!", <{name}> line {f.rows}"
      | _ => ""
    | none => ""
  -- what stands around a program has no line
  let place := if w.line = 0 then "" else s!" at {w.file} line {w.line}"
  return octets (place ++ rows ++ ".\n")

/-- dies with a message and its place -/
def die {α : Type} (message : String) : Work α := do throw (.died (.text (octets message ++ (← placeWords))))

/-- the text of a value, as far as it does not hang on functions of the program -/
def textOf (v : Value) : Work Octets := do
  match v with
  | .undefined => return []
  | .int n => return number n
  | .real x => return realText x
  | .text o => return o
  | .both _ o => return o
  | .handle name => return octets ("*main::" ++ name)
  | .ref a => do
    let w ← get
    match w.heap[a]?, w.blessed.get? a with
    | some (.pattern shown _), none => return shown
    | some (.pattern shown _), some _ => return shown
    | _, package => do
      let kind ← kindOf a
      let digits := Nat.toDigits 16 (94000000000000 + 24 * a)
      let head := match package with
        | some p => p ++ "=" ++ kind
        | none => kind
      return octets head ++ octets "(0x" ++ digits ++ [')']

/-- the number that a value is -/
def numberOf (v : Value) : Work Value := do
  match v with
  | .undefined => return .int 0
  | .int n => return .int n
  | .real x => return .real x
  | .text o => return (numberIn o).1
  | .both n _ => return .int n
  | .handle _ => return .int 0
  | .ref a => return .int (94000000000000 + 24 * a)

/-- the whole number that a value is -/
def intOf (v : Value) : Work Int := do
  match ← numberOf v with
  | .int n => return n
  | .real x => return (x.truncate.toInt?).getD (if x.isNegative then leastWord else greatestWord)
  | _ => return 0

/-- the size that a value is; a negative one is none -/
def sizeOf (v : Value) : Work Nat := do return (← intOf v).toNat

/-- whether a value counts as true -/
def isTrue : Value → Bool
  | .undefined => false
  | .int n => n != 0
  | .real x => !x.isZero
  | .text o => !(o.isEmpty || o == ['0'])
  | .both n _ => n != 0
  | .ref _ => true
  | .handle _ => true

/-- whether a value is given -/
def isDefined : Value → Bool
  | .undefined => false
  | _ => true

/-! ## Output -/

/-- how much output is held back -/
def holdSize : Nat := 8192

/-- passes on what is held back -/
def flush : Work Unit := modify fun w => { w with flushed := w.flushed + w.held, held := 0 }

/-- writes to standard output -/
def writeOut (o : Octets) : Work Unit := do
  modify fun w =>
    let held := w.held + o.length
    { w with out := o :: w.out, flushed := w.flushed + held / holdSize * holdSize, held := held % holdSize }
  match (← get).globals.get? "$main::|" with
  | some a => if isTrue (← cellAt a) then flush
  | none => return ()

/-- writes to standard error -/
def writeErr (o : Octets) : Work Unit := modify fun w => { w with err := o :: w.err, lead := some (w.lead.getD w.flushed) }

/-! ## Doing something in its bounds -/

/-- does something, and something else after it, however it was left -/
def afterwards {α : Type} (act : Work α) (after : Work Unit) : Work α := do
  let r : Except Leave α ← tryCatch (Except.ok <$> act) fun leave => return .error leave
  after
  match r with
  | .ok a => return a
  | .error leave => throw leave

/-- gives back what had a passing meaning, until so much is left -/
def giveBack (depth : Nat) : Work Unit := do
  let w ← get
  let rec go : Nat → List Saved → World → World
    | 0, saved, w => { w with saved }
    | n + 1, s :: saved, w =>
      go n saved (match s with
        | .name name (some a) => { w with globals := w.globals.insert name a }
        | .name name none => { w with globals := w.globals.erase name }
        | .entry table key address =>
          match w.heap[table]? with
          | some (.table entries) =>
            let entries := match address with
              | some a => if entries.any fun e => e.1 == key then entries.map fun e => if e.1 == key then (key, a) else e
                else entries ++ [(key, a)]
              | none => entries.filter fun e => e.1 != key
            { w with heap := w.heap.setIfInBounds table (.table entries) }
          | _ => w
        | .item array index address =>
          match w.heap[array]? with
          | some (.array items) => { w with heap := w.heap.setIfInBounds array (.array (items.setIfInBounds index address)) }
          | _ => w)
    | _ + 1, [], w => { w with saved := [] }
  set (go (w.saved.length - depth) w.saved w)

/-- does something in a scope of its own; what was matched, and passing meanings, end with it -/
def inScope {α : Type} (names : List (String × Nat)) (act : Work α) : Work α := do
  let (outer, found, package, depth) ← modifyGet fun w => ((w.scope, w.found, w.package, w.saved.length), w)
  let scope ← allocate (.scope names (some outer))
  modify fun w => { w with scope }
  afterwards act do
    if depth < (← get).saved.length then giveBack depth
    modify fun w => { w with scope := outer, found, package }

end ScriptBridge.Shell.SigilScript
