/-
Values of a running program, and its state. Small values stand for themselves; what can change, and what is more than a
value, lies in a heap and is meant by its address there. An action comes to a value or leaves what runs: with an
exception, which carries the places that it came through, with the value of a function, or to the end or the next round
of a loop.
-/
import ScriptBridge.Shell.BlockScript.Program
import ScriptBridge.Shell.Branching.Reader
import ScriptBridge.Shell.Signal
import ScriptBridge.Shell.Utility

namespace ScriptBridge.Shell.BlockScript

/-- a value -/
inductive Value where
  | none
  | ellipsis
  | unknown
  | bool (b : Bool)
  | int (n : Int)
  | real (x : Extended)
  | text (o : Characters)
  | bytes (o : Octets)
  | tuple (items : List Value)
  | range (start stop step : Int)
  | slice (start stop step : Value)
  | ref (address : Nat)
  | builtin (name : String)
  | method (receiver : Value) (name : String)
  | bound (receiver function : Value)
  | module (name : String)
deriving Inhabited

/-- a function: its name, its parameters with the values of those that may be left out, the names that are local to
it, whether it yields values, its body, the scope that it was made in, and the class that it belongs to -/
structure Function where
  name : String
  params : Params
  defaults : List (String × Value)
  locals : List String
  yields : Bool
  body : List Stmt
  scope : Nat
  owner : Option Nat
deriving Inhabited

/-- an open file: where it lies, what is left to read, what was written to a file that is only held, the last part
first, and which of the streams of the program it is, if it is one -/
structure Opened where
  path : Characters
  mode : String
  rest : Characters
  written : List Characters
  stream : Option Nat
  closed : Bool
deriving Inhabited

/-- what lies at an address -/
inductive Thing where
  | list (items : List Value)
  | dict (kind : String) (default : Value) (entries : List (Value × Value))
  | set (frozen : Bool) (items : List Value)
  | function (f : Function)
  | classOf (name : String) (bases : List Value) (attributes : List (String × Value))
  | instanceOf (kind : Value) (attributes : List (String × Value))
  | scope (values : List (String × Value)) (parent : Option Nat) (locals : List String) (isClass : Bool)
  | iterator (items : List Value)
  | walk (source : Value) (index : Nat)
  | counter (next step : Value)
  | file (opened : Opened)
  | pattern (source : Characters) (bytes : Bool) (expression : Branching.Expression)
  | found (pattern : Nat) (subject : Characters) (spot : Branching.Spot)
  | wrapped (kind : String) (inner : Value) (setter : Value)
  | partialCall (function : Value) (args : List Value) (named : List (String × Value))
deriving Inhabited

/-- a place that a failure came through: its span, the name of the function there, and how many calls lie around it -/
structure Place where
  span : Span
  name : String
  depth : Nat
deriving Inhabited

/-- how a statement or an expression is left other than by its end -/
inductive Leave where
  | raised (e : Value) (trace : List Place)
  | back (v : Value)
  | out
  | again
  | halted (status : Nat)
  | stuck

/-- the state of a running program. `lead` is how much was written when the first complaint was; `lines` are the lines of
the program, where they can be shown; `frame` is the name of the running function, `depth` how many calls lie around it,
`handled` the exception that is being handled, and `traces` are the places that handled exceptions came through. `yielded`
are the values that the running function has yielded, the last one first. -/
structure World where
  heap : Array Thing
  call : Call
  input : Octets
  files : Files
  out : List Octets
  err : List Octets
  flushed : Nat
  lead : Option Nat
  path : Characters
  lines : List Characters
  args : List Characters
  frame : String
  depth : Nat
  handled : Option Value
  traces : List (Nat × List Place)
  modules : List (String × Nat)
  yielded : List Value

/-- what a program does -/
abbrev Work (α : Type) := ExceptT Leave (StateM World) α

/-! ## Texts of bytes -/

/-- the characters of bytes; bytes that make no character stand in a private place -/
def decode (o : Octets) : Characters :=
  let rec go : Nat → Octets → Characters
    | 0, _ => []
    | _, [] => []
    | fuel + 1, c :: rest =>
      let n := c.toNat
      if n < 128 then c :: go fuel rest
      else
        let size := if n < 0xC2 then 0 else if n < 0xE0 then 1 else if n < 0xF0 then 2 else if n < 0xF5 then 3 else 0
        match Text.decode? (toBytes (c :: rest.take size)) with
        | some [d] => if size = 0 then Char.ofNat (0x10FF00 + n) :: go fuel rest else d :: go fuel (rest.drop size)
        | _ => Char.ofNat (0x10FF00 + n) :: go fuel rest
  go (o.length + 1) o

/-- the bytes of characters -/
def encode (o : Characters) : Octets :=
  o.flatMap fun c =>
    if c.toNat < 128 then [c]
    else if 0x10FF80 ≤ c.toNat then [Char.ofNat (c.toNat - 0x10FF00)]
    else ofBytes (Text.encode [c])

/-! ## The heap -/

/-- puts something on the heap -/
def allocate (t : Thing) : Work Value := do
  let w ← get
  set { w with heap := w.heap.push t }
  return .ref w.heap.size

/-- what lies at an address -/
def thingAt (address : Nat) : Work Thing := do return ((← get).heap[address]?).getD (.list [])

/-- changes what lies at an address -/
def update (address : Nat) (t : Thing) : Work Unit := modify fun w => { w with heap := w.heap.setIfInBounds address t }

/-- what a value refers to, if it refers to something -/
def thing? (v : Value) : Work (Option Thing) := do
  match v with
  | .ref a => return (← get).heap[a]?
  | _ => return none

/-- makes a list -/
def makeList (items : List Value) : Work Value := allocate (.list items)

/-- makes a map -/
def makeDict (entries : List (Value × Value)) : Work Value := allocate (.dict "dict" .none entries)

/-- a text as a value -/
def textValue (s : String) : Value := .text s.toList

/-! ## Exceptions -/

/-- raises an exception of a kind that is built in, with values -/
def raiseWith {α : Type} (kind : String) (args : List Value) : Work α := do
  let e ← allocate (.instanceOf (.builtin kind) [("args", .tuple args)])
  throw (.raised e [])

/-- raises an exception of a kind that is built in, with a message -/
def raise {α : Type} (kind : String) (message : String) : Work α := raiseWith kind [textValue message]

/-- raises an exception about a type -/
def typeError {α : Type} (message : String) : Work α := raise "TypeError" message

/-- raises an exception about a value -/
def valueError {α : Type} (message : String) : Work α := raise "ValueError" message

/-- the kind of exceptions that a kind belongs to -/
def parentKind (kind : String) : Option String :=
  match kind with
  | "BaseException" => none
  | "Exception" | "SystemExit" | "KeyboardInterrupt" | "GeneratorExit" => some "BaseException"
  | "ZeroDivisionError" | "OverflowError" | "FloatingPointError" => some "ArithmeticError"
  | "IndexError" | "KeyError" => some "LookupError"
  | "ModuleNotFoundError" => some "ImportError"
  | "UnboundLocalError" => some "NameError"
  | "RecursionError" | "NotImplementedError" => some "RuntimeError"
  | "FileNotFoundError" | "FileExistsError" | "PermissionError" | "IsADirectoryError" | "NotADirectoryError"
  | "BlockingIOError" | "BrokenPipeError" | "ConnectionError" | "TimeoutError" | "ProcessLookupError"
  | "InterruptedError" | "ChildProcessError" => some "OSError"
  | "UnicodeError" | "json.JSONDecodeError" | "UnsupportedOperation" => some "ValueError"
  | "UnicodeDecodeError" | "UnicodeEncodeError" => some "UnicodeError"
  | "IndentationError" => some "SyntaxError"
  | "TabError" => some "IndentationError"
  | "DeprecationWarning" | "UserWarning" | "RuntimeWarning" | "SyntaxWarning" | "FutureWarning" => some "Warning"
  | "ArithmeticError" | "LookupError" | "ImportError" | "NameError" | "RuntimeError" | "OSError" | "ValueError"
  | "SyntaxError" | "TypeError" | "AttributeError" | "AssertionError" | "StopIteration" | "StopAsyncIteration"
  | "EOFError" | "MemoryError" | "BufferError" | "ReferenceError" | "SystemError" | "Warning" | "re.error" => some "Exception"
  | _ => none

/-- whether a name is that of a kind of exceptions -/
def isExceptionKind (name : String) : Bool := name == "BaseException" || (parentKind name).isSome

/-- whether a kind of exceptions that is built in belongs to another one -/
def kindIsA (kind other : String) : Bool :=
  let rec go : Nat → String → Bool
    | 0, _ => false
    | fuel + 1, k => k == other || (match parentKind k with
      | some p => go fuel p
      | none => false)
  go 10 kind

/-! ## Output -/

/-- writes to standard output -/
def writeOut (o : Octets) : Work Unit := modify fun w => { w with out := o :: w.out }

/-- writes to standard error -/
def writeErr (o : Octets) : Work Unit := modify fun w =>
  { w with err := o :: w.err, lead := some (w.lead.getD w.flushed) }

/-- passes on what was written to standard output -/
def flush : Work Unit := modify fun w => { w with flushed := w.out.foldl (fun n o => n + o.length) 0 }

/-! ## What values are -/

/-- the name of the type of a value -/
def typeName (v : Value) : Work String := do
  match v with
  | .none => return "NoneType"
  | .ellipsis => return "ellipsis"
  | .unknown => return "NotImplementedType"
  | .bool _ => return "bool"
  | .int _ => return "int"
  | .real _ => return "float"
  | .text _ => return "str"
  | .bytes _ => return "bytes"
  | .tuple _ => return "tuple"
  | .range .. => return "range"
  | .slice .. => return "slice"
  | .builtin n =>
    if isExceptionKind n || ["int", "str", "float", "bool", "list", "dict", "tuple", "set", "frozenset", "bytes", "object",
      "type", "range", "enumerate", "zip", "map", "filter", "reversed", "slice", "Counter", "defaultdict", "OrderedDict",
      "deque", "Path", "property", "super"].contains n then return "type"
    else return "builtin_function_or_method"
  | .method _ _ => return "builtin_function_or_method"
  | .bound _ _ => return "method"
  | .module _ => return "module"
  | .ref a =>
    match ← thingAt a with
    | .list _ => return "list"
    | .dict kind _ _ => return kind
    | .set frozen _ => return if frozen then "frozenset" else "set"
    | .function _ => return "function"
    | .classOf .. => return "type"
    | .instanceOf kind _ =>
      match kind with
      | .builtin n => return ((n.splitOn ".").getLast?).getD n
      | .ref c => match ← thingAt c with
        | .classOf n _ _ => return n
        | _ => return "object"
      | _ => return "object"
    | .scope .. => return "module"
    | .iterator _ => return "generator"
    | .walk source _ => match source with
      | .text _ => return "str_iterator"
      | .tuple _ => return "tuple_iterator"
      | .range .. => return "range_iterator"
      | _ => return "list_iterator"
    | .counter .. => return "count"
    | .file f => return if f.mode.contains 'b' then "BufferedReader" else "TextIOWrapper"
    | .pattern .. => return "Pattern"
    | .found .. => return "Match"
    | .wrapped kind _ _ => return kind
    | .partialCall .. => return "partial"

/-- the whole number that a value is, if it is one -/
def int? : Value → Option Int
  | .int n => some n
  | .bool b => some (if b then 1 else 0)
  | _ => none

/-- the real number that a value is, if it is a number -/
def real? : Value → Option Extended
  | .int n => some (.ofInt n)
  | .bool b => some (.ofInt (if b then 1 else 0))
  | .real x => some x
  | _ => none

/-- whether two values are the same key of a map -/
def sameKey : Value → Value → Bool
  | .text a, .text b => a == b
  | .bytes a, .bytes b => a == b
  | .tuple a, .tuple b => a.length == b.length && (a.attach.zip b).all fun (⟨x, _⟩, y) => sameKey x y
  | .none, .none => true
  | .ellipsis, .ellipsis => true
  | .ref a, .ref b => a == b
  | .builtin a, .builtin b => a == b
  | .module a, .module b => a == b
  | a, b =>
    match int? a, int? b with
    | some m, some n => m == n
    | _, _ => match real? a, real? b with
      | some x, some y => x.order? y == some .eq
      | _, _ => false

/-- the value of a key -/
def entryFor? (key : Value) (entries : List (Value × Value)) : Option Value :=
  (entries.find? fun e => sameKey e.1 key).map Prod.snd

/-- a map with a value for a key -/
def putEntry (key value : Value) (entries : List (Value × Value)) : List (Value × Value) :=
  if entries.any fun e => sameKey e.1 key then entries.map fun e => if sameKey e.1 key then (e.1, value) else e
  else entries ++ [(key, value)]

/-- a map without a key -/
def dropEntry (key : Value) (entries : List (Value × Value)) : List (Value × Value) :=
  entries.filter fun e => !sameKey e.1 key

/-- a set with a value -/
def putItem (v : Value) (items : List Value) : List Value := if items.any (sameKey v) then items else items ++ [v]

/-- the order in which the values of a set are listed: whole numbers that are small, by size -/
def setOrder (items : List Value) : List Value :=
  let small : Bool := items.all fun v => match v with
    | .int n => 0 ≤ n && n < (if items.length < 5 then 8 else if items.length < 20 then 32 else 128)
    | _ => false
  if small then items.mergeSort fun a b => (int? a).getD 0 ≤ (int? b).getD 0 else items

/-- the attribute of a name, in a list of them -/
def attribute? (name : String) (attributes : List (String × Value)) : Option Value := attributes.lookup name

/-- attributes with a value for a name -/
def putAttribute (name : String) (v : Value) (attributes : List (String × Value)) : List (String × Value) :=
  if attributes.any fun a => a.1 == name then attributes.map fun a => if a.1 == name then (name, v) else a
  else attributes ++ [(name, v)]

end ScriptBridge.Shell.BlockScript
