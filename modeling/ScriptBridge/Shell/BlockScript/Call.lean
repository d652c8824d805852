/-
Calls of what is built in: methods of values, functions, and types as functions; and the arguments of the functions of a
program.
-/
import ScriptBridge.Shell.BlockScript.ModuleFile
import ScriptBridge.Shell.BlockScript.ModuleItem
import ScriptBridge.Shell.BlockScript.ModuleText

namespace ScriptBridge.Shell.BlockScript

section

variable (call : Caller)

/-! ## Methods -/

/-- what a method of a whole number comes to -/
def intMethod (n : Int) (name : String) (args : List Value) (named : List (String × Value)) : Work Value := do
  match name with
  | "bit_length" => return .int (if n = 0 then 0 else n.natAbs.log2 + 1)
  | "bit_count" => return .int ((Nat.toDigits 2 n.natAbs).filter (· == '1')).length
  | "is_integer" => return .bool true
  | "to_bytes" => do
    let size := (((argument? args named 0 "length").bind int?).getD 1).toNat
    let little : Bool := match argument? args named 1 "byteorder" with
      | some (.text o) => o == "little".toList
      | _ => false
    if n < 0 || Nat.pow 256 size ≤ n.toNat then raise "OverflowError" "int too big to convert"
    let bytes := (List.range size).map fun i => Char.ofNat (n.toNat / Nat.pow 256 i % 256)
    return .bytes (if little then bytes else bytes.reverse)
  | _ => return .int n

/-- what a method of a real number comes to -/
def realMethod (x : Extended) (name : String) : Work Value := do
  match name with
  | "is_integer" => return .bool x.exactInt?.isSome
  | "as_integer_ratio" =>
    match x with
    | .finite d =>
      let (num, den) := d.ratio
      let common := num.gcd den
      let n : Int := num / common
      return .tuple [.int (if d.negative then -n else n), .int (den / common)]
    | _ => return .tuple []
  | _ => return .real x

/-- what a method that every value may have comes to -/
def commonMethod? (v : Value) (name : String) (args : List Value) : Option (Work Value) :=
  let first := args.headD .none
  match name with
  | "__len__" => some do return .int (← lengthOf call v)
  | "__iter__" => some (startItems call v)
  | "__str__" => some do return .text (← shown call v)
  | "__repr__" => some do return .text (← displayed call valueDepth v)
  | "__eq__" => some do return .bool (← areEqual call valueDepth v first)
  | "__contains__" => some do return .bool (← contains call v first)
  | "__getitem__" => some (itemAt call v first)
  | "__add__" => some (operated call false "+" v first)
  | "__next__" | "send" => some do
    match ← nextItem call v with
    | some r => return r
    | none => raiseWith "StopIteration" []
  | "__doc__" => some (return .none)
  | _ => none

/-- what a method of an object that is built in comes to -/
def objectMethod (v : Value) (kind : Value) (attributes : List (String × Value)) (name : String) (args : List Value)
    (named : List (String × Value)) : Work Value := do
  match kind, attribute? "path" attributes, attribute? " digest" attributes with
  | .builtin "Path", some (.text o), _ => pathMethod call v o name args named
  | _, _, some (.bytes o) =>
    let kind := match attribute? "name" attributes with
      | some (.text n) => String.ofList n
      | _ => ""
    match name with
    | "hexdigest" => return .text (inSixteen (digestOf kind o))
    | "digest" => return .bytes ((digestOf kind o).map Char.ofNat)
    | _ => do
      match args with
      | .bytes more :: _ => setObjectAttribute v " digest" (.bytes (o ++ more))
      | _ => typeError "object supporting the buffer API required"
      return .none
  | _, _, _ =>
    match name, attribute? " fields" attributes with
    | "_asdict", some (.tuple names) =>
      makeDict (names.map fun n => match n with
        | .text o => (n, (attribute? (String.ofList o) attributes).getD .none)
        | n => (n, .none))
    | "_replace", some _ => allocate (.instanceOf kind (named.foldl (fun acc (n, v) => putAttribute n v acc) attributes))
    | "with_traceback", _ => return v
    | _, _ => return .none

/-- calls a method -/
def callMethod (v : Value) (name : String) (args : List Value) (named : List (String × Value)) : Work Value := do
  match v with
  | .text o =>
    match name with
    | "format" => do
      let find (n : Characters) : Work Value := do
        match named.lookup (String.ofList n) with
        | some v => return v
        | none => raiseWith "KeyError" [.text n]
      return .text (← filledText call (getAttribute call) args find (4 * o.length + 10) 0 o).1
    | "format_map" => do
      let map := args.headD .none
      return .text (← filledText call (getAttribute call) [] (fun n => itemAt call map (.text n)) (4 * o.length + 10) 0 o).1
    | _ => match commonMethod? call v name args with
      | some w => w
      | none => textMethod call false o name args named
  | _ =>
    match commonMethod? call v name args with
    | some w => w
    | none =>
      match v with
      | .bytes o => bytesMethod call o name args named
      | .tuple items => tupleMethod call items name args
      | .range a b c => tupleMethod call ((List.range (rangeLength a b c)).map (rangeItem a c)) name args
      | .real x => realMethod x name
      | .ref a =>
        match ← thingAt a with
        | .list items => listMethod call a items name args named
        | .dict kind d entries => dictMethod call a kind d entries name args named
        | .set frozen items => setMethod call a frozen items name args
        | .file f => fileMethod call a f name args
        | .pattern _ bytes e => patternMethod call a bytes e name args named
        | .found p subject spot => foundMethod p subject spot name args named
        | .instanceOf kind attributes => objectMethod call v kind attributes name args named
        | .wrapped "property" f setter =>
          if name == "setter" then allocate (.wrapped "property" f (args.headD .none))
          else allocate (.wrapped "property" (args.headD .none) setter)
        | .iterator _ => do
          update a (.iterator [])
          return .none
        | _ => return .none
      | v =>
        match int? v with
        | some n => intMethod n name args named
        | none => return .none

/-! ## Functions and types -/

/-- the functions of records -/
def recordFunction? (name : String) (args : List Value) (named : List (String × Value)) : Option (Work Value) :=
  let first := args.headD .none
  match name with
  | "dataclasses.dataclass" => some do
    match first, ← thing? first with
    | .ref a, some (.classOf n bases attributes) => do
      let own : List Value := match attribute? " annotations" attributes with
        | some (.tuple names) => names
        | _ => []
      let inherited : List Value ← match ← bases.mapM fun b => classAttribute? b "_fields" with
        | some (.tuple names) :: _ => pure names
        | _ => pure []
      let all := inherited ++ own.filter fun v => !inherited.any (sameKey v)
      update a (.classOf n bases (putAttribute "_fields" (.tuple all) attributes))
      return first
    | _, _ => return .builtin "dataclasses.dataclass"
  | "dataclasses.field" => some do
    match named.lookup "default_factory", named.lookup "default" with
    | some f, _ => allocate (.wrapped "field" f (.bool true))
    | none, some v => return v
    | none, none => return .none
  | "dataclasses.asdict" | "dataclasses.astuple" => some do
    let attributes ← objectAttributes first
    let names : List Value := match attribute? " fields" attributes with
      | some (.tuple names) => names
      | _ => []
    let entries := names.map fun n => match n with
      | .text o => (n, (attribute? (String.ofList o) attributes).getD .none)
      | n => (n, .none)
    if name == "dataclasses.asdict" then makeDict entries else return .tuple (entries.map Prod.snd)
  | _ => none

/-- a new exception of a kind that is built in -/
def makeException (kind : String) (args : List Value) : Work Value := do
  let kind := match kind, args with
    | "OSError", .int n :: _ :: _ => match n with
      | 2 => "FileNotFoundError"
      | 13 => "PermissionError"
      | 17 => "FileExistsError"
      | 20 => "NotADirectoryError"
      | 21 => "IsADirectoryError"
      | 32 => "BrokenPipeError"
      | _ => "OSError"
    | kind, _ => kind
  let more : List (String × Value) := match args with
    | n :: s :: rest =>
      if kindIsA kind "OSError" then [("errno", n), ("strerror", s), ("filename", rest.headD .none)] else []
    | _ => []
  allocate (.instanceOf (.builtin kind) (("args", .tuple args) :: more))

/-- calls a function or a type that is built in -/
def callBuiltin (name : String) (args : List Value) (named : List (String × Value)) : Work Value := do
  let tried : List (Unit → Option (Work Value)) :=
    [fun _ => textBuiltin? call name args named, fun _ => itemBuiltin? call name args named,
      fun _ => numberBuiltin? call name args named, fun _ => objectBuiltin? call name args,
      fun _ => textModule? call name args named, fun _ => pathModule? call name args,
      fun _ => fileModule? call name args named, fun _ => numberModule? call name args named,
      fun _ => itemModule? call name args named, fun _ => functionModule? call name args named,
      fun _ => recordFunction? name args named]
  match tried.findSome? fun f => f () with
  | some w => w
  | none =>
    if isExceptionKind name then makeException name args
    else match name.splitOn ".", args with
      | ["dict", "fromkeys"], _ => do
        match ← makeDict [] with
        | .ref a => dictMethod call a "dict" .none [] "fromkeys" args named
        | v => return v
      | ["str", "maketrans"], _ => textMethod call false [] "maketrans" args named
      | ["bytes", "fromhex"], .text o :: _ =>
        let digits := o.filter fun c => !isSpaceChar c
        return .bytes ((List.range (digits.length / 2)).map fun i =>
          Char.ofNat (digitsIn 16 ((digits.drop (2 * i)).take 2)).1)
      | ["int", "from_bytes"], v :: rest => do
        let bytes ← itemsOf call v
        let little : Bool := match argument? rest named 0 "byteorder" with
          | some (.text o) => o == "little".toList
          | _ => false
        return .int ((if little then bytes.reverse else bytes).foldl (fun n b => n * 256 + (int? b).getD 0) 0)
      | [type, method], v :: rest =>
        if (typeMethodNames type).contains method then callMethod call v method rest named
        else return .none
      | [type, method], [] =>
        if (typeMethodNames type).contains method then typeError s!"unbound method {type}.{method}() needs an argument"
        else return .none
      | _, _ =>
        if (← typeName (.builtin name)) == "type" then return .none
        else typeError s!"'{name}' object is not callable"

/-! ## The arguments of a function -/

/-- names with commas between them, and a word before the last one -/
def listed (names : List String) : String :=
  let quoted := names.map fun n => s!"'{n}'"
  match quoted.reverse with
  | [] => ""
  | [only] => only
  | [second, first] => first ++ " and " ++ second
  | last :: rest => String.intercalate ", " rest.reverse ++ ", and " ++ last

/-- the values that the parameters of a function get -/
def parameterValues (title : String) (f : Function) (args : List Value) (named : List (String × Value)) :
    Work (List (String × Value)) := do
  let .mk plain positional rest keyed others := f.params
  let names := plain.map Prod.fst
  let n := names.length
  let given := names.zip args
  let extra := args.drop n
  if !extra.isEmpty && rest.isNone then
    let least := (names.filter fun p => (f.defaults.lookup p).isNone).length
    let count := args.length
    let wanted := if least == n then s!"{n} positional argument" ++ (if n == 1 then "" else "s")
      else s!"from {least} to {n} positional arguments"
    let was := if count == 1 then "was" else "were"
    typeError s!"{title}() takes {wanted} but {count} {was} given"
  let mut values := given
  let mut spare : List (String × Value) := []
  for (name, v) in named do
    let place := names.idxOf? name
    if (values.lookup name).isSome then
      typeError s!"{title}() got multiple values for argument '{name}'"
    else if place.any (positional ≤ ·) || keyed.any (fun k => k.1 == name) then values := values ++ [(name, v)]
    else if others.isSome then spare := spare ++ [(name, v)]
    else typeError s!"{title}() got an unexpected keyword argument '{name}'"
  let complete (group : List String) (kind : String) (values : List (String × Value)) : Work (List (String × Value)) := do
    let absent := group.filter fun p => (values.lookup p).isNone
    let missing := absent.filter fun p => (f.defaults.lookup p).isNone
    if !missing.isEmpty then
      let count := missing.length
      let plural := if count == 1 then "argument" else "arguments"
      let shown := listed missing
      typeError s!"{title}() missing {count} required {kind} {plural}: {shown}"
    return values ++ absent.filterMap fun p => (f.defaults.lookup p).map fun v => (p, v)
  values ← complete names "positional" values
  values ← complete (keyed.map Prod.fst) "keyword-only" values
  match rest with
  | some r => values := values ++ [(r, .tuple extra)]
  | none => pure ()
  match others with
  | some o => values := values ++ [(o, ← makeDict (spare.map fun (n, v) => (textValue n, v)))]
  | none => pure ()
  return values

end

end ScriptBridge.Shell.BlockScript
