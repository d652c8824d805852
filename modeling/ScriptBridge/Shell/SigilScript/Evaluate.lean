/-
Evaluating expressions, to one value or to many. What an expression comes to hangs on how many values are awaited: an array
is the number of its items where one is.
-/
import ScriptBridge.Shell.SigilScript.Action

namespace ScriptBridge.Shell.SigilScript

/-! ## Calls -/

/-- the values of an expression, as many as are awaited -/
def valuesFor (ev : Evaluator) (want : Want) (e : Expr) : Work (List Value) := do
  match want with
  | .many => ev.many e
  | .one => return [← ev.one e]
  | .nothing => do
    let _ ← ev.one e
    return []

/-- the cells of arguments -/
def argumentSlots (ev : Evaluator) (args : List Expr) : Work (List Nat) := (·.flatten) <$> args.mapM ev.slots

/-- calls what a value refers to -/
def callValue (ev : Evaluator) (v : Value) (args : List Nat) (want : Want) : Work (List Value) := do
  match v with
  | .undefined =>
    if (← get).strict then die "Can't use an undefined value as a subroutine reference" else die "Not a CODE reference"
  | v =>
    match ← referred '&' v false with
    | some f => ev.apply f args want
    | none => die s!"Undefined subroutine &main::{String.ofList (← textOf v)} called"

/-- calls a function by its name -/
def callNamed (ev : Evaluator) (name : String) (args : List Expr) (bare : Bool) (want : Want) : Work (List Value) := do
  match ← functionNamed? name with
  | some f => do ev.apply f (← argumentSlots ev args) want
  | none =>
    let full := fullName (← get).package name
    let package := String.intercalate "::" (full.splitOn "::").dropLast
    match (← get).globals.get? ("&" ++ package ++ "::AUTOLOAD") with
    | some f => do
      setCell (← globalSlot '$' (package ++ "::AUTOLOAD")) (textValue full)
      ev.apply f (← argumentSlots ev args) want
    | none =>
      if bare then
        if (← get).strict then
          let words := octets s!"Bareword \"{name}\" not allowed while \"strict subs\" in use" ++ (← placeWords)
          throw (.died (.text (words ++ octets s!"Execution of {(← get).file} aborted due to compilation errors.\n")))
        else return [textValue name]
      else die s!"Undefined subroutine &{full} called"

/-- what a method of a file does, if there is one of this name -/
def fileMethod? (a : Nat) (name : String) (args : List Value) : Option (Work Value) :=
  let write (o : Work Octets) : Option (Work Value) := some do return truthValue (← writeTo a name (← o))
  let joined : Work Octets := do return (← args.mapM textOf).flatten
  match name with
  | "print" => write joined
  | "say" => write do return (← joined) ++ ['\n']
  | "printf" => write do layout (← textOf (args.headD .undefined)) (args.drop 1)
  | "autoflush" => some do
    flush
    return .int 1
  | "flush" => some do
    flush
    return .int 1
  | "binmode" => some (return .int 1)
  | "opened" => some do return truthValue (((← fileAt? a).map fun f => !f.closed).getD false)
  | "fileno" => some do
    return match (← fileAt? a).bind fun f => f.stream with
      | some n => .int n
      | none => .int 3
  | "close" => some do return truthValue (← closeFile a)
  | "eof" => some do return truthValue (← isAtEnd a)
  | "getline" => some (takeLine "$fh" a true)
  | "input_line_number" => some do return .int (((← fileAt? a).map Opened.rows).getD 0 : Nat)
  | _ => none

/-- what a class that is built in does, if it has a method of this name -/
def classMethod? (ev : Evaluator) (package name : String) (object : Value) (args : List Value) : Option (Work (List Value)) :=
  let texts : Work (List Octets) := args.mapM textOf
  let one (v : Work Value) : Option (Work (List Value)) := some do return [← v]
  match package, name with
  | "File::Spec", "catfile" => one do return .text (joinedPath (← texts))
  | "File::Spec", "catdir" => one do return .text (trimmedPath (joinedPath (← texts)))
  | "File::Spec", "curdir" => one (return textValue ".")
  | "File::Spec", "updir" => one (return textValue "..")
  | "File::Spec", "tmpdir" => one (return textValue "/tmp")
  | "File::Spec", "rootdir" => one (return textValue "/")
  | "File::Spec", "devnull" => one (return textValue "/dev/null")
  | "File::Spec", "file_name_is_absolute" => one do return truthValue ((((← texts).headD []).head?) == some '/')
  | "File::Spec", "canonpath" => one do return .text (trimmedPath (joinedPath [(← texts).headD []]))
  | "File::Spec", "rel2abs" => one do
    let o := (← texts).headD []
    let here := Shell.placeText (← get).files.here
    return .text (if o.head? == some '/' then o else joinedPath [here, o])
  | "File::Spec", "splitdir" => some do return (cutAt '/' ((← texts).headD [])).map Value.text
  | "File::Spec", "splitpath" => some do
    let (folder, base) := pathEnd ((← texts).headD [])
    return [.text [], .text folder, .text base]
  | "JSON::PP", "new" => one do
    let a ← allocate (.table [])
    modify fun w => { w with blessed := w.blessed.insert a "JSON::PP" }
    return .ref a
  | "JSON::PP", "encode" => one do
    match object with
    | .ref a => do
      let pretty ← flagOf a "pretty"
      let style : JsonStyle := ⟨pretty || (← flagOf a "indent"), pretty || (← flagOf a "space_after"), ← flagOf a "canonical"⟩
      let o ← jsonData style dataDepth 0 (args.headD .undefined)
      let o := if style.lines then o ++ ['\n'] else o
      return .text (if ← flagOf a "utf8" then (bytesOf true o).1 else o)
    | _ => return .undefined
  | "JSON::PP", "decode" => one do
    match object with
    | .ref a => do
      let o ← textOf (args.headD .undefined)
      let (v, _) ← readData dataDepth (if ← flagOf a "utf8" then charactersOf o else o)
      return v
    | _ => return .undefined
  | "JSON::PP", "true" => one (return .int 1)
  | "JSON::PP", "false" => one (return .int 0)
  | "JSON::PP", flag => one do
    match object with
    | .ref a => do
      setCell (← entrySlot a flag.toList) (args.headD (.int 1))
      return object
    | v => return v
  | "Data::Dumper", "Dump" => some do
    match args.headD .undefined with
    | .ref a => do
      let cells ← (← valuesOf a).mapM newCell
      nativeFunction ev "Data::Dumper::Dumper" cells .one
    | _ => return []
  | _, _ => none

/-- calls a method -/
def callMethod (ev : Evaluator) (object : Expr) (name : String) (dynamic : Option Expr) (args : List Expr) (want : Want) :
    Work (List Value) := do
  let v ← ev.one object
  let slots ← argumentSlots ev args
  let self ← newCell v
  let named? : Except Value String ← match dynamic with
    | none => pure (.ok name)
    | some e => do
      match ← ev.one e with
      | .ref a => pure (.error (.ref a))
      | other => do pure (.ok (String.ofList (← textOf other)))
  match named? with
  | .error code => callValue ev code (self :: slots) want
  | .ok name => do
    let file? ← match v with
      | .handle _ => do pure ((← fileOf? v).map Prod.snd)
      | .ref a => do
        match ← thingAt a with
        | .file _ => pure (some a)
        | .cell (.handle _) => do pure ((← fileOf? v).map Prod.snd)
        | _ => pure none
      | .text o => do pure ((← get).globals.get? ("*" ++ fullName "main" (String.ofList o)))
      | _ => pure none
    let values ← slots.mapM cellAt
    match file?.bind fun a => fileMethod? a name values with
    | some act => return [← act]
    | none =>
      match v with
      | .undefined => die s!"Can't call method \"{name}\" on an undefined value"
      | _ => pure ()
      match ← packageOf v with
      | none => die s!"Can't call method \"{name}\" on unblessed reference"
      | some "" => die s!"Can't call method \"{name}\" without a package or object reference"
      | some package => do
        let here := (← get).package
        let parts := name.splitOn "::"
        let short := parts.getLastD name
        let packages ← if parts.length < 2 then linesOf baseDepth package
          else if parts.headD "" == "SUPER" then (List.drop 1) <$> linesOf baseDepth here
          else linesOf baseDepth (String.intercalate "::" parts.dropLast)
        match ← methodOf? packages short with
        | some f => ev.apply f (self :: slots) want
        | none =>
          match short with
          | "isa" | "DOES" => do
            let other := String.ofList (← textOf (values.headD .undefined))
            return [truthValue (packages.contains other)]
          | "can" => do
            match ← methodOf? packages (String.ofList (← textOf (values.headD .undefined))) with
            | some f => return [.ref f]
            | none => return [.text []]
          | "import" | "unimport" | "DESTROY" => return []
          | "VERSION" => do return [← cellAt (← globalSlot '$' (package ++ "::VERSION"))]
          | short =>
            match packages.findSome? fun p => classMethod? ev p short v values with
            | some act => act
            | none =>
              match ← methodOf? packages "AUTOLOAD" with
              | some f => do
                let home := match ← thingAt f with
                  | .function g => g.package
                  | _ => package
                setCell (← globalSlot '$' (home ++ "::AUTOLOAD")) (textValue (package ++ "::" ++ short))
                ev.apply f (self :: slots) want
              | none => noMethod short package

/-! ## Functions that are built in -/

/-- guards a part of a program: what it dies with is kept and told -/
def guarded (want : Want) (act : Work (List Value)) : Work (List Value) := do
  let fault ← globalSlot '$' "main::@"
  setCell fault (.text [])
  tryCatch (do
    let values ← act
    setCell fault (.text [])
    return values) fun
    | .died v => do
      setCell fault v
      return if want == .many then [] else [.undefined]
    | .back values => do
      setCell fault (.text [])
      return awaited want values
    | leave => throw leave

/-- reads and runs a text as a program, in the scope that it stands in -/
def evaluateText (ev : Evaluator) (o : Octets) (want : Want) : Work (List Value) := do
  let count ← modifyGet fun w => (w.texts + 1, { w with texts := w.texts + 1 })
  let file := s!"(eval {count})"
  match readProgram file o true with
  | .error fault => do
    let words := if fault.rows then octets fault.message
      else octets (fault.message ++ s!" at {file} line {fault.line}.\n")
    throw (.died (.text words))
  | .ok (body, _) => do
    let (outer, line) ← modifyGet fun w => ((w.file, w.line), w)
    modify fun w => { w with file, line := 1 }
    afterwards (ev.block want body) (modify fun w => { w with file := outer, line })

/-- gets a signal: its handler is called, or it ends the program if it is deadly -/
def receive (ev : Evaluator) (n : Nat) : Work Unit := do
  let name := String.ofList (signalName n)
  let wish ← match (← get).globals.get? "%main::SIG" with
    | none => pure []
    | some table => match ← entrySlot? table name.toList with
      | none => pure []
      | some a => textOf (← cellAt a)
  let handler ← if n == 9 then pure none else handlerOf? name
  match handler with
  | some f => do
    let slot ← newCell (.text name.toList)
    let _ ← ev.apply f [slot] .nothing
  | none => if isDeadly n && wish != octets "IGNORE" then throw (.halted (signalled n))

/-- the values of a function that steps through what runs around -/
def callerValues (level : Option Nat) : Work (List Value) := do
  let frames := (← get).frames
  match frames[level.getD 0]? with
  | none => return []
  | some f =>
    let place := [textValue f.package, textValue f.file, .int f.line]
    return if level.isSome then place ++ [textValue f.function, .int 1, truthValue (f.want == .many)] else place

/-- the values of functions that are given places, or that come to many values -/
def builtinMany (ev : Evaluator) (name : String) (args : List Expr) (want : Want) : Work (List Value) := do
  let topic : Expr := .scalar "_"
  let first : Expr := args.headD topic
  let one (v : Value) : Work (List Value) := return [v]
  let values : Work (List Value) := (·.flatten) <$> args.mapM ev.many
  let listArgument : Work Nat := do
    if args.isEmpty then do
      if (← get).frames.isEmpty then globalSlot '@' "ARGV" else return (← get).args
    else ev.array true first
  let label : String := match args with
    | [.literal (.text o)] => String.ofList o
    | _ => ""
  match name with
  | "*" => do
    match ← ev.one first with
    | .text o => one (.handle (String.ofList o))
    | v => one v
  | "push" => do
    let array ← ev.array true first
    let new ← (args.drop 1).mapM ev.many
    let cells ← new.flatten.mapM newCell
    changeArray array fun items => items ++ cells.toArray
    one (.int (← itemsOf array).size)
  | "unshift" => do
    let array ← ev.array true first
    let new ← (args.drop 1).mapM ev.many
    let cells ← new.flatten.mapM newCell
    changeArray array fun items => cells.toArray ++ items
    one (.int (← itemsOf array).size)
  | "pop" => do
    let array ← listArgument
    let items ← itemsOf array
    match items.back? with
    | some a => do
      let v ← itemValue a
      changeArray array Array.pop
      one v
    | none => one .undefined
  | "shift" => do
    let array ← listArgument
    let items ← itemsOf array
    match items[0]? with
    | some a => do
      let v ← itemValue a
      changeArray array fun items => items.extract 1 items.size
      one v
    | none => one .undefined
  | "splice" => do
    let array ← ev.array true first
    let offset ← match args[1]? with
      | some e => some <$> intOf (← ev.one e)
      | none => pure none
    let length ← match args[2]? with
      | some e => match ← ev.one e with
        | .undefined => pure none
        | v => some <$> intOf v
      | none => pure none
    let new ← (args.drop 3).mapM ev.many
    spliced array offset length new.flatten
  | "delete" =>
    match first with
    | .entry t k => do
      let table ← ev.table true t
      let key ← keyOf ev k
      match ← entrySlot? table key with
      | some a => do
        changeTable table fun entries => entries.filter fun e => e.1 != key
        one (← cellAt a)
      | none => one .undefined
    | .entries t ks => do
      let table ← ev.table true t
      let keys ← (← ev.many ks).mapM textOf
      keys.mapM fun key => do
        match ← entrySlot? table key with
        | some a => do
          changeTable table fun entries => entries.filter fun e => e.1 != key
          cellAt a
        | none => return .undefined
    | .item a i => do
      let array ← ev.array true a
      let items ← itemsOf array
      match placeIn items.size (← intOf (← ev.one i)) with
      | some p => do
        let v ← match items[p]? with
          | some c => itemValue c
          | none => pure .undefined
        changeArray array fun items => if p + 1 = items.size then items.pop else items.setIfInBounds p 0
        one v
      | none => one .undefined
    | .declare .passing [.entry t k] _ => do
      let table ← ev.table true t
      let key ← keyOf ev k
      makePassing ev (.entry t (.literal (.text key)))
      changeTable table fun entries => entries.filter fun e => e.1 != key
      one .undefined
    | _ => die "delete argument is not a HASH or ARRAY element or slice"
  | "exists" =>
    match first with
    | .entry t k => do
      let table ← ev.table true t
      one (truthValue (← entrySlot? table (← keyOf ev k)).isSome)
    | .item a i => do
      let items ← itemsOf (← ev.array true a)
      match placeIn items.size (← intOf (← ev.one i)) with
      | some p => one (truthValue (match items[p]? with
        | some c => c != 0
        | none => false))
      | none => one (.text [])
    | .function n => do one (truthValue (← functionNamed? n).isSome)
    | .call n _ _ => do one (truthValue (← functionNamed? n).isSome)
    | _ => die "exists argument is not a HASH or ARRAY element or a subroutine"
  | "defined" =>
    match first with
    | .function n => do one (truthValue (← functionNamed? n).isSome)
    | .array _ => do one (truthValue (0 < (← itemsOf (← ev.array false first)).size))
    | .arrayAt _ => do one (truthValue (0 < (← itemsOf (← ev.array false first)).size))
    | .table _ => do one (truthValue (!(← entriesOf (← ev.table false first)).isEmpty))
    | .callAt f [] true => do
      match ← ev.one f with
      | .ref _ => one (.int 1)
      | v => do one (truthValue (← functionNamed? (String.ofList (← textOf v))).isSome)
    | e => do one (truthValue (isDefined (← ev.one e)))
  | "undef" => do
    match args with
    | [] => pure ()
    | e :: _ =>
      match e with
      | .array _ | .arrayAt _ => do update (← ev.array true e) (.array #[])
      | .table _ | .tableAt _ => do update (← ev.table true e) (.table [])
      | .function n => modify fun w => { w with globals := w.globals.erase ("&" ++ fullName w.package n) }
      | e => storeOne ev e .undefined
    one .undefined
  | "scalar" => do one (← ev.one first)
  | "each" => do
    let table ← if isArray first then ev.array true first else ev.table true first
    nextEntry table
  | "keys" => do
    if isArray first then
      let size := (← itemsOf (← ev.array true first)).size
      if want == .many then return (List.range size).map fun (i : Nat) => .int i else one (.int size)
    else
      let table ← ev.table true first
      modify fun w => { w with walks := w.walks.filter fun p => p.1 != table }
      let entries ← entriesOf table
      if want == .many then return entries.map fun e => .text e.1 else one (.int entries.length)
  | "values" => do
    if isArray first then
      let items ← itemsOf (← ev.array true first)
      if want == .many then items.toList.mapM itemValue else one (.int items.size)
    else
      let table ← ev.table true first
      modify fun w => { w with walks := w.walks.filter fun p => p.1 != table }
      let entries ← entriesOf table
      if want == .many then entries.mapM fun e => cellAt e.2 else one (.int entries.length)
  | "wantarray" => do
    match (← get).want with
    | .many => one (.int 1)
    | .one => one (.text [])
    | .nothing => one .undefined
  | "chomp" => do
    let slots ← if args.isEmpty then do pure [← scalarSlot "_"] else argumentSlots ev args
    let mut n := 0
    for a in slots do n := n + (← chompCell a)
    one (.int n)
  | "chop" => do
    let slots ← if args.isEmpty then do pure [← scalarSlot "_"] else argumentSlots ev args
    let mut last : Octets := []
    for a in slots do
      let o ← textOf (← cellAt a)
      last := o.getLast?.toList
      setCell a (.text o.dropLast)
    one (.text last)
  | "substr" =>
    match args with
    | [place, offset, length, new] => do
      let slot ← ev.slot place
      let offset ← intOf (← ev.one offset)
      let length ← intOf (← ev.one length)
      one (← putPart slot offset (some length) (← textOf (← ev.one new)))
    | args => do
      let vs ← args.mapM ev.one
      match plainFunction "substr" vs with
      | some act => one (← act)
      | none => one .undefined
  | "pos" => do
    let slot ← if args.isEmpty then scalarSlot "_" else ev.slot first
    match (← get).positions.lookup slot with
    | some (place, _) => one (.int place)
    | none => one .undefined
  | "reverse" => do
    let vs ← values
    if want == .many then return vs.reverse
    else do
      let o ← if args.isEmpty then textOf (← scalarValue "_") else do pure (← vs.mapM textOf).flatten
      one (.text o.reverse)
  | "split" => do
    let parts ← cutText ev args
    if want == .many then return parts else one (.int parts.length)
  | "ref" => do
    match ← ev.one first with
    | .ref a =>
      match (← get).blessed.get? a with
      | some p => one (textValue p)
      | none => do one (textValue (← kindOf a))
    | _ => one (.text [])
  | "bless" => do
    let v ← ev.one first
    let package ← match args[1]? with
      | some e => do
        match ← ev.one e with
        | .ref a => do pure (((← get).blessed.get? a).getD "main")
        | p => String.ofList <$> textOf p
      | none => do pure (← get).package
    match v with
    | .ref a => modify fun w => { w with blessed := w.blessed.insert a package }
    | _ => die "Can't bless non-reference value"
    one v
  | "die" => do
    let vs ← values
    if vs.all fun v => match v with
        | .text [] => true
        | .undefined => true
        | _ => false then
      -- what died before goes on
      let before ← cellAt (← globalSlot '$' "main::@")
      match before with
      | .ref a => dieWith ev (.ref a)
      | .text [] | .undefined => dieWith ev (← messageText [] "Died")
      | v => dieWith ev (.text ((← textOf v) ++ octets "\t...propagated" ++ (← placeWords)))
    else dieWith ev (← messageText vs "Died")
  | "warn" => do
    warnWith ev (← messageText (← values) "Warning: something's wrong")
    one (.int 1)
  | "exit" => do
    let n ← if args.isEmpty then pure 0 else intOf (← ev.one first)
    throw (.halted (n % 256).toNat)
  | "return" => do
    let want := (← get).want
    match args with
    | [] => throw (.back (if want == .many then [] else [.undefined]))
    | e :: _ => do throw (.back (← valuesFor ev (if want == .nothing then .one else want) e))
  | "last" => throw (.out label)
  | "next" => throw (.again label)
  | "redo" => throw (.anew label)
  | "eval" => do
    let o ← textOf (← ev.one first)
    guarded want (evaluateText ev o want)
  | "do" => do
    let path ← textOf (← ev.one first)
    match (← get).files.read (pathOf path) with
    | .ok bytes => evaluateText ev (ofBytes bytes) want
    | .error e => do
      noteCause e
      one .undefined
  | "require" => do
    match first with
    | .literal (.int _) => one (.int 1)
    | .literal (.real _) => one (.int 1)
    | .call n [] true =>
      if knownModules.contains n then one (.int 1)
      else
        let file := String.intercalate "/" (n.splitOn "::") ++ ".pm"
        missing file (" (you may need to install the " ++ n ++ " module)")
    | e => do
      let path ← textOf (← ev.one e)
      match (← get).files.read (pathOf path) with
      | .ok bytes => do
        let _ ← evaluateText ev (ofBytes bytes) .one
        one (.int 1)
      | .error _ => missing (String.ofList path) ""
  | "glob" => do
    let found ← filesLike (← textOf (← ev.one first))
    if want == .many then return found else one (found.headD .undefined)
  | "open" => do one (← openFile ev args)
  | "close" => do
    match ← fileFor? ev (args.headD (.handle "STDOUT")) with
    | some (_, a) => do one (truthValue (← closeFile a))
    | none => do
      modify fun w => { w with cause := 9 }
      one (.text [])
  | "eof" => do
    match args with
    | [] => do
      match (← get).reading with
      | some (_, a) => one (truthValue (← isAtEnd a))
      | none => one (.int 1)
    | e :: _ => do
      match ← fileFor? ev e with
      | some (_, a) => one (truthValue (← isAtEnd a))
      | none => one (.int 1)
  | "binmode" => do
    match ← fileFor? ev first with
    | some (_, a) => do
      let layer ← match args[1]? with
        | some e => String.ofList <$> textOf (← ev.one e)
        | none => pure ""
      match ← fileAt? a with
      | some f => update a (.file { f with coded := (layer.toLower.splitOn "utf").length != 1 })
      | none => pure ()
      one (.int 1)
    | none => one (.text [])
  | "fileno" => do
    match ← fileFor? ev first with
    | some (_, a) => do
      match ← fileAt? a with
      | some f => one (if f.closed then .undefined else .int (f.stream.getD 3))
      | none => one .undefined
    | none => one .undefined
  | "readline" => if want == .many then readMany ev first else do one (← readOne ev (if args.isEmpty then .handle "" else first))
  | "getc" => do
    match ← fileFor? ev (args.headD (.handle "STDIN")) with
    | some (_, a) => do
      match ← fileAt? a with
      | some f => do
        match ← restOf f with
        | c :: rest => do
          setRest a f rest
          one (.text [c])
        | [] => one .undefined
      | none => one .undefined
    | none => one .undefined
  | "read" | "sysread" => do
    match args with
    | handle :: place :: length :: more => do
      let n ← sizeOf (← ev.one length)
      let offset ← match more with
        | e :: _ => sizeOf (← ev.one e)
        | [] => pure 0
      let slot ← ev.slot place
      match ← fileFor? ev handle with
      | some (_, a) => do
        match ← fileAt? a with
        | some f => do
          let rest ← restOf f
          let part := rest.take n
          setRest a f (rest.drop n)
          let before ← textOf (← cellAt slot)
          setCell slot (.text (before.take offset ++ part))
          one (.int part.length)
        | none => one (.text [])
      | none => one (.text [])
    | _ => one .undefined
  | "syswrite" => do
    match args with
    | handle :: e :: _ => do
      let o ← textOf (← ev.one e)
      match ← fileFor? ev handle with
      | some (_, a) => do
        let _ ← writeTo a "syswrite" o
        one (.int o.length)
      | none => one .undefined
    | _ => one .undefined
  | "seek" | "truncate" => do
    match ← fileFor? ev first with
    | some (_, a) => do
      passOn a
      match ← fileAt? a with
      | some f =>
        if f.stream.isNone && f.cell.isNone then
          let place ← sizeOf (← ev.one (args.getD 1 (.literal (.int 0))))
          match (← get).files.read (pathOf f.path) with
          | .ok bytes => update a (.file { f with rest := (ofBytes bytes).drop place })
          | .error _ => pure ()
      | none => pure ()
      one (.int 1)
    | none => one (.text [])
  | "tell" => do
    match ← fileFor? ev first with
    | some (_, a) => do
      match ← fileAt? a with
      | some f => do
        let whole := match (← get).files.read (pathOf f.path) with
          | .ok bytes => bytes.length
          | .error _ => 0
        one (.int ((whole - f.rest.length : Nat)))
      | none => one (.int (-1))
    | none => one (.int (-1))
  | "opendir" => do
    match args with
    | [target, path] => do
      let o ← textOf (← ev.one path)
      match listFolder (← get).files true (pathOf o) with
      | some names => do
        let rows := (['.'] :: ['.', '.'] :: names).map fun n => n ++ [Char.ofNat 0]
        openHandle ev target .reading false none none (some rows.flatten) >>= one
      | none => do
        match (← get).files.node (pathOf o) with
        | .ok _ => noteCause .notFolder
        | .error e => noteCause e
        one (.text [])
    | _ => one (.text [])
  | "readdir" => do
    match ← fileFor? ev first with
    | none => one .undefined
    | some (_, a) => do
      match ← fileAt? a with
      | none => one .undefined
      | some f =>
        let names := (cutAt (Char.ofNat 0) f.rest).filter fun n => !n.isEmpty
        if want == .many then
          update a (.file { f with rest := [] })
          return names.map Value.text
        else match names with
          | n :: _ => do
            update a (.file { f with rest := f.rest.drop (n.length + 1) })
            one (.text n)
          | [] => one .undefined
  | "closedir" => do
    match ← fileFor? ev first with
    | some (_, a) => do one (truthValue (← closeFile a))
    | none => one (.text [])
  | "select" => do
    let before := (← get).selected
    match args with
    | [e] => do
      match ← fileFor? ev e with
      | some (_, a) => modify fun w => { w with selected := a }
      | none => pure ()
    | _ => pure ()
    one (.ref before)
  | "caller" => do
    let level ← match args with
      | e :: _ => some <$> sizeOf (← ev.one e)
      | [] => pure none
    let all ← callerValues level
    return if want == .many then all else (all.headD .undefined) :: []
  | "localtime" | "gmtime" => do
    let n ← if args.isEmpty then pure timeNow else intOf (← ev.one first)
    let parts := timeParts n
    if want == .many then return parts.map Value.int else one (.text (timeText parts))
  | "stat" | "lstat" => do
    let o ← textOf (← ev.one first)
    let files := (← get).files
    match files.node (pathOf o) with
    | .error e => do
      noteCause e
      if want == .many then return [] else one (.text [])
    | .ok node =>
      let size := match files.read (pathOf o) with
        | .ok bytes => bytes.length
        | .error _ => 4096
      let mode : Int := match node with
        | .file _ executable => if executable then 33261 else 33188
        | _ => 16877
      if want == .many then
        return ([0, 0, mode, 1, 0, 0, 0, size, timeNow, timeNow, timeNow, 4096, (size + 511) / 512] : List Int).map Value.int
      else one (.int 1)
  | "system" | "exec" => do
    let words ← (← values).mapM textOf
    let _ ← match words with
      | [o] => runCommand o false
      | program :: rest => runProgram program rest false
      | [] => pure []
    if name == "exec" then throw (.halted ((← get).child / 256).toNat)
    else one (.int (← get).child)
  | "pack" => do
    let vs ← values
    let o ← textOf (vs.headD .undefined)
    one (.text (← packed (packLetters (o.length + 1) o) (vs.drop 1)))
  | "unpack" => do
    let o ← textOf (← ev.one first)
    let bytes ← textOf (← ev.one (args.getD 1 topic))
    unpacked (packLetters (o.length + 1) o) bytes
  | "constant" => do
    match args with
    | [.literal (.text package), e] => do
      let put (key : Octets) (vs : List Value) : Work Unit := do
        let parts ← vs.mapM fun v => do
          let a ← newCell v
          let scope ← allocate (.scope [("$value", a)] none)
          return (a, scope)
        let a ← newArray (← parts.mapM fun p => cellAt p.1)
        let scope ← allocate (.scope [("@value", a), ("$value", (parts.getLast?.map Prod.fst).getD 0)] none)
        let body : Stmt := .expr 0 (if vs.length = 1 then .scalar "value" else .array "value")
        let f ← allocate (.function ⟨String.ofList key, String.ofList package, [body], scope⟩)
        modify fun w => { w with globals := w.globals.insert ("&" ++ fullName (String.ofList package) (String.ofList key)) f }
      match e with
      | .tableOf members => do
        let rec pairs : List Value → Work Unit
          | k :: v :: rest => do
            put (← textOf k) [v]
            pairs rest
          | _ => return ()
        pairs ((← members.mapM ev.many).flatten)
      | e => do
        match ← ev.many e with
        | k :: vs => put (← textOf k) vs
        | [] => pure ()
      return []
    | _ => return []
  | "kill" => do
    match ← values with
    | signal :: targets => do
      let name ← textOf signal
      let name := if name.head? == some '-' then name.drop 1 else name
      let name := if (octets "SIG").isPrefixOf name then name.drop 3 else name
      match signalNumber? name with
      | some n => do
        let mut count := 0
        for t in targets do
          let number ← intOf t
          if number == ownNumber || number == 0 then
            receive ev n
            count := count + 1
        one (.int count)
      | none => die s!"Unrecognized signal name \"{String.ofList name}\""
    | [] => die "Can't kill a non-numeric process ID"
  | name =>
    -- functions of values: those that take one, and those that take a list
    let vs ← if ["sprintf", "join", "unlink", "chmod", "chown", "utime"].contains name then values
      else if args.isEmpty && unaryWords.contains name && name != "rand" && name != "srand" && name != "sleep" && name != "umask"
        then do pure [← scalarValue "_"]
      else if args.isEmpty && name == "mkdir" then do pure [← scalarValue "_"]
      else match args with
        | [.array n] => if unaryWords.contains name then do pure [← ev.one (.array n)] else values
        | args => args.mapM ev.one
    let vs ← if name == "unlink" && args.isEmpty then do pure [← scalarValue "_"] else pure vs
    match plainFunction name vs with
    | some act => one (← act)
    | none => die s!"Unsupported function {name}"
where
  /-- what is said about a file that is not there -/
  missing (file advice : String) : Work (List Value) := do
    die ("Can't locate " ++ file ++ " in @INC" ++ advice ++ " (@INC entries checked: "
      ++ String.intercalate " " searchedFolders ++ ")")
  /-- the folders where modules are looked for -/
  searchedFolders : List String :=
    ["/etc/perl", "/usr/local/lib/x86_64-linux-gnu/perl/5.38.2", "/usr/local/share/perl/5.38.2",
      "/usr/lib/x86_64-linux-gnu/perl5/5.38", "/usr/share/perl5", "/usr/lib/x86_64-linux-gnu/perl-base",
      "/usr/lib/x86_64-linux-gnu/perl/5.38", "/usr/share/perl/5.38", "/usr/local/lib/site_perl"]

/-! ## Expressions -/

/-- what a literal stands for -/
def literalValue : Literal → Value
  | .undefined => .undefined
  | .int n => .int n
  | .real x => .real x
  | .text o => .text o

/-- a reference to what an expression means -/
def referenceTo (ev : Evaluator) (e : Expr) : Work Value := do
  match e with
  | .array _ | .arrayAt _ => do return .ref (← ev.array true e)
  | .table _ | .tableAt _ => do return .ref (← ev.table true e)
  | .declare _ [.array _] false => do return .ref (← ev.array true e)
  | .declare _ [.table _] false => do return .ref (← ev.table true e)
  | .function name => do
    match ← functionNamed? name with
    | some f => return .ref f
    | none => do return .ref (← allocate (.native (fullName (← get).package name)))
  | .callAt f [] true => do
    match ← ev.one f with
    | .ref a => return .ref a
    | v => do
      match ← functionNamed? (String.ofList (← textOf v)) with
      | some a => return .ref a
      | none => do return .ref (← allocate (.native (String.ofList (← textOf v))))
  | e => do return .ref (← ev.slot e)

/-- steps a place -/
def stepped (ev : Evaluator) (op : String) (before : Bool) (target : Expr) : Work Value := do
  let change (v : Value) : Work Value := if op == "++" then increased v else decreased v
  let old ← if isOdd target then ev.one target else do cellAt (← ev.slot target)
  let new ← change old
  if isOdd target then storeOne ev target new else do setCell (← ev.slot target) new
  if before then return new
  else match old with
    | .undefined => return if op == "++" then .int 0 else .undefined
    | .text o => if op == "++" && hasFollowing o then return old else numberOf old
    | v => return v

/-- whether what is between two conditions was reached; it begins where the first one is true -/
def between (ev : Evaluator) (mark : Nat) (lasting : Bool) (first last : Expr) : Work Value := do
  let key := s!"between {(← get).file} {mark}"
  let slot ← match (← get).lasting.lookup key with
    | some a => pure a
    | none => do
      let a ← newCell (.int 0)
      modify fun w => { w with lasting := (key, a) :: w.lasting }
      pure a
  let holds (e : Expr) : Work Bool := do
    match e with
    | .literal (.int n) => do return (numberOrder? (.int n) (← numberOf (← scalarValue "."))) == some .eq
    | e => return isTrue (← ev.one e)
  let n ← intOf (← cellAt slot)
  let ended (n : Int) : Work Value := do
    setCell slot (.int 0)
    return .text (number n ++ ['E', '0'])
  if n = 0 then
    if ← holds first then
      if !lasting then
        if ← holds last then ended 1
        else do
          setCell slot (.int 1)
          return .int 1
      else do
        setCell slot (.int 1)
        return .int 1
    else return .text []
  else if ← holds last then ended (n + 1)
  else do
    setCell slot (.int (n + 1))
    return .int (n + 1)

/-- the values of a range of an array or of a list -/
def picked (values : Array Value) (indices : List Value) : Work (List Value) :=
  indices.mapM fun i => do
    match placeIn values.size (← intOf i) with
    | some p => return (values[p]?).getD .undefined
    | none => return .undefined

/-- the one value that an expression comes to -/
def oneOf (ev : Evaluator) (e : Expr) : Work Value := do
  let lastOf : Work Value := do return ((← ev.many e).getLast?).getD .undefined
  match e with
  | .literal l => return literalValue l
  | .text parts => do return .text (← fillParts ev parts)
  | .declare _ [.array _] false => do return .int (← itemsOf (← ev.array true e)).size
  | .declare _ [.table _] false => do return .int (← entriesOf (← ev.table true e)).length
  | .declare reach targets true => do
    for t in targets do declareTarget ev reach t
    return .undefined
  | .declare .. => do cellAt (← ev.slot e)
  | .scalar n => scalarValue n
  | .array _ => do return .int (← itemsOf (← ev.array false e)).size
  | .arrayAt _ => do return .int (← itemsOf (← ev.array false e)).size
  | .table _ => do return .int (← entriesOf (← ev.table false e)).length
  | .tableAt _ => do return .int (← entriesOf (← ev.table false e)).length
  | .function name => do
    match ← functionNamed? name with
    | some f => do return ((← ev.apply f (← itemsOf (← get).args).toList .one).getLast?).getD .undefined
    | none => die s!"Undefined subroutine &{fullName (← get).package name} called"
  | .handle n => return .handle n
  | .scalarAt inner => do
    match ← reached ev '$' false inner with
    | some a => cellAt a
    | none => return .undefined
  | .lastIndex a => do return .int ((← itemsOf (← ev.array false a)).size - 1 : Int)
  | .item a i => do
    let array ← ev.array true a
    let i ← intOf (← ev.one i)
    let items ← itemsOf array
    match placeIn items.size i with
    | some p => match items[p]? with
      | some c => itemValue c
      | none => return .undefined
    | none => return .undefined
  | .entry t k => do
    let table ← ev.table true t
    match ← entrySlot? table (← keyOf ev k) with
    | some a => cellAt a
    | none => return .undefined
  | .call name args bare => do return ((← callNamed ev name args bare .one).getLast?).getD .undefined
  | .callAt f args bare => do
    let v ← ev.one f
    let slots ← if bare then do pure (← itemsOf (← get).args).toList else argumentSlots ev args
    return ((← callValue ev v slots .one).getLast?).getD .undefined
  | .method object name dynamic args => do
    return ((← callMethod ev object name dynamic args .one).getLast?).getD .undefined
  | .builtin name args => do return ((← builtinMany ev name args .one).getLast?).getD .undefined
  | .print name target args => printed ev name target args
  | .each .. => do return .int (← ev.many e).length
  | .unary op inner => do
    let v ← ev.one inner
    match op with
    | "!" => return truthValue !(isTrue v)
    | "~" => do return .int (18446744073709551615 - wordOf (← intOf v) : Int)
    | _ => negative v
  | .step op before target => stepped ev op before target
  | .binary op a b => do
    let x ← ev.one a
    let y ← ev.one b
    applyBinary op x y
  | .both a b => do
    let v ← ev.one a
    if isTrue v then ev.one b else return v
  | .either a b => do
    let v ← ev.one a
    if isTrue v then return v else ev.one b
  | .ifDefined a b => do
    let v ← ev.one a
    if isDefined v then return v else ev.one b
  | .conditional test yes no => do if isTrue (← ev.one test) then ev.one yes else ev.one no
  | .assign op target value => assignOne ev op target value
  | .range mark lasting first last => between ev mark lasting first last
  | .list members =>
    match members.reverse with
    | [] => return .undefined
    | last :: before => do
      for m in before.reverse do
        let _ ← ev.one m
      ev.one last
  | .search target negated m => searchOne ev target negated m
  | .arrayOf members => do
    let values ← members.mapM ev.many
    return .ref (← newArray values.flatten)
  | .tableOf members => do
    let values ← members.mapM ev.many
    return .ref (← allocate (.table (← tableEntries values.flatten)))
  | .functionOf body => do
    let (package, scope) ← modifyGet fun w => ((w.package, w.scope), w)
    return .ref (← allocate (.function ⟨package ++ "::__ANON__", package, body, scope⟩))
  | .referTo (.list members) => do
    let refs ← members.mapM (referenceTo ev)
    return (refs.getLast?).getD .undefined
  | .referTo inner => referenceTo ev inner
  | .readFrom source => readOne ev source
  | .files parts => do return ((← filesLike (← fillParts ev parts)).head?).getD .undefined
  | .command parts => do return .text (← runCommand (← fillParts ev parts) true)
  | .test letter inner => do
    let v ← match inner with
      | .literal _ => ev.one inner
      | e => handleValue ev e
    fileTest letter v
  | .run guards body => do
    let values ← if guards then guarded .one (ev.block .one body) else ev.block .one body
    return (values.getLast?).getD .undefined
  | .items .. | .entries .. | .pairs .. | .pick .. | .sort .. => lastOf

/-- the many values that an expression comes to -/
def manyOf (ev : Evaluator) (e : Expr) : Work (List Value) := do
  match e with
  | .array _ | .arrayAt _ => do valuesOf (← ev.array false e)
  | .declare _ [.array _] false => do valuesOf (← ev.array true e)
  | .table _ | .tableAt _ => do
    let entries ← entriesOf (← ev.table false e)
    let parts ← entries.mapM fun (k, a) => do return [Value.text k, ← cellAt a]
    return parts.flatten
  | .declare reach targets true => do
    for t in targets do declareTarget ev reach t
    let parts ← targets.mapM ev.many
    return parts.flatten
  | .list members => do
    let parts ← members.mapM ev.many
    return parts.flatten
  | .items array indices => do
    let values ← valuesOf (← ev.array true array)
    picked values.toArray (← ev.many indices)
  | .entries table keys => do
    let table ← ev.table true table
    (← ev.many keys).mapM fun k => do
      match ← entrySlot? table (← textOf k) with
      | some a => cellAt a
      | none => return .undefined
  | .pairs table keys => do
    let keys ← ev.many keys
    if isArray table then
      let values ← valuesOf (← ev.array true table)
      let parts ← keys.mapM fun k => do return k :: (← picked values.toArray [k])
      return parts.flatten
    else
      let table ← ev.table true table
      let parts ← keys.mapM fun k => do
        match ← entrySlot? table (← textOf k) with
        | some a => return [k, ← cellAt a]
        | none => return [k, Value.undefined]
      return parts.flatten
  | .pick list indices => do
    let values ← ev.many list
    if values.isEmpty then return [] else picked values.toArray (← ev.many indices)
  | .call name args bare => callNamed ev name args bare .many
  | .callAt f args bare => do
    let v ← ev.one f
    let slots ← if bare then do pure (← itemsOf (← get).args).toList else argumentSlots ev args
    callValue ev v slots .many
  | .function name => do
    match ← functionNamed? name with
    | some f => do ev.apply f (← itemsOf (← get).args).toList .many
    | none => die s!"Undefined subroutine &{fullName (← get).package name} called"
  | .method object name dynamic args => callMethod ev object name dynamic args .many
  | .builtin name args => builtinMany ev name args .many
  | .each name block list => do
    let slots ← ev.slots list
    if name == "grep" then
      let kept ← slots.filterMapM fun a => withTopic a do
        let v ← ev.block .one block
        return if isTrue ((v.getLast?).getD .undefined) then some a else none
      kept.mapM cellAt
    else
      let parts ← slots.mapM fun a => withTopic a (ev.block .many block)
      return parts.flatten
  | .sort order block list => do
    let slots ← ev.slots list
    let n := slots.length + 1
    let package := (← get).package
    let sorted ← match order, block with
      | none, [] => do
        let keyed ← slots.mapM fun a => do return (a, ← textOf (← cellAt a))
        pure ((keyed.mergeSort fun x y => textOrder x.2 y.2 != .gt).map Prod.fst)
      | none, [.expr _ (.binary "<=>" (.scalar "a") (.scalar "b"))] => do
        let keyed ← slots.mapM fun a => do return (a, ← numberOf (← cellAt a))
        pure ((keyed.mergeSort fun x y => numberOrder? x.2 y.2 != some .gt).map Prod.fst)
      | order, block => do
        let compared (a b : Nat) : Work Value := withNames [(package ++ "::a", a), (package ++ "::b", b)] do
          match order with
          | none => do return ((← ev.block .one block).getLast?).getD .undefined
          | some (.function name) => do return ((← callNamed ev name [] false .one).getLast?).getD .undefined
          | some f => do return ((← callValue ev (← ev.one f) [] .one).getLast?).getD .undefined
        sortWith (fun a b => do return (← intOf (← compared a b)) < 0) n slots
    sorted.mapM cellAt
  | .binary "x" (.list members) n => do
    let parts ← members.mapM ev.many
    return (List.replicate (← sizeOf (← ev.one n)) parts.flatten).flatten
  | .both a b => do
    let v ← ev.one a
    if isTrue v then ev.many b else return [v]
  | .either a b => do
    let v ← ev.one a
    if isTrue v then return [v] else ev.many b
  | .ifDefined a b => do
    let v ← ev.one a
    if isDefined v then return [v] else ev.many b
  | .conditional test yes no => do if isTrue (← ev.one test) then ev.many yes else ev.many no
  | .assign op target value => assignMany ev op target value
  | .range _ _ first last => do rangeValues (← ev.one first) (← ev.one last)
  | .search target negated m => searchMany ev target negated m
  | .referTo (.list members) => members.flatMapM fun m => do
    match m with
    | .array _ => do return (← ev.slots m).map Value.ref
    | m => return [← referenceTo ev m]
  | .readFrom source => readMany ev source
  | .files parts => do filesLike (← fillParts ev parts)
  | .command parts => do
    let o ← runCommand (← fillParts ev parts) true
    let rec rows : Nat → Octets → List Value
      | 0, _ => []
      | _, [] => []
      | fuel + 1, o =>
        let (row, rest) := firstLine (.at ['\n']) o
        .text row :: rows fuel rest
    return rows (o.length + 1) o
  | .run guards body => if guards then guarded .many (ev.block .many body) else ev.block .many body
  | e => return [← ev.one e]

end ScriptBridge.Shell.SigilScript
