/-
What lists, maps, sets, open files, expressions and their matches can be asked for.
-/
import ScriptBridge.Shell.BlockScript.TextMethod
import ScriptBridge.Shell.Names

namespace ScriptBridge.Shell.BlockScript

/-! ## The names of what can be asked for -/

/-- the methods of lists -/
def listMethodNames : List String :=
  ["append", "clear", "copy", "count", "extend", "index", "insert", "pop", "remove", "reverse", "sort", "appendleft",
    "popleft", "extendleft", "rotate"]

/-- the methods of maps -/
def dictMethodNames : List String :=
  ["clear", "copy", "fromkeys", "get", "items", "keys", "pop", "popitem", "setdefault", "update", "values", "most_common",
    "elements", "subtract", "total", "move_to_end"]

/-- the methods of sets -/
def setMethodNames : List String :=
  ["add", "clear", "copy", "difference", "difference_update", "discard", "intersection", "intersection_update",
    "isdisjoint", "issubset", "issuperset", "pop", "remove", "symmetric_difference", "union", "update"]

/-- the methods of open files -/
def fileMethodNames : List String :=
  ["close", "fileno", "flush", "getvalue", "isatty", "read", "readable", "readline", "readlines", "reconfigure", "seek",
    "tell", "truncate", "writable", "write", "writelines", "detach", "__enter__", "__exit__"]

/-- the methods of expressions -/
def patternMethodNames : List String :=
  ["findall", "finditer", "fullmatch", "match", "search", "split", "sub", "subn"]

/-- the methods of matches -/
def foundMethodNames : List String := ["end", "expand", "group", "groupdict", "groups", "span", "start"]

/-! ## Failures of files -/

/-- the number, the kind and the wording of a failure -/
def fileFailure (e : FileError) : Nat × String × String :=
  match e with
  | .notFound => (2, "FileNotFoundError", "No such file or directory")
  | .denied => (13, "PermissionError", "Permission denied")
  | .alreadyExists => (17, "FileExistsError", "File exists")
  | .notFolder => (20, "NotADirectoryError", "Not a directory")
  | .isFolder => (21, "IsADirectoryError", "Is a directory")
  | .badDescriptor => (9, "OSError", "Bad file descriptor")
  | .noSpace => (28, "OSError", "No space left on device")
  | .nameTooLong => (36, "OSError", "File name too long")
  | .tooManyLinks => (40, "OSError", "Too many levels of symbolic links")
  | .badFormat => (8, "OSError", "Exec format error")
  | _ => (22, "OSError", "Invalid argument")

/-- raises the failure of a file -/
def raiseFile {α : Type} (e : FileError) (name : Value) : Work α := do
  let (number, kind, wording) := fileFailure e
  let failure ← allocate (.instanceOf (.builtin kind) [("args", .tuple [.int number, textValue wording, name]),
    ("errno", .int number), ("strerror", textValue wording), ("filename", name)])
  throw (.raised failure [])

/-- what a file operation comes to, or its failure -/
def orRaise {α : Type} (r : Except FileError α) (name : Value) : Work α :=
  match r with
  | .ok a => return a
  | .error e => raiseFile e name

/-! ## Writing -/

/-- writes to an open file -/
def writeFile (address : Nat) (v : Value) : Work Value := do
  match ← thingAt address with
  | .file f => do
    if f.closed then valueError "I/O operation on closed file."
    let binary : Bool := f.mode.contains 'b'
    let (o, size) ← match v with
      | .text o => if binary then typeError "a bytes-like object is required, not 'str'" else pure (encode o, o.length)
      | .bytes o =>
        if binary then pure (o, o.length) else typeError "write() argument must be str, not bytes"
      | v => do
        let kind ← typeName v
        if binary then typeError s!"a bytes-like object is required, not '{kind}'"
        else typeError s!"write() argument must be str, not {kind}"
    if f.mode == "r" || f.mode == "rb" then raiseWith "UnsupportedOperation" [textValue "not writable"]
    match f.stream with
    | some 2 => writeErr o
    | some _ => writeOut o
    | none =>
      if f.mode.startsWith "memory" then
        update address (.file { f with written := (if binary then o else decode o) :: f.written })
      else do
        let w ← get
        let path := pathOf (encode f.path)
        let before := (w.files.read path).toOption.getD []
        let files ← orRaise (w.files.write path (before ++ toBytes o)) (.text f.path)
        modify fun w => { w with files }
    return .int size
  | _ => return .none

/-- opens a file -/
def openFile (name : Value) (mode : String) : Work Value := do
  let o ← match name with
    | .text o => pure o
    | .bytes o => pure (decode o)
    | v => match attribute? "path" (← objectAttributes v) with
      | some (.text o) => pure o
      | _ => match v with
        | .int 0 => pure "/dev/stdin".toList
        | .int 1 => pure "/dev/stdout".toList
        | .int 2 => pure "/dev/stderr".toList
        | v => do
          let kind ← typeName v
          typeError s!"expected str, bytes or os.PathLike object, not {kind}"
  let letters := mode.toList
  if letters.any fun c => !"rwxabt+".toList.contains c then valueError s!"invalid mode: '{mode}'"
  if (letters.filter fun c => "rwxa".toList.contains c).length != 1 then
    valueError "must have exactly one of create/read/write/append mode"
  if o.isEmpty then raiseFile .notFound name
  let binary : Bool := letters.contains 'b'
  let w ← get
  let path := pathOf (encode o)
  let make (rest : Characters) (stream : Option Nat) : Work Value :=
    allocate (.file ⟨o, mode, rest, [], stream, false⟩)
  match String.ofList o with
  | "/dev/stdin" | "/dev/fd/0" | "/proc/self/fd/0" => make [] (some 0)
  | "/dev/stdout" | "/dev/fd/1" => make [] (some 1)
  | "/dev/stderr" | "/dev/fd/2" => make [] (some 2)
  | _ =>
    if w.files.isFolder path then raiseFile .isFolder name
    else if letters.contains 'r' then do
      let bytes := ofBytes (← orRaise (w.files.read path) name)
      if binary then make bytes none
      else match ← bytesMethod (fun _ _ _ => return .none) bytes "decode" [] [] with
        | .text o => make (newLines o) none
        | _ => make [] none
    else do
      if letters.contains 'x' && w.files.has path then raiseFile .alreadyExists name
      let before := if letters.contains 'a' then (w.files.read path).toOption.getD [] else []
      let files ← orRaise (w.files.write path before) name
      modify fun w => { w with files }
      make [] none

/-! ## Expressions -/

/-- what is wrong with an expression, in words -/
def flawText (flaw : Branching.Flaw) : String :=
  match flaw with
  | .unclosedSet => "unterminated character set"
  | .unclosedGroup => "missing ), unterminated subpattern"
  | .unopenedGroup => "unbalanced parenthesis"
  | .nothingToRepeat => "nothing to repeat"
  | .repeatedTwice => "multiple repeat"
  | .escapeAtEnd => "bad escape (end of pattern)"
  | .badEscape text => "bad escape " ++ String.ofList text
  | .badRange text => "bad character range " ++ String.ofList text
  | .badReference n => s!"invalid group reference {n}"
  | .unknownName name => "unknown group name " ++ String.ofList (textRepr false name)
  | .unknownGroup text => "unknown extension " ++ String.ofList text
  | .boundsInverted => "min repeat greater than max repeat"
  | .unfixedBehind => "look-behind requires fixed-width pattern"

/-- the flags that a number means -/
def flagsOf (n : Int) : Branching.Flags :=
  let has (bit : Nat) : Bool := n.toNat.testBit bit
  ⟨has 1, has 3, has 4, has 6, has 8⟩

/-- reads an expression -/
def compilePattern (v : Value) (flags : Int) : Work Value := do
  let make (source : Characters) (bytes : Bool) : Work Value := do
    let f := flagsOf flags
    match Branching.Expression.read .strict (if bytes then { f with narrow := true } else f) source with
    | .ok e => allocate (.pattern source bytes e)
    | .error p =>
      let message := flawText p.flaw
      let before := source.take p.place
      let line := before.filter (· == '\n') |>.length
      let column := (before.reverse.takeWhile (· != '\n')).length + 1
      let place := s!" at position {p.place}"
        ++ if source.contains '\n' then s!" (line {line + 1}, column {column})" else ""
      raise "re.error" (message ++ if p.flaw == .unfixedBehind then "" else place)
  match v with
  | .text o => make o false
  | .bytes o => make o true
  | v => match ← thing? v with
    | some (.pattern ..) => return v
    | _ => typeError "first argument must be string or compiled pattern"

/-- the text of a replacement for a match: groups by their numbers and names -/
def expandTemplate (e : Branching.Expression) (subject : Characters) (spot : Branching.Spot) :
    Nat → Characters → Work Characters
  | 0, _ => return []
  | _, [] => return []
  | fuel + 1, '\\' :: 'g' :: '<' :: o => do
    let name := o.takeWhile (· != '>')
    let rest := o.drop (name.length + 1)
    let index ← if !name.isEmpty && name.all Char.isDigit then pure (digitsIn 10 name).1
      else match e.names.lookup name with
        | some n => pure n
        | none => raiseWith "IndexError" [textValue ("unknown group name " ++ String.ofList (textRepr false name))]
    if e.groups < index then raise "re.error" s!"invalid group reference {index} at position 3"
    return group index ++ (← expandTemplate e subject spot fuel rest)
  | fuel + 1, '\\' :: c :: o => do
    if c.isDigit && c != '0' then
      let digits := c :: (o.takeWhile Char.isDigit).take 1
      let index := (digitsIn 10 digits).1
      if e.groups < index then raise "re.error" s!"invalid group reference {index} at position 1"
      return group index ++ (← expandTemplate e subject spot fuel (o.drop (digits.length - 1)))
    else if c == '0' then
      let digits := (o.takeWhile fun c => '0' ≤ c && c ≤ '7').take 2
      return Char.ofNat (digitsIn 8 digits).1 :: (← expandTemplate e subject spot fuel (o.drop digits.length))
    else do
      let plain : Characters ← match c with
        | 'n' => pure ['\n']
        | 't' => pure ['\t']
        | 'r' => pure ['\r']
        | 'a' => pure ['\x07']
        | 'b' => pure ['\x08']
        | 'f' => pure ['\x0c']
        | 'v' => pure ['\x0b']
        | '\\' => pure ['\\']
        | c => unknown c
      return plain ++ (← expandTemplate e subject spot fuel o)
  | fuel + 1, c :: o => do return c :: (← expandTemplate e subject spot fuel o)
where
  /-- an escape without a meaning: only a letter must not be one -/
  unknown (c : Char) : Work Characters :=
    if c.isAlpha then raise "re.error" ("bad escape \\" ++ String.singleton c ++ " at position 0")
    else return ['\\', c]
  /-- the text of a group; nothing where it took no part -/
  group (index : Nat) : Characters :=
    match if index = 0 then some (spot.start, spot.place) else spot.group? index with
    | some (a, b) => (subject.drop a).take (b - a)
    | none => []

section

variable (call : Caller)

/-! ## Lists -/

/-- values in order, by what a function makes of them -/
def sortedItems (key : Value) (descending : Bool) (items : List Value) : Work (List Value) := do
  let items := if descending then items.reverse else items
  let pairs ← items.mapM fun v => do
    match key with
    | .none => return (v, v)
    | f => do return (← call f [v] [], v)
  let ordered := (← sortedBy call (items.length + 1) pairs).map Prod.snd
  return if descending then ordered.reverse else ordered

/-- the arguments of a sort: the function and whether it descends -/
def sortOptions (named : List (String × Value)) : Work (Value × Bool) := do
  let descending ← match named.lookup "reverse" with
    | some v => isTrue call v
    | none => pure false
  return ((named.lookup "key").getD .none, descending)

/-- what a method of a list comes to -/
def listMethod (a : Nat) (items : List Value) (name : String) (args : List Value) (named : List (String × Value)) :
    Work Value := do
  let put (items : List Value) : Work Value := do
    update a (.list items)
    return .none
  let first := args.headD .none
  match name with
  | "append" => do
    if args.length != 1 then
      let n := args.length
      typeError s!"list.append() takes exactly one argument ({n} given)"
    put (items ++ [first])
  | "appendleft" => put (first :: items)
  | "extend" => do
    let more ← itemsOf call first
    match ← thingAt a with
    | .list now => put (now ++ more)
    | _ => return .none
  | "extendleft" => do put ((← itemsOf call first).reverse ++ items)
  | "insert" => do
    let n := (int? first).getD 0
    let size : Int := items.length
    let place := (if n < 0 then max 0 (n + size) else min n size).toNat
    put (items.take place ++ [(args[1]?).getD .none] ++ items.drop place)
  | "pop" => do
    if items.isEmpty then raise "IndexError" "pop from empty list"
    let n ← indexPlace "list" "pop index out of range" items.length (args.headD (.int (-1)))
    let _ ← put (items.eraseIdx n)
    return (items[n]?).getD .none
  | "popleft" => do
    match items with
    | [] => raise "IndexError" "pop from an empty deque"
    | v :: rest => do
      let _ ← put rest
      return v
  | "rotate" => do
    let n := ((int? (args.headD (.int 1))).getD 1)
    let k := if items.isEmpty then 0 else (Int.fmod n items.length).toNat
    put (items.drop (items.length - k) ++ items.take (items.length - k))
  | "remove" => do
    for (v, i) in items.zipIdx do
      if ← areEqual call valueDepth v first then return ← put (items.eraseIdx i)
    valueError "list.remove(x): x not in list"
  | "clear" => put []
  | "copy" => makeList items
  | "count" => do
    let same ← items.filterM fun v => areEqual call valueDepth v first
    return .int same.length
  | "index" => do
    let (start, stop, _) ← sliceBounds items.length ((args[1]?).getD .none) ((args[2]?).getD .none) .none
    for (v, i) in items.zipIdx do
      if start ≤ i && i < stop then
        if ← areEqual call valueDepth v first then return .int i
    let shown := String.ofList (← displayed call valueDepth first)
    valueError s!"{shown} is not in list"
  | "reverse" => put items.reverse
  | "sort" => do
    let (key, descending) ← sortOptions call named
    put (← sortedItems call key descending items)
  | name => raise "AttributeError" s!"'list' object has no attribute '{name}'"

/-- what a method of a tuple comes to -/
def tupleMethod (items : List Value) (name : String) (args : List Value) : Work Value := do
  let first := args.headD .none
  match name with
  | "count" => do
    let same ← items.filterM fun v => areEqual call valueDepth v first
    return .int same.length
  | _ => do
    for (v, i) in items.zipIdx do
      if ← areEqual call valueDepth v first then return .int i
    valueError "tuple.index(x): x not in tuple"

/-! ## Maps -/

/-- the entries that a value gives to a map -/
def entriesOf (v : Value) : Work (List (Value × Value)) := do
  match ← thing? v with
  | some (.dict _ _ entries) => return entries
  | _ => do
    let items ← itemsOf call v
    items.zipIdx.mapM fun (item, i) => do
      match ← tryCatch (itemsOf call item) fun
        | .raised _ _ => typeError s!"cannot convert dictionary update sequence element #{i} to a sequence"
        | other => throw other with
      | [k, v] => return (← asKey k, v)
      | other =>
        let n := other.length
        valueError s!"dictionary update sequence element #{i} has length {n}; 2 is required"

/-- counts values in a map -/
def countItems (sign : Int) (entries : List (Value × Value)) (v : Value) : Work (List (Value × Value)) := do
  let add (entries : List (Value × Value)) (key : Value) (n : Int) : List (Value × Value) :=
    putEntry key (.int (((entryFor? key entries).bind int?).getD 0 + sign * n)) entries
  match ← thing? v with
  | some (.dict _ _ more) => return more.foldl (fun acc (k, n) => add acc k ((int? n).getD 0)) entries
  | _ => do
    let items ← (← itemsOf call v).mapM asKey
    return items.foldl (fun acc k => add acc k 1) entries

/-- a view of the keys, the values or the entries of a map -/
def viewOf (kind : String) (items : List Value) : Work Value := allocate (.wrapped kind (.tuple items) .none)

/-- what a method of a map comes to -/
def dictMethod (a : Nat) (kind : String) (default : Value) (entries : List (Value × Value)) (name : String)
    (args : List Value) (named : List (String × Value)) : Work Value := do
  let put (entries : List (Value × Value)) : Work Unit := update a (.dict kind default entries)
  let first := args.headD .none
  let pair (e : Value × Value) : Value := .tuple [e.1, e.2]
  match name with
  | "get" => do return (entryFor? (← asKey first) entries).getD ((argument? args named 1 "default").getD .none)
  | "keys" => viewOf "dict_keys" (entries.map Prod.fst)
  | "values" => viewOf "dict_values" (entries.map Prod.snd)
  | "items" => viewOf "dict_items" (entries.map pair)
  | "clear" => do
    put []
    return .none
  | "copy" => allocate (.dict kind default entries)
  | "pop" => do
    let key ← asKey first
    match entryFor? key entries with
    | some v => do
      put (dropEntry key entries)
      return v
    | none => match args.drop 1 with
      | v :: _ => return v
      | [] => raiseWith "KeyError" [key]
  | "popitem" => do
    match entries.getLast? with
    | some e => do
      put entries.dropLast
      return pair e
    | none => raiseWith "KeyError" [textValue "popitem(): dictionary is empty"]
  | "setdefault" => do
    let key ← asKey first
    match entryFor? key entries with
    | some v => return v
    | none => do
      let v := (args[1]?).getD .none
      put (putEntry key v entries)
      return v
  | "update" => do
    if kind == "Counter" then
      match args with
      | [] => pure ()
      | v :: _ => put (← countItems call 1 entries v)
    else do
      let more ← match args with
        | [] => pure []
        | v :: _ => entriesOf call v
      let more := more ++ named.map fun (n, v) => (textValue n, v)
      put (more.foldl (fun acc (k, v) => putEntry k v acc) entries)
    return .none
  | "fromkeys" => do
    let keys ← itemsOf call first
    let v := (args[1]?).getD .none
    makeDict (keys.foldl (fun acc k => putEntry k v acc) [])
  | "most_common" => do
    let ordered := entries.mergeSort fun x y => (int? y.2).getD 0 ≤ (int? x.2).getD 0
    let kept := match args.head?.bind int? with
      | some n => ordered.take n.toNat
      | none => ordered
    makeList (kept.map pair)
  | "elements" => allocate (.iterator (entries.flatMap fun (k, n) => List.replicate ((int? n).getD 0).toNat k))
  | "total" => return .int (entries.foldl (fun n e => n + (int? e.2).getD 0) 0)
  | "subtract" => do
    put (← countItems call (-1) entries first)
    return .none
  | "move_to_end" => do
    let key ← asKey first
    match entryFor? key entries with
    | some v => do
      let others := dropEntry key entries
      let last ← match argument? args named 1 "last" with
        | some v => isTrue call v
        | none => pure true
      put (if last then others ++ [(key, v)] else (key, v) :: others)
      return .none
    | none => raiseWith "KeyError" [key]
  | name => raise "AttributeError" s!"'{kind}' object has no attribute '{name}'"

/-! ## Sets -/

/-- what a method of a set comes to -/
def setMethod (a : Nat) (frozen : Bool) (items : List Value) (name : String) (args : List Value) : Work Value := do
  let put (items : List Value) : Work Value := do
    update a (.set frozen items)
    return .none
  let first := args.headD .none
  let others : Work (List (List Value)) := args.mapM fun v => do (← itemsOf call v).mapM asKey
  let has (items : List Value) (v : Value) : Bool := items.any (sameKey v)
  let union (x y : List Value) : List Value := y.foldl (fun acc v => putItem v acc) x
  let common (x y : List Value) : List Value := x.filter (has y)
  let without (x y : List Value) : List Value := x.filter fun v => !has y v
  match name with
  | "add" => do put (putItem (← asKey first) items)
  | "remove" => do
    let v ← asKey first
    if has items v then put (without items [v]) else raiseWith "KeyError" [v]
  | "discard" => do put (without items [← asKey first])
  | "pop" => do
    match setOrder items with
    | [] => raiseWith "KeyError" [textValue "pop from an empty set"]
    | v :: rest => do
      let _ ← put rest
      return v
  | "clear" => put []
  | "copy" => setLike frozen items
  | "union" => do setLike frozen ((← others).foldl union items)
  | "update" => do put ((← others).foldl union items)
  | "intersection" => do setLike frozen ((← others).foldl common items)
  | "intersection_update" => do put ((← others).foldl common items)
  | "difference" => do setLike frozen ((← others).foldl without items)
  | "difference_update" => do put ((← others).foldl without items)
  | "symmetric_difference" => do
    let other := ((← others).headD [])
    setLike frozen (without items other ++ without other items)
  | "issubset" => do return .bool ((without items ((← others).headD [])).isEmpty)
  | "issuperset" => do return .bool ((without ((← others).headD []) items).isEmpty)
  | "isdisjoint" => do return .bool ((common items ((← others).headD [])).isEmpty)
  | name =>
    let kind := if frozen then "frozenset" else "set"
    raise "AttributeError" s!"'{kind}' object has no attribute '{name}'"

/-! ## Open files -/

/-- the lines of an open file -/
def fileLines (address : Nat) : Nat → Work (List Characters)
  | 0 => return []
  | fuel + 1 => do
    let line ← takeFileLine address none
    if line.isEmpty then return [] else return line :: (← fileLines address fuel)

/-- what a method of an open file comes to -/
def fileMethod (a : Nat) (f : Opened) (name : String) (args : List Value) : Work Value := do
  let first := args.headD .none
  let bound : Option Nat := match int? first with
    | some n => if n < 0 then none else some n.toNat
    | none => none
  let readable : Work Unit := do
    if f.closed then valueError "I/O operation on closed file."
    if f.mode.toList.any (fun c => "wax".toList.contains c) && !f.mode.contains '+' then
      raiseWith "UnsupportedOperation" [textValue "not readable"]
  match name with
  | "read" => do
    readable
    return readValue f (← takeFileRest a bound)
  | "readline" => do
    readable
    return readValue f (← takeFileLine a bound)
  | "readlines" => do
    readable
    let n := (← get).input.length + f.rest.length
    makeList ((← fileLines a (n + 1)).map (readValue f))
  | "write" => writeFile a first
  | "writelines" => do
    for v in ← itemsOf call first do
      let _ ← writeFile a v
    return .none
  | "flush" => do
    if f.stream == some 1 then flush
    return .none
  | "close" | "__exit__" => do
    match ← thingAt a with
    | .file f => update a (.file { f with closed := true })
    | _ => pure ()
    return .none
  | "__enter__" => return .ref a
  | "fileno" => return .int (f.stream.getD 3)
  | "isatty" => return .bool false
  | "readable" => return .bool (f.mode.startsWith "r" || f.mode.startsWith "memory")
  | "writable" => return .bool (!f.mode.startsWith "r")
  | "getvalue" => return readValue f f.written.reverse.flatten
  | "seek" => do
    if f.mode.startsWith "memory" then update a (.file { f with rest := f.written.reverse.flatten })
    else if f.stream.isNone then do
      let w ← get
      let bytes := ofBytes ((w.files.read (pathOf (encode f.path))).toOption.getD [])
      let o := if f.mode.contains 'b' then bytes else newLines (decode bytes)
      update a (.file { f with rest := o.drop ((int? first).getD 0).toNat })
    return first
  | _ => return .none

/-! ## Expressions and matches -/

/-- the text that is searched -/
def subjectOf (bytes : Bool) (v : Value) : Work Characters := do
  match v with
  | .text o => if bytes then typeError "cannot use a bytes pattern on a string-like object" else return o
  | .bytes o => if bytes then return o else typeError "cannot use a string pattern on a bytes-like object"
  | v => do
    let kind ← typeName v
    typeError s!"expected string or bytes-like object, got '{kind}'"

/-- what a method of an expression comes to -/
def patternMethod (p : Nat) (bytes : Bool) (e : Branching.Expression) (name : String) (args : List Value)
    (named : List (String × Value)) : Work Value := do
  let value (o : Characters) : Value := if bytes then .bytes o else .text o
  let isSub : Bool := name == "sub" || name == "subn"
  let subject ← subjectOf bytes ((argument? args named (if isSub then 1 else 0) "string").getD .none)
  let s : Branching.Subject := ⟨subject.toArray, 0⟩
  let start := match args.drop 1 with
    | .int n :: _ => if isSub || name == "split" then 0 else n.toNat
    | _ => 0
  let all : List Branching.Spot := e.node.searchAll s (subject.length + 2) start none
  let found (spot : Option Branching.Spot) : Work Value := do
    match spot with
    | some spot => allocate (.found p subject spot)
    | none => return .none
  let between (a b : Nat) : Characters := (subject.drop a).take (b - a)
  match name with
  | "match" => found (e.node.matchAt s (fun _ => true) start)
  | "fullmatch" => found (e.node.matchAt s (fun spot => spot.place = subject.length) start)
  | "search" => found (e.node.search s (fun _ => true) start)
  | "finditer" => do allocate (.iterator (← all.mapM fun spot => allocate (.found p subject spot)))
  | "findall" => do
    let each ← all.mapM fun spot => do
      let group (i : Nat) : Value := match if i = 0 then some (spot.start, spot.place) else spot.group? i with
        | some (a, b) => value (between a b)
        | none => value []
      if e.groups = 0 then return group 0
      else if e.groups = 1 then return group 1
      else return .tuple ((List.range e.groups).map fun i => group (i + 1))
    makeList each
  | "split" => do
    let most := ((argument? args named 1 "maxsplit").bind int?).getD 0
    let all := if most ≤ 0 then all else all.take most.toNat
    let parts := all.foldl (fun (acc : List Value × Nat) spot =>
      let groups := (List.range e.groups).map fun i => match spot.group? (i + 1) with
        | some (a, b) => value (between a b)
        | none => Value.none
      (acc.1 ++ value (between acc.2 spot.start) :: groups, spot.place)) ([], 0)
    makeList (parts.1 ++ [value (subject.drop parts.2)])
  | _ => do
    let most := ((argument? args named 2 "count").bind int?).getD 0
    let all := if most ≤ 0 then all else all.take most.toNat
    let replacement := args.headD .none
    let mut out : List Characters := []
    let mut place := 0
    for spot in all do
      let new ← match replacement with
        | .text o => expandTemplate e subject spot (o.length + 1) o
        | .bytes o => expandTemplate e subject spot (o.length + 1) o
        | f => do
          match ← call f [← allocate (.found p subject spot)] [] with
          | .text o => pure o
          | .bytes o => pure o
          | .none => pure []
          | v => do
            let kind ← typeName v
            typeError s!"expected str instance, {kind} found"
      out := new :: between place spot.start :: out
      place := spot.place
    let text := value (out.reverse.flatten ++ subject.drop place)
    return if name == "subn" then .tuple [text, .int all.length] else text

/-- what a method of a match comes to -/
def foundMethod (p : Nat) (subject : Characters) (spot : Branching.Spot) (name : String) (args : List Value)
    (named : List (String × Value)) : Work Value := do
  let e ← match ← thingAt p with
    | .pattern _ _ e => pure e
    | _ => pure default
  let span (args : List Value) : Work (Option (Nat × Nat)) := do
    let i ← groupIndex p (args.headD (.int 0))
    return if i = 0 then some (spot.start, spot.place) else spot.group? i
  let orElse (v : Value) : Value := match v with
    | .none => (argument? args named 0 "default").getD .none
    | v => v
  match name with
  | "group" =>
    match args with
    | [] => groupValue p subject spot 0
    | [i] => do groupValue p subject spot (← groupIndex p i)
    | several => do return .tuple (← several.mapM fun i => do groupValue p subject spot (← groupIndex p i))
  | "groups" => do
    let each ← (List.range e.groups).mapM fun i => groupValue p subject spot (i + 1)
    return .tuple (each.map orElse)
  | "groupdict" => do
    let each ← e.names.mapM fun (n, i) => do return (Value.text n, orElse (← groupValue p subject spot i))
    makeDict each
  | "start" => do
    match ← span args with
    | some (a, _) => return .int a
    | none => return .int (-1)
  | "end" => do
    match ← span args with
    | some (_, b) => return .int b
    | none => return .int (-1)
  | "span" => do
    match ← span args with
    | some (a, b) => return .tuple [.int a, .int b]
    | none => return .tuple [.int (-1), .int (-1)]
  | _ =>
    match args.headD .none with
    | .text o => do return .text (← expandTemplate e subject spot (o.length + 1) o)
    | .bytes o => do return .bytes (← expandTemplate e subject spot (o.length + 1) o)
    | _ => typeError "expected str instance"

end

end ScriptBridge.Shell.BlockScript
