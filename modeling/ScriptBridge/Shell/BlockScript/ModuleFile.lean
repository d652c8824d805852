/-
What modules do with files, their paths, and the program that runs.
-/
import ScriptBridge.Shell.BlockScript.Builtin

namespace ScriptBridge.Shell.BlockScript

/-! ## Paths -/

/-- a path without parts that lead nowhere -/
def normalPath (o : Characters) : Characters :=
  if o.isEmpty then ['.']
  else
    let rooted : Bool := o.head? == some '/'
    let parts := (cutBy ['/'] (o.length + 1) none o []).filter fun p => !p.isEmpty && p != ['.']
    let kept := parts.foldl (fun (acc : List Characters) p =>
      if p == ['.', '.'] then
        match acc with
        | [] => if rooted then [] else [p]
        | last :: rest => if last == ['.', '.'] then p :: acc else rest
      else p :: acc) []
    let body := (List.intersperse ['/'] kept.reverse).flatten
    if rooted then '/' :: body else if body.isEmpty then ['.'] else body

/-- a path from the folder where the program runs -/
def absolutePath (o : Characters) : Work Characters := do return normalPath (joinPaths (← get).path o)

/-- a path as seen from a folder -/
def relativePath (o start : Characters) : Characters :=
  let cut (o : Characters) : List Characters := (cutBy ['/'] (o.length + 1) none o []).filter fun p => !p.isEmpty
  let a := cut start
  let b := cut o
  let common := ((a.zip b).takeWhile fun (x, y) => x == y).length
  let parts := List.replicate (a.length - common) ['.', '.'] ++ b.drop common
  if parts.isEmpty then ['.'] else (List.intersperse ['/'] parts).flatten

/-- the path that a value is, or an error about its type -/
def needPath (v : Value) : Work Characters := do
  match ← pathText? v with
  | some o => return o
  | none => do
    let kind ← typeName v
    typeError s!"expected str, bytes or os.PathLike object, not {kind}"

/-- the node at a path -/
def nodeAt (o : Characters) : Work (Except FileError Node) := do return (← get).files.node (pathOf (encode o))

/-- changes the files -/
def changeFiles (r : Except FileError Files) (name : Value) : Work Unit := do
  let files ← orRaise r name
  modify fun w => { w with files }

/-- the names in a folder -/
def folderNames (o : Characters) (name : Value) : Work (List Characters) := do
  match ← nodeAt o with
  | .ok (.folder entries) => return (entries.map fun e => e.1.toList).mergeSort fun a b => textOrder a b != .gt
  | .ok _ => raiseFile .notFolder name
  | .error e => raiseFile e name

/-- removes a file -/
def removeFile (v : Value) : Work Unit := do
  let o ← needPath v
  match ← nodeAt o with
  | .ok (.folder _) => raiseFile .isFolder v
  | .ok _ => modify fun w => { w with files := w.files.remove (pathOf (encode o)) }
  | .error e => raiseFile e v

/-- the functions of paths as texts -/
def pathModule? (call : Caller) (name : String) (args : List Value) : Option (Work Value) :=
  let first := args.headD .none
  let onText (f : Characters → Value) : Option (Work Value) := some do
    let o ← needPath first
    match first, f o with
    | .bytes _, .text r => return .bytes (encode r)
    | _, r => return r
  let isNode (p : Node → Bool) : Option (Work Value) := some do
    match ← pathText? first with
    | none => return .bool false
    | some o => match ← nodeAt o with
      | .ok n => return .bool (p n)
      | .error _ => return .bool false
  match name with
  | "os.path.join" => some do
    let parts ← args.mapM needPath
    return .text (match parts with
      | [] => []
      | p :: rest => rest.foldl joinPaths p)
  | "os.path.basename" => onText fun o => .text (nameOfPath o)
  | "os.path.dirname" => onText fun o => .text (folderOfPath o)
  | "os.path.split" => onText fun o => .tuple [.text (folderOfPath o), .text (nameOfPath o)]
  | "os.path.splitext" => onText fun o =>
    let (_, ending) := endingOf (nameOfPath o)
    .tuple [.text (o.take (o.length - ending.length)), .text ending]
  | "os.path.normpath" => onText fun o => .text (normalPath o)
  | "os.path.isabs" => onText fun o => .bool (o.head? == some '/')
  | "os.path.expanduser" => onText fun o => .text o
  | "os.path.abspath" | "os.path.realpath" => some do return .text (← absolutePath (← needPath first))
  | "os.path.relpath" => some do
    let start ← match args.drop 1 with
      | v :: _ => needPath v
      | [] => pure ['.']
    return .text (relativePath (← absolutePath (← needPath first)) (← absolutePath start))
  | "os.path.exists" | "os.path.lexists" => isNode fun _ => true
  | "os.path.isfile" => isNode fun n => match n with
    | .file .. => true
    | _ => false
  | "os.path.isdir" => isNode fun n => match n with
    | .folder _ => true
    | _ => false
  | "os.path.islink" => isNode fun _ => false
  | "os.path.getsize" => some do
    match ← nodeAt (← needPath first) with
    | .ok n => return .int ((n.content?).getD []).length
    | .error e => raiseFile e first
  | "os.path.commonprefix" => some do
    let items ← (← itemsOf call first).mapM needPath
    return .text (match items with
      | [] => []
      | p :: rest => rest.foldl (fun acc q => ((acc.zip q).takeWhile fun (a, b) => a == b).map Prod.fst) p)
  | _ => none

/-- the folders below a folder, each with its folders and its files -/
def walkFolders : Nat → Characters → Work (List Value)
  | 0, _ => return []
  | fuel + 1, o => do
    match ← nodeAt o with
    | .ok (.folder entries) => do
      let names := entries.mergeSort fun a b => a.1 ≤ b.1
      let inner := (names.filter fun e => e.2.isFolder).map fun e => e.1.toList
      let plain := (names.filter fun e => !e.2.isFolder).map fun e => e.1.toList
      let row := Value.tuple [.text o, ← makeList (inner.map .text), ← makeList (plain.map .text)]
      let below ← inner.mapM fun n => walkFolders fuel (joinPaths o n)
      return row :: below.flatten
    | _ => return []

/-- reads from a number of a stream -/
def readStream (n : Nat) : Work Value := do
  let w ← get
  set { w with input := w.input.drop n }
  return .bytes (w.input.take n)

/-- gets a signal; those that say that an output is closed or too large do nothing here -/
def receive (signal : Nat) : Work Unit :=
  if isDeadly signal && signal != 13 && signal != 25 then throw (.halted (signalled signal)) else pure ()

/-- the functions of modules about files and the program -/
def fileModule? (call : Caller) (name : String) (args : List Value) (named : List (String × Value)) :
    Option (Work Value) :=
  let first := args.headD .none
  let second := (args[1]?).getD .none
  let path (v : Value) : Work Path := do return pathOf (encode (← needPath v))
  let nothing (w : Work Unit) : Option (Work Value) := some do
    w
    return .none
  match name with
  | "os.getcwd" => some do return .text (← get).path
  | "os.getenv" => some do
    let environment := (← moduleAttribute? "os" "environ").getD .none
    match ← thing? environment with
    | some (.dict _ _ entries) => return (entryFor? first entries).getD second
    | _ => return second
  | "os.listdir" => some do
    let target := if args.isEmpty then textValue "." else first
    makeList ((← folderNames (← needPath target) target).map .text)
  | "os.walk" => some do allocate (.iterator (← walkFolders 50 (← needPath first)))
  | "os.remove" | "os.unlink" => nothing (removeFile first)
  | "os.rmdir" => nothing do
    match ← nodeAt (← needPath first) with
    | .ok (.folder []) => do
      let p ← path first
      modify fun w => { w with files := w.files.remove p }
    | .ok (.folder _) => raiseWith "OSError" [.int 39, textValue "Directory not empty", first]
    | .ok _ => raiseFile .notFolder first
    | .error e => raiseFile e first
  | "os.mkdir" => nothing do changeFiles ((← get).files.makeFolder (← path first)) first
  | "os.makedirs" => nothing do
    let isThere := (← get).files.has (← path first)
    let fine ← match argument? args named 2 "exist_ok" with
      | some v => isTrue call v
      | none => pure false
    if isThere && !fine then raiseFile .alreadyExists first
    else if !isThere then changeFiles ((← get).files.makeFolders (← path first)) first
  | "os.rename" | "os.replace" | "shutil.move" => nothing do
    match ← nodeAt (← needPath first) with
    | .ok n => do
      let source ← path first
      let target ← path second
      changeFiles ((← get).files.place target n) second
      if source != target then modify fun w => { w with files := w.files.remove source }
    | .error e => raiseFile e first
  | "shutil.copy" | "shutil.copyfile" => some do
    let o ← orRaise ((← get).files.read (← path first)) first
    changeFiles ((← get).files.write (← path second) o) second
    return second
  | "shutil.copyfileobj" => nothing do
    let o ← call (← getAttribute call first "read") [] []
    let _ ← call (← getAttribute call second "write") [o] []
  | "shutil.which" => some (return .none)
  | "os.getpid" => some (return .int ownNumber)
  | "os.getuid" => some (return .int 0)
  | "os.cpu_count" => some (return .int 1)
  | "os.chdir" => nothing do
    let o ← absolutePath (← needPath first)
    match ← nodeAt o with
    | .ok (.folder _) => do
      let names := (cutBy ['/'] (o.length + 1) none o []).filter fun p => !p.isEmpty
      modify fun w => { w with path := o, files := { w.files with here := names.map String.ofList } }
    | .ok _ => raiseFile .notFolder first
    | .error e => raiseFile e first
  | "os.fspath" | "os.fsdecode" => some do return .text (← needPath first)
  | "os.fsencode" => some do return .bytes (encode (← needPath first))
  | "os.access" => some do return .bool (← nodeAt (← needPath first)).isOk
  | "os.isatty" => some (return .bool false)
  | "os.close" => some (return .none)
  | "os.urandom" => some do return .bytes (List.replicate ((int? first).getD 0).toNat '\x00')
  | "os._exit" => some (throw (.halted (((int? first).getD 0) % 256).toNat))
  | "os.abort" => some (throw (.halted (signalled 6)))
  | "os.kill" | "os.killpg" => nothing do
    if int? first == some ownNumber || int? first == some 0 then receive ((int? second).getD 0).toNat
  | "signal.raise_signal" => nothing (receive ((int? first).getD 0).toNat)
  | "os.read" => some (readStream ((int? second).getD 0).toNat)
  | "os.write" => some do
    match second with
    | .bytes o => do
      if (int? first).getD 1 == 2 then writeErr o
      else modify fun w =>
        -- what was written to the stream itself stands before what is still held back
        let held := (w.out.reverse.flatten).drop w.flushed
        let before := (w.out.reverse.flatten).take w.flushed
        { w with out := [held, o, before], flushed := w.flushed + o.length }
      return .int o.length
    | v => do
      let kind ← typeName v
      typeError s!"a bytes-like object is required, not '{kind}'"
  | "sys.getrecursionlimit" => some (return .int 1000)
  | "sys.setrecursionlimit" => some (return .none)
  | "sys.getdefaultencoding" | "sys.getfilesystemencoding" => some (return textValue "utf-8")
  | "sys.intern" => some (return first)
  | "sys.getsizeof" => some (return .int 48)
  | "sys.exc_info" => some do
    match (← get).handled with
    | some e => return .tuple [← classOf e, e, .none]
    | none => return .tuple [.none, .none, .none]
  | "time.time" | "time.perf_counter" | "time.monotonic" => some (return .real (.ofInt 1700000000))
  | "time.time_ns" => some (return .int 1700000000000000000)
  | "time.sleep" | "signal.signal" | "locale.setlocale" | "warnings.filterwarnings" | "warnings.simplefilter" =>
    some (return .none)
  | "locale.getpreferredencoding" => some (return textValue "UTF-8")
  | "io.StringIO" | "io.BytesIO" => some do
    let mode := if name == "io.BytesIO" then "memory b" else "memory"
    let o : Characters := match first with
      | .text o => o
      | .bytes o => o
      | _ => []
    allocate (.file ⟨[], mode, o, if o.isEmpty then [] else [o], none, false⟩)
  | "io.TextIOWrapper" => some do
    match ← thing? first with
    | some (.file f) => allocate (.file { f with mode := f.mode.replace "b" "" })
    | _ => return first
  | "io.BufferedReader" => some (return first)
  | "fileinput.input" => some do
    let names ← match first with
      | .none => do
        let all := (← moduleAttribute? "sys" "argv").getD .none
        pure ((← itemsOf call all).drop 1)
      | .text o => pure [.text o]
      | v => itemsOf call v
    let names := if names.isEmpty then [textValue "-"] else names
    let each ← names.mapM fun n => do
      let f ← if sameKey n (textValue "-") then streamOf "stdin" else openFile n "r"
      itemsOf call f
    allocate (.iterator each.flatten)
  | "Path" => some do
    let parts ← args.mapM needPath
    pathValue (match parts with
      | [] => ['.']
      | p :: rest => rest.foldl joinPaths p)
  | "Path.cwd" => some do pathValue (← get).path
  | "Path.home" => some (pathValue "/root".toList)
  | _ => none

/-- what a method of a path comes to -/
def pathMethod (call : Caller) (v : Value) (o : Characters) (name : String) (args : List Value)
    (named : List (String × Value)) : Work Value := do
  let first := args.headD .none
  let shownName : Value := .text o
  let read (mode : String) : Work Value := do
    match ← openFile shownName mode with
    | .ref a => do
      match ← thingAt a with
      | .file f => return readValue f f.rest
      | _ => return .none
    | _ => return .none
  let onward (name : String) (args : List Value) : Work Value :=
    match pathModule? call name args with
    | some w => w
    | none => (fileModule? call name args named).getD (return .none)
  let write (mode : String) : Work Value := do
    match ← openFile shownName mode with
    | .ref a => writeFile a first
    | _ => return .none
  match name with
  | "read_text" => read "r"
  | "read_bytes" => read "rb"
  | "write_text" => write "w"
  | "write_bytes" => write "wb"
  | "touch" => do
    let _ ← openFile shownName "a"
    return .none
  | "open" => do
    let mode := match argument? args named 0 "mode" with
      | some (.text m) => String.ofList m
      | _ => "r"
    openFile shownName mode
  | "exists" => onward "os.path.exists" [shownName]
  | "is_file" => onward "os.path.isfile" [shownName]
  | "is_dir" => onward "os.path.isdir" [shownName]
  | "is_absolute" => onward "os.path.isabs" [shownName]
  | "unlink" => onward "os.remove" [shownName]
  | "rmdir" => onward "os.rmdir" [shownName]
  | "mkdir" => do
    let deep ← match named.lookup "parents" with
      | some v => isTrue call v
      | none => pure false
    onward (if deep then "os.makedirs" else "os.mkdir") [shownName]
  | "resolve" | "absolute" => do pathValue (← absolutePath o)
  | "as_posix" => return .text o
  | "joinpath" => do pathValue ((← args.mapM needPath).foldl joinPaths o)
  | "with_name" => do pathValue (joinPaths (folderOfPath o) (← needPath first))
  | "with_suffix" => do
    let (start, _) := endingOf (nameOfPath o)
    pathValue (joinPaths (folderOfPath o) (start ++ (← needPath first)))
  | "iterdir" => do
    let each ← (← folderNames o shownName).mapM fun n => pathValue (if o == ['.'] then n else joinPaths o n)
    allocate (.iterator each)
  | _ => return v

end ScriptBridge.Shell.BlockScript
