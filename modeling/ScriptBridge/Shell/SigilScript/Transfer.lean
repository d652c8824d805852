/-
Files that a program reads and writes. What is written to a file is held until the file is closed or another one is opened;
lines end where the program says, and the streams of the program stand among its files.
-/
import ScriptBridge.Shell.SigilScript.Operator

namespace ScriptBridge.Shell.SigilScript

/-! ## Causes -/

/-- the number of the cause why something cannot be done with a file -/
def causeNumber (e : FileError) : Nat :=
  match e with
  | .notFound => 2
  | .badFormat => 8
  | .badDescriptor => 9
  | .denied => 13
  | .alreadyExists => 17
  | .notFolder => 20
  | .isFolder => 21
  | .noSpace => 28
  | .nameTooLong => 36
  | .tooManyLinks => 40
  | _ => 22

/-- the words for a cause -/
def causeWords (n : Nat) : String :=
  match n with
  | 0 => ""
  | 1 => "Operation not permitted"
  | 2 => "No such file or directory"
  | 4 => "Interrupted system call"
  | 8 => "Exec format error"
  | 9 => "Bad file descriptor"
  | 10 => "No child processes"
  | 11 => "Resource temporarily unavailable"
  | 12 => "Cannot allocate memory"
  | 13 => "Permission denied"
  | 17 => "File exists"
  | 20 => "Not a directory"
  | 21 => "Is a directory"
  | 22 => "Invalid argument"
  | 25 => "Inappropriate ioctl for device"
  | 28 => "No space left on device"
  | 32 => "Broken pipe"
  | 33 => "Numerical argument out of domain"
  | 34 => "Numerical result out of range"
  | 36 => "File name too long"
  | 39 => "Directory not empty"
  | 40 => "Too many levels of symbolic links"
  | n => s!"Unknown error {n}"

/-- notes the cause why something could not be done -/
def noteCause (e : FileError) : Work Unit := modify fun w => { w with cause := causeNumber e }

/-- does something with the files; gives whether it could be done -/
def withFiles (r : Except FileError Files) : Work Bool := do
  match r with
  | .ok files => do
    modify fun w => { w with files }
    return true
  | .error e => do
    noteCause e
    return false

/-! ## Open files -/

/-- an open file that is one of the streams of the program -/
def Opened.ofStream (name : String) (n : Nat) : Opened :=
  ⟨name, [], n == 0, n != 0, [], [], some n, none, 0, false, false⟩

/-- the file at an address, if there is one -/
def fileAt? (address : Nat) : Work (Option Opened) := do
  match ← thingAt address with
  | .file f => return some f
  | _ => return none

/-- the address of the file that a value means, with the name of it; a name that is not known means a file that was never
opened -/
def fileOf? (v : Value) : Work (Option (String × Nat)) := do
  let named (name : String) : Work (Option (String × Nat)) := do
    let w ← get
    return (w.globals.get? ("*" ++ fullName w.package name)).map fun a => (name, a)
  match v with
  | .handle name => named name
  | .text o => named (String.ofList o)
  | .ref a =>
    match ← thingAt a with
    | .file f => return some (f.name, a)
    | .cell (.handle name) => named name
    | .cell (.ref b) => match ← thingAt b with
      | .file f => return some (f.name, b)
      | _ => return none
    | .table _ => do
      match ← entrySlot? a (octets "fh") with
      | some c => match ← cellAt c with
        | .ref b => return some ("$fh", b)
        | _ => return none
      | none => return none
    | _ => return none
  | _ => return none

/-- passes on what was written to a file -/
def passOn (address : Nat) : Work Unit := do
  match ← fileAt? address with
  | none => return ()
  | some f =>
    if f.written.isEmpty || f.stream.isSome || f.cell.isSome then return ()
    else do
      let files := (← get).files
      let path := pathOf f.path
      let before := match files.read path with
        | .ok o => o
        | .error _ => []
      let _ ← withFiles (files.write path (before ++ toBytes f.written.reverse.flatten))
      update address (.file { f with written := [] })

/-- passes on what was written to all files -/
def passOnAll : Work Unit := do
  let globals := ((← get).heap.toList.zipIdx).filterMap fun (t, i) => match t with
    | .file f => if f.written.isEmpty then none else some i
    | _ => none
  globals.forM passOn

/-- the bytes of a text; characters that are no bytes are coded, all of them where the file says so -/
def bytesOf (coded : Bool) (o : Octets) : Octets × Bool :=
  if coded then (o.flatMap fun c => if c.toNat < 128 then [c] else ofBytes (Text.encode [c]), false)
  else if o.any fun c => 255 < c.toNat then
    (o.flatMap fun c => if c.toNat < 128 then [c] else ofBytes (Text.encode [c]), true)
  else (o, false)

/-- writes to a file; gives whether that could be done. `what` is the function that writes. -/
def writeTo (address : Nat) (what : String) (o : Octets) : Work Bool := do
  match ← fileAt? address with
  | none => return false
  | some f =>
    if f.closed || !f.writes then do
      modify fun w => { w with cause := 9 }
      return false
    else do
      let (bytes, wide) := bytesOf f.coded o
      if wide then writeErr (octets s!"Wide character in {what}" ++ (← placeWords))
      match f.stream, f.cell with
      | some 1, _ => do
        writeOut bytes
        return true
      | some 2, _ => do
        writeErr bytes
        return true
      | _, some cell => do
        setCell cell (.text ((← textOf (← cellAt cell)) ++ bytes))
        return true
      | _, _ => do
        update address (.file { f with written := bytes :: f.written })
        return true

/-- closes a file; gives whether it was open -/
def closeFile (address : Nat) : Work Bool := do
  passOn address
  match ← fileAt? address with
  | none => return false
  | some f => do
    update address (.file { f with closed := true, rest := [], rows := 0 })
    if f.closed then modify fun w => { w with cause := 9 }
    return !f.closed

/-! ## Lines -/

/-- how lines end: nowhere, at empty lines, at a text, or after so many characters -/
inductive LineEnd where
  | never
  | blankLines
  | at (mark : Octets)
  | size (n : Nat)

/-- how lines end now -/
def lineEnd : Work LineEnd := do
  match ← nameValue "/" with
  | .undefined => return .never
  | .ref a => return .size (← sizeOf (← cellAt a))
  | v => do
    let o ← textOf v
    return if o.isEmpty then .blankLines else .at o

/-- the first line of a text, with what follows it -/
def firstLine (ends : LineEnd) (o : Octets) : Octets × Octets :=
  match ends with
  | .never => (o, [])
  | .size n => (o.take n, o.drop n)
  | .at ['\n'] =>
    let row := o.takeWhile (· != '\n')
    let after := o.drop row.length
    (row ++ after.take 1, after.drop 1)
  | .at mark =>
    let rec go : Octets → Octets → Octets × Octets
      | done, [] => (done.reverse, [])
      | done, c :: rest => if mark.isPrefixOf (c :: rest) then (done.reverse ++ mark, (c :: rest).drop mark.length)
        else go (c :: done) rest
    go [] o
  | .blankLines =>
    let o := o.dropWhile (· == '\n')
    let rec upTo : Octets → Octets → Octets × Octets
      | done, '\n' :: '\n' :: rest => ((done.reverse ++ ['\n', '\n']), rest.dropWhile (· == '\n'))
      | done, c :: rest => upTo (c :: done) rest
      | done, [] => (done.reverse, [])
    upTo [] o

/-- what is left to read in a file -/
def restOf (f : Opened) : Work Octets := do
  match f.stream with
  | some 0 => return (← get).input
  | _ => return f.rest

/-- leaves so much to read in a file -/
def setRest (address : Nat) (f : Opened) (rest : Octets) : Work Unit := do
  match f.stream with
  | some 0 => do
    modify fun w => { w with input := rest }
    update address (.file f)
  | _ => update address (.file { f with rest })

/-- takes a line of a file, if there is one. Where lines never end, a file without anything to read has one line, which is
empty, if one line is awaited. -/
def takeLine (name : String) (address : Nat) (one : Bool) : Work Value := do
  match ← fileAt? address with
  | none => return .undefined
  | some f => do
    modify fun w => { w with reading := some (name, address) }
    if f.closed || !f.reads then return .undefined
    let rest ← restOf f
    let ends ← lineEnd
    if rest.isEmpty then
      if one && (ends matches .never) && f.rows = 0 then
        setRest address { f with rows := 1 } []
        return .text []
      else return .undefined
    else do
      let (row, after) := firstLine ends rest
      if row.isEmpty then
        setRest address f after
        return .undefined
      else do
        setRest address { f with rows := f.rows + 1 } after
        return .text (if f.coded then charactersOf row else row)

/-- takes all lines of a file -/
def takeLines (name : String) (address : Nat) : Work (List Value) := do
  let size ← match ← fileAt? address with
    | some f => List.length <$> restOf f
    | none => pure 0
  let rec go : Nat → List Value → Work (List Value)
    | 0, done => return done.reverse
    | fuel + 1, done => do
      match ← takeLine name address false with
      | .undefined => return done.reverse
      | v => go fuel (v :: done)
  go (size + 2) []

/-- whether nothing is left to read in a file -/
def isAtEnd (address : Nat) : Work Bool := do
  match ← fileAt? address with
  | some f => return f.closed || !f.reads || (← restOf f).isEmpty
  | none => return true

/-! ## Opening -/

/-- what a file is opened for: reading, writing anew, writing at its end, or both -/
inductive OpenMode where
  | reading
  | writing
  | adding
  | both
deriving DecidableEq

/-- the mode that a text says, with whether characters are coded -/
def modeOf? (o : Octets) : Option (OpenMode × Bool) :=
  let o := (o.dropWhile isGap)
  let mark := o.takeWhile fun c => "+<>|-".toList.contains c
  let layers := String.ofList ((o.drop mark.length).filter fun c => !isGap c)
  let coded : Bool := (layers.toLower.splitOn "utf").length != 1
  match String.ofList mark with
  | "<" => some (.reading, coded)
  | ">" => some (.writing, coded)
  | ">>" => some (.adding, coded)
  | "+<" => some (.both, coded)
  | "+>" => some (.both, coded)
  | _ => none

/-- opens a file at a path -/
def openPath (name : String) (mode : OpenMode) (coded : Bool) (path : Octets) : Work (Option Opened) := do
  passOnAll
  let files := (← get).files
  let f : Opened := ⟨name, path, true, false, [], [], none, none, 0, coded, false⟩
  match mode with
  | .writing => do
    if ← withFiles (files.write (pathOf path) []) then
      modify fun w => { w with cause := 25 }
      return some { f with reads := false, writes := true }
    else return none
  | .adding => do
    let before := match files.read (pathOf path) with
      | .ok o => o
      | .error _ => []
    if ← withFiles (files.write (pathOf path) before) then
      modify fun w => { w with cause := 25 }
      return some { f with reads := false, writes := true }
    else return none
  | mode =>
    match files.read (pathOf path) with
    | .ok o => do
      modify fun w => { w with cause := 25 }
      return some { f with rest := ofBytes o, writes := mode == .both }
    | .error e =>
      -- a folder can be opened, and then nothing can be read in it
      if e matches .isFolder then return some f
      else do
        noteCause e
        return none

/-- puts an open file at the name of a handle -/
def putHandle (name : String) (f : Opened) : Work Unit := do
  let a ← allocate (.file f)
  modify fun w => { w with globals := w.globals.insert ("*" ++ fullName w.package name) a }

end ScriptBridge.Shell.SigilScript
