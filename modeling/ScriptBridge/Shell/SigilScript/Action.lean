/-
Functions that have an effect on places, files or the running of the program.
-/
import ScriptBridge.Shell.SigilScript.Library
import ScriptBridge.Shell.SigilScript.Search
import ScriptBridge.Shell.Word

namespace ScriptBridge.Shell.SigilScript

/-! ## Reading and writing -/

/-- the value that means a file, where an expression stands for one -/
def handleValue (ev : Evaluator) (e : Expr) : Work Value := do
  match e with
  | .handle name => return .handle name
  | .call name [] true => return .handle name
  | .literal (.text o) => return .handle (String.ofList o)
  | e => ev.one e

/-- the file that an expression stands for -/
def fileFor? (ev : Evaluator) (e : Expr) : Work (Option (String × Nat)) := do
  let v ← handleValue ev e
  let found ← fileOf? v
  -- the file of a variable is told by the name of the variable
  return found.map fun (name, a) => match e, v with
    | .scalar n, .ref _ => ("$" ++ n, a)
    | _, _ => (name, a)

/-- the next of the files that are read one after the other, if there is one -/
def openNext (name : String) (rows : Nat) : Work (Option Nat) := do
  let argv ← globalSlot '@' "ARGV"
  let w ← get
  let words ← (← valuesOf argv).mapM textOf
  let put (f : Opened) : Work (Option Nat) := do
    let a ← allocate (.file { f with rows })
    modify fun w => { w with globals := w.globals.insert "*main::ARGV" a }
    return some a
  let rec go : List Octets → Work (Option Nat)
    | [] => do
      setArray argv []
      modify fun w => { w with queue := some [] }
      return none
    | word :: rest => do
      setArray argv (rest.map Value.text)
      modify fun w => { w with queue := some rest }
      setCell (← globalSlot '$' "ARGV") (.text word)
      if word == ['-'] then
        let coded := match w.globals.get? "*main::STDIN" with
          | some a => match w.heap[a]? with
            | some (.file f) => f.coded
            | _ => false
          | none => false
        put { Opened.ofStream name 0 with coded }
      else match ← openPath name .reading false word with
        | some f => do
          if (← get).edits.isSome then
            let out ← openPath "ARGVOUT" .writing false word
            match out with
            | some o => do
              let a ← allocate (.file o)
              modify fun w => { w with selected := a, globals := w.globals.insert "*main::ARGVOUT" a }
            | none => pure ()
          put f
        | none => do
          let cause := causeWords (← get).cause
          writeErr (octets "Can't open " ++ word ++ octets (": " ++ cause) ++ (← placeWords))
          go rest
  match w.queue with
  | none => do
    if !words.isEmpty then go words
    else
      if w.edits.isSome then
        writeErr (octets "-i used with no filenames on the command line, reading from STDIN.\n")
      go [['-']]
  | some _ => go words

/-- ends writing a file anew -/
def endEdit : Work Unit := do
  let w ← get
  if w.edits.isSome then
    match w.globals.get? "*main::ARGVOUT", w.globals.get? "*main::STDOUT" with
    | some out, some std => do
      let _ ← closeFile out
      modify fun w => { w with selected := std }
    | _, _ => pure ()

/-- takes a line of the files that are read one after the other -/
def takeArgument : Nat → Work Value
  | 0 => return .undefined
  | fuel + 1 => do
    let w ← get
    let current? := w.globals.get? "*main::ARGV"
    match current?, w.queue with
    | some a, some _ => do
      match ← takeLine "" a false with
      | .undefined => do
        let rows := match ← fileAt? a with
          | some f => f.rows
          | none => 0
        endEdit
        match ← openNext "" rows with
        | some _ => takeArgument fuel
        | none => do
          -- when all was read it begins anew with the input
          modify fun w => { w with queue := none, globals := w.globals.erase "*main::ARGV" }
          match ← fileAt? a with
          | some f => update a (.file { f with closed := false, rest := [], stream := none })
          | none => pure ()
          return .undefined
      | v => return v
    | _, _ => do
      match ← openNext "" 0 with
      | some _ => takeArgument fuel
      | none => do
        modify fun w => { w with queue := none }
        return .undefined

/-- takes all lines of the files that are read one after the other -/
def takeArguments : Nat → List Value → Work (List Value)
  | 0, done => return done.reverse
  | fuel + 1, done => do
    match ← takeArgument (fuel + 2) with
    | .undefined => return done.reverse
    | v => takeArguments fuel (v :: done)

/-- how many lines may be read at once -/
def lineLimit : Nat := 4000000

/-- reads from what an expression stands for -/
def readOne (ev : Evaluator) (source : Expr) : Work Value := do
  match source with
  | .handle "" => takeArgument lineLimit
  | .handle "ARGV" => takeArgument lineLimit
  | e =>
    match ← fileFor? ev e with
    | some (name, a) => takeLine name a true
    | none => return .undefined

/-- reads all that is left in what an expression stands for -/
def readMany (ev : Evaluator) (source : Expr) : Work (List Value) := do
  match source with
  | .handle "" => takeArguments lineLimit []
  | .handle "ARGV" => takeArguments lineLimit []
  | e =>
    match ← fileFor? ev e with
    | some (name, a) => takeLines name a
    | none => return []

/-- writes values -/
def printed (ev : Evaluator) (name : String) (target : Option Expr) (args : List Expr) : Work Value := do
  let address? : Option Nat ← match target with
    | none => do pure (some (← get).selected)
    | some e => do pure ((← fileFor? ev e).map Prod.snd)
  let values ← if args.isEmpty then do pure [← scalarValue "_"] else (·.flatten) <$> args.mapM ev.many
  let o ← if name == "printf" then layout (← textOf (values.headD .undefined)) (values.drop 1)
    else do
      let between ← textOf (← nameValue ",")
      let after ← if name == "say" then pure ['\n'] else do textOf (← nameValue "\\")
      pure (joinWith between (← values.mapM textOf) ++ after)
  match address? with
  | some a => return truthValue (← writeTo a name o)
  | none => do
    modify fun w => { w with cause := 9 }
    return .text []

/-- the files that a pattern means -/
def filesLike (o : Octets) : Work (List Value) := do
  passOnAll
  let files := (← get).files
  let words := (o.splitBy fun a b => isGap a == isGap b).filter fun w => !(w.head?.any isGap)
  return words.flatMap fun word =>
    (braces (word.length + 1) word).flatMap fun word =>
      let field := word.map fun c => (c, false)
      let found := matchFiles files field
      let found := if isWild field && found == [word] && !files.has (pathOf word) then [] else found
      found.map Value.text
where
  /-- the words that braces with commas stand for -/
  braces : Nat → Octets → List Octets
    | 0, o => [o]
    | fuel + 1, o =>
      let before := o.takeWhile (· != '\x7b')
      match o.drop before.length with
      | '\x7b' :: rest =>
        let inner := rest.takeWhile (· != '\x7d')
        let after := rest.drop (inner.length + 1)
        (cutAt ',' inner).flatMap fun part => (braces fuel after).map fun tail => before ++ part ++ tail
      | _ => [o]

/-! ## Other programs -/

/-- runs a program; gives what it writes where that is asked for -/
def runProgram (program : Octets) (args : List Octets) (captures : Bool) : Work Octets := do
  flush
  passOnAll
  let w ← get
  let environment ← (← entriesOf (← globalSlot '%' "ENV")).mapM fun (k, a) => do return (k, ← textOf (← cellAt a))
  match w.run program args ⟨w.input, none⟩ w.files environment with
  | .ok r => do
    modify fun w => { w with files := r.files, input := r.input, child := (endingSignal? r.status).getD (r.status * 256) }
    if !r.err.isEmpty then writeErr r.err
    if captures then return r.out
    else
      writeOut r.out
      flush
      return []
  | .error e => do
    noteCause e
    modify fun w => { w with child := -1 }
    return []

/-- runs a command: by itself where it is made of plain words, and else by a shell -/
def runCommand (o : Octets) (captures : Bool) : Work Octets := do
  if o.any fun c => "$&*()\x7b\x7d[]'\";\\|?<>~\x60\n=".toList.contains c then
    runProgram (octets "/bin/sh") [octets "-c", o] captures
  else match (o.splitBy fun a b => isGap a == isGap b).filter fun w => !(w.head?.any isGap) with
    | program :: args => runProgram program args captures
    | [] => return []

/-! ## Opening -/

/-- opens a file in the place of a handle; gives whether that could be done -/
def openHandle (ev : Evaluator) (target : Expr) (mode : OpenMode) (coded : Bool) (path : Option Octets)
    (cell : Option Nat) (given : Option Octets) : Work Value := do
  let name := match target with
    | .call n [] true => n
    | .handle n => n
    | .scalar n => "$" ++ n
    | .declare _ [.scalar n] _ => "$" ++ n
    | _ => "$fh"
  let opened : Option Opened ← match given, cell, path with
    | some o, _, _ => pure (some ⟨name, [], true, false, o, [], none, none, 0, coded, false⟩)
    | none, some a, _ => do
      match mode with
      | .reading => do
        let o ← textOf (← cellAt a)
        pure (some ⟨name, [], true, false, o, [], none, none, 0, coded, false⟩)
      | mode => do
        if mode == .writing then setCell a (.text [])
        pure (some ⟨name, [], false, true, [], [], none, some a, 0, coded, false⟩)
    | none, none, some path => openPath name mode coded path
    | none, none, none => pure none
  match opened with
  | none => return .text []
  | some f => do
    let bareword? : Option String := match target with
      | .call n [] true => some n
      | .handle n => some n
      | .literal (.text o) => some (String.ofList o)
      | _ => none
    match bareword? with
    | some n => do
      match (← get).globals.get? ("*" ++ fullName (← get).package n) with
      | some a =>
        let _ ← closeFile a
        update a (.file f)
      | none => putHandle n f
    | none => do
      let slot ← ev.slot target
      match ← fileOf? (← cellAt slot) with
      | some (_, a) => do
        let _ ← closeFile a
        update a (.file f)
      | none => do
        let a ← allocate (.file f)
        setCell slot (.ref a)
    return .int 1

/-- opens a file as the arguments say -/
def openFile (ev : Evaluator) (args : List Expr) : Work Value := do
  match args with
  | [target, spec] => do
    let o := ((← textOf (← ev.one spec)).dropWhile isGap)
    let o := (o.reverse.dropWhile isGap).reverse
    let mark := o.takeWhile fun c => "+<>".toList.contains c
    let path := (o.drop mark.length).dropWhile isGap
    if o.getLast? == some '|' then
      let out ← runCommand o.dropLast true
      openHandle ev target .reading false none none (some out)
    else if mark.isEmpty && o.head? == some '|' then do
      modify fun w => { w with cause := 22 }
      return .text []
    else if path == ['-'] && mark != ['>'] then openHandle ev target .reading false none none (some (← get).input)
    else if path.head? == some '&' then duplicate target (path.drop 1)
    else match modeOf? (if mark.isEmpty then ['<'] else mark) with
      | some (mode, coded) => openHandle ev target mode coded (some path) none none
      | none => die s!"Unknown open() mode '{String.ofList mark}'"
  | target :: mode :: place :: more => do
    let m ← textOf (← ev.one mode)
    let plain := (m.filter fun c => !isGap c)
    if (octets "-|").isPrefixOf plain then
      let words ← (·.flatten) <$> (place :: more).mapM ev.many
      let words ← words.mapM textOf
      let out ← match words with
        | [one] => runCommand one true
        | program :: rest => runProgram program rest true
        | [] => pure []
      openHandle ev target .reading false none none (some out)
    else if (plain.drop 1).head? == some '&' || (plain.drop 2).head? == some '&' then
      match ← fileFor? ev place with
      | some (_, a) => copyHandle target a
      | none => do
        modify fun w => { w with cause := 9 }
        return .text []
    else match modeOf? m with
      | none => die s!"Unknown open() mode '{String.ofList m}'"
      | some (mode, coded) => do
        match ← ev.one place with
        | .ref a => openHandle ev target mode coded none (some a) none
        | v => openHandle ev target mode coded (some (← textOf v)) none none
  | _ => do
    modify fun w => { w with cause := 22 }
    return .text []
where
  /-- makes a handle mean the file of another one -/
  copyHandle (target : Expr) (a : Nat) : Work Value := do
    match target with
    | .call n [] true | .handle n => do
      modify fun w => { w with globals := w.globals.insert ("*" ++ fullName w.package n) a }
      return .int 1
    | target => do
      setCell (← ev.slot target) (.ref a)
      return .int 1
  /-- makes a handle mean the file that a text tells -/
  duplicate (target : Expr) (o : Octets) : Work Value := do
    let name := match String.ofList (o.dropWhile (· == '=')) with
      | "0" => "STDIN"
      | "1" => "STDOUT"
      | "2" => "STDERR"
      | n => n
    match ← fileOf? (.handle name) with
    | some (_, a) => copyHandle target a
    | none => do
      modify fun w => { w with cause := 9 }
      return .text []

/-! ## Lists -/

/-- takes items out of an array and puts others in their place -/
def spliced (array : Nat) (offset : Option Int) (length : Option Int) (new : List Value) : Work (List Value) := do
  let items ← itemsOf array
  let size := items.size
  let start := match offset with
    | none => 0
    | some n => if n < 0 then size - n.natAbs else min n.toNat size
  let stop := match length with
    | none => size
    | some n => if n < 0 then max start (size - n.natAbs) else min size (start + n.toNat)
  let cells ← new.mapM newCell
  let removed := (items.extract start stop).toList
  changeArray array fun items => items.extract 0 start ++ cells.toArray ++ items.extract stop items.size
  removed.mapM itemValue

/-- removes the end of a line from a cell; gives how much was removed -/
def chompCell (slot : Nat) : Work Nat := do
  match ← cellAt slot with
  | .undefined => return 0
  | v => do
    let o ← textOf v
    let mark ← match ← lineEnd with
      | .at mark => pure mark
      | .blankLines => pure ['\n']
      | _ => pure []
    let kept := if !mark.isEmpty && mark.isSuffixOf o then o.take (o.length - mark.length) else o
    let blank := (← lineEnd) matches .blankLines
    let kept := if blank then (o.reverse.dropWhile (· == '\n')).reverse else kept
    if kept.length < o.length then setCell slot (.text kept)
    return o.length - kept.length

/-- the value that a step through a table comes to next -/
def nextEntry (table : Nat) : Work (List Value) := do
  let place := ((← get).walks.lookup table).getD 0
  let others := (← get).walks.filter fun p => p.1 != table
  match ← thingAt table with
  | .array items =>
    match items[place]? with
    | some a => do
      modify fun w => { w with walks := (table, place + 1) :: others }
      return [.int place, ← itemValue a]
    | none => do
      modify fun w => { w with walks := others }
      return []
  | _ =>
    match (← entriesOf table)[place]? with
    | some (k, a) => do
      modify fun w => { w with walks := (table, place + 1) :: others }
      return [.text k, ← cellAt a]
    | none => do
      modify fun w => { w with walks := others }
      return []

/-- whether an expression stands for an array -/
def isArray : Expr → Bool
  | .array _ => true
  | .arrayAt _ => true
  | .declare _ [.array _] _ => true
  | _ => false

/-- merges two sorted lists -/
def mergeWith (before : Nat → Nat → Work Bool) : Nat → List Nat → List Nat → Work (List Nat)
  | 0, a, b => return a ++ b
  | _, [], b => return b
  | _, a, [] => return a
  | fuel + 1, a :: as, b :: bs => do
    if ← before b a then return b :: (← mergeWith before fuel (a :: as) bs)
    else return a :: (← mergeWith before fuel as (b :: bs))

/-- sorts cells; what counts as the same keeps its order -/
def sortWith (before : Nat → Nat → Work Bool) : Nat → List Nat → Work (List Nat)
  | 0, cells => return cells
  | fuel + 1, cells => do
    if cells.length < 2 then return cells
    else do
      let half := cells.length / 2
      let a ← sortWith before fuel (cells.take half)
      let b ← sortWith before fuel (cells.drop half)
      mergeWith before (cells.length + 1) a b

/-! ## Packing -/

/-- bytes of a number, the last one first -/
def bytesOfNumber (count n : Nat) : Octets := (List.range count).map fun i => Char.ofNat (n / Nat.pow 256 i % 256)

/-- the letters of a layout of bytes, each with how often -/
def packLetters : Nat → Octets → List (Char × Option Nat)
  | 0, _ => []
  | fuel + 1, o =>
    match o.dropWhile isGap with
    | [] => []
    | c :: rest =>
      let rest := rest.dropWhile fun d => d == '<' || d == '>' || d == '!'
      match rest with
      | '*' :: rest => (c, none) :: packLetters fuel rest
      | rest =>
        let digits := rest.takeWhile Char.isDigit
        (c, some (if digits.isEmpty then 1 else (digitsIn 10 digits).1)) :: packLetters fuel (rest.drop digits.length)

/-- how many bytes a number has that a letter stands for, and whether its last byte comes first -/
def packSize? (c : Char) : Option (Nat × Bool) :=
  match c with
  | 'c' | 'C' => some (1, true)
  | 's' | 'S' | 'v' => some (2, true)
  | 'n' => some (2, false)
  | 'l' | 'L' | 'V' | 'i' | 'I' => some (4, true)
  | 'N' => some (4, false)
  | 'q' | 'Q' | 'j' | 'J' => some (8, true)
  | _ => none

/-- puts values into bytes -/
def packed : List (Char × Option Nat) → List Value → Work Octets
  | [], _ => return []
  | (c, count) :: rest, values => do
    match c with
    | 'A' | 'a' | 'Z' => do
      let o ← textOf (values.headD .undefined)
      let fill := if c == 'A' then ' ' else Char.ofNat 0
      let o := match count with
        | none => if c == 'Z' then o ++ [Char.ofNat 0] else o
        | some n => o.take n ++ List.replicate (n - o.length) fill
      return o ++ (← packed rest (values.drop 1))
    | 'H' => do
      let o ← textOf (values.headD .undefined)
      let o := match count with
        | none => o
        | some n => o.take n
      let rec pairs : Octets → Octets
        | a :: b :: more => Char.ofNat (digitsIn 16 [a, b]).1 :: pairs more
        | [a] => [Char.ofNat (digitsIn 16 [a, '0']).1]
        | [] => []
      return pairs o ++ (← packed rest (values.drop 1))
    | 'x' => return List.replicate (count.getD 0) (Char.ofNat 0) ++ (← packed rest values)
    | 'U' | 'W' => do
      let n := count.getD values.length
      let o ← (values.take n).mapM fun v => do return Char.ofNat (← sizeOf v)
      return o ++ (← packed rest (values.drop n))
    | c =>
      match packSize? c with
      | none => die s!"Invalid type '{c}' in pack"
      | some (size, lastFirst) => do
        let n := count.getD values.length
        let o ← (values.take n ++ List.replicate (n - values.length) Value.undefined).mapM fun v => do
          let bytes := bytesOfNumber size (wordOf (← intOf v))
          return if lastFirst then bytes else bytes.reverse
        return o.flatten ++ (← packed rest (values.drop n))

/-- takes values out of bytes -/
def unpacked : List (Char × Option Nat) → Octets → Work (List Value)
  | [], _ => return []
  | (c, count) :: rest, o => do
    match c with
    | 'A' | 'a' | 'Z' => do
      let part := match count with
        | none => o
        | some n => o.take n
      let shown := match c with
        | 'A' => (part.reverse.dropWhile fun d => isGap d || d.toNat = 0).reverse
        | 'Z' => part.takeWhile fun d => d.toNat != 0
        | _ => part
      return .text shown :: (← unpacked rest (o.drop part.length))
    | 'H' => do
      let digits := o.flatMap fun d => (Nat.toDigits 16 (d.toNat / 16 % 16)) ++ Nat.toDigits 16 (d.toNat % 16)
      let n := count.getD digits.length
      return .text (digits.take n) :: (← unpacked rest (o.drop ((n + 1) / 2)))
    | 'x' => unpacked rest (o.drop (count.getD 0))
    | 'U' | 'W' => do
      let n := count.getD o.length
      return (o.take n).map (fun d => Value.int d.toNat) ++ (← unpacked rest (o.drop n))
    | c =>
      match packSize? c with
      | none => die s!"Invalid type '{c}' in unpack"
      | some (size, lastFirst) => do
        let n := min (count.getD (o.length / size)) (o.length / size)
        let values := (List.range n).map fun i =>
          let part := (o.drop (i * size)).take size
          let part := if lastFirst then part.reverse else part
          let m : Nat := part.foldl (fun m d => m * 256 + d.toNat) 0
          let signed : Bool := c.isLower && c != 'n' && c != 'v'
          let most : Nat := Nat.pow 2 (8 * size)
          Value.int (if signed && most / 2 ≤ m then (m : Int) - (most : Int) else (m : Int))
        return values ++ (← unpacked rest (o.drop (n * size)))

end ScriptBridge.Shell.SigilScript
