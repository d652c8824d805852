/-
The builtins of a shell that run nothing themselves. Special builtins (`specialNames`) end the shell when they fail,
and assignments in front of them stay; the others (`regularNames`) only give a status.

Options are letters after a dash; `takeOptions` refuses those that a builtin does not know.
-/
import ScriptBridge.Shell.Condition
import ScriptBridge.Shell.Machine
import ScriptBridge.Shell.Printing
import ScriptBridge.Shell.Program
import ScriptBridge.Shell.Signal

namespace ScriptBridge.Shell

open Act

/-- the builtins that are not special -/
def regularNames : List String :=
  ["[", "alias", "bg", "cd", "chdir", "command", "echo", "false", "fg", "getopts", "hash", "jobs", "kill", "printf",
    "pwd", "read", "test", "true", "type", "ulimit", "umask", "unalias", "wait"]

/-- the builtins whose arguments may be assignments -/
def declaringNames : List String := ["export", "readonly", "local"]

/-! ## Arguments -/

/-- the options at the start of arguments; a letter in `valued` takes the rest of its word or the next word -/
def takeOptions (known valued : String) : Nat → List Octets → Act (List (Char × Octets) × List Octets)
  | 0, args => return ([], args)
  | _, [] => return ([], [])
  | fuel + 1, arg :: rest =>
    match arg with
    | ['-', '-'] => return ([], rest)
    | '-' :: c :: more => do
      let onward (value : Octets) (rest : List Octets) : Act (List (Char × Octets) × List Octets) := do
        let (found, rest) ← takeOptions known valued fuel rest
        return ((c, value) :: found, rest)
      if valued.toList.contains c then
        if !more.isEmpty then onward more rest
        else match rest with
          | value :: rest => onward value rest
          | [] => fail (octets "No arg for -" ++ c :: octets " option")
      else if known.toList.contains c then onward [] (if more.isEmpty then rest else ('-' :: more) :: rest)
      else fail (octets "Illegal option -" ++ [c])
    | _ => return ([], arg :: rest)

/-- the options of a builtin, with its operands -/
def optionsOf (known valued : String) (args : List Octets) : Act (List Char × List Octets) := do
  let (options, rest) ← takeOptions known valued (args.foldl (fun n arg => n + arg.length + 1) 1) args
  return (options.map Prod.fst, rest)

/-- the number that an argument has to be -/
def numberOf (o : Octets) : Act Nat := do
  let n := (digitsIn 10 o).1
  if o.isEmpty || !o.all Char.isDigit || 2147483647 < n then fail (octets "Illegal number: " ++ o) else return n

/-- the name that an argument has to be -/
def nameOf (o : Octets) : Act Octets :=
  if isName o then return o else fail (o ++ octets ": bad variable name")

/-- a text between quotes, so that it reads as one word; quotes in it stand between quotes of the other kind -/
def quotedText : Nat → Octets → Octets
  | 0, _ => []
  | fuel + 1, o =>
    let plain := o.takeWhile (· != '\'')
    let rest := o.drop plain.length
    let quotes := rest.takeWhile (· == '\'')
    let after := rest.drop quotes.length
    '\'' :: plain ++ '\'' :: (if quotes.isEmpty then []
      else '"' :: quotes ++ '"' :: (if after.isEmpty then [] else quotedText fuel after))

/-! ## Variables -/

/-- assigns what `export` and its like are given, and marks the names -/
def declare (mark : Octets → Machine → Machine) (args : List Octets) : Act Unit :=
  args.forM fun arg => do
    let name ← nameOf (arg.takeWhile (· != '='))
    if arg.contains '=' then setVariable name (arg.drop (name.length + 1))
    modify (mark name)

/-- variables as commands that set them again -/
def declarations (command : Octets) (m : Machine) (names : List Octets) : Octets :=
  (names.mergeSort inOrder).flatMap fun name =>
    command ++ name ++ (match m.value? name with
      | some v => '=' :: quotedText (v.length + 1) v
      | none => []) ++ ['\n']

/-- a list with a name in it -/
def withName (name : Octets) (names : List Octets) : List Octets :=
  if names.contains name then names else names ++ [name]

/-- marks names, or shows the marked ones -/
def exports (command : String) (marked : Machine → List Octets) (mark : Octets → Machine → Machine)
    (args : List Octets) : Act Unit := do
  let (options, names) ← optionsOf "p" "" args
  if names.isEmpty || options.contains 'p' then
    let m ← get
    write 1 (declarations (octets (command ++ " ")) m (marked m))
  else declare mark names
  setStatus 0

/-- gives the running function variables of its own -/
def localize (args : List Octets) : Act Unit := do
  if (← get).locals.isNone then fail (octets "not in a function")
  else
    let keep (name : Octets) : Act Unit := modify fun m =>
      { m with locals := m.locals.map fun kept => (name, m.value? name) :: kept }
    args.forM fun arg => do
      if arg != ['-'] then
        let name ← nameOf (arg.takeWhile (· != '='))
        keep name
        if arg.contains '=' then setVariable name (arg.drop (name.length + 1))
    setStatus 0

/-- forgets variables or functions -/
def unset (args : List Octets) : Act Unit := do
  let (options, names) ← optionsOf "fv" "" args
  names.forM fun o => do
    if options.contains 'f' then modify fun m => { m with functions := m.functions.erase o }
    else
      let name ← nameOf o
      if (← get).fixed.contains name then fail (name ++ octets ": is read only")
      else modify fun m => { m with
        values := m.values.erase name
        exported := m.exported.filter (· != name) }
  setStatus 0

/-- the next line of the input with its backslashes taken away unless they are kept; a character after a backslash
does not separate. `true` says that the line had an end. -/
def takeLine (raw : Bool) : Nat → Octets → LineChars × Octets × Bool
  | 0, o => ([], o, false)
  | _, [] => ([], [], false)
  | fuel + 1, c :: rest =>
    if c == '\n' then ([], rest, true)
    else if c == '\\' && !raw then
      match rest with
      | '\n' :: rest => takeLine raw fuel rest
      | d :: rest => let (line, more) := takeLine raw fuel rest; ((d, false) :: line, more)
      | [] => ([], [], false)
    else
      let (line, more) := takeLine raw fuel rest
      (if c == Char.ofNat 0 then line else (c, true) :: line, more)

/-- reads a line into variables -/
def readLineInto (args : List Octets) : Act Unit := do
  let (options, names) ← optionsOf "r" "p" args
  if names.isEmpty then fail (octets "arg count")
  let m ← get
  let (line, rest, complete) := takeLine (options.contains 'r') (m.input.length + 1) m.input
  set (m.withInput rest)
  (assignFields m.separators names (dropBlankSeparators m.separators line)).forM fun (name, value) => do
    setVariable (← nameOf name) value
  setStatus (if complete then 0 else 1)

/-- what `getopts` finds: the letter to report, its argument, and where it goes on -/
structure OptionStep where
  letter : Char
  argument : Option Octets
  complaint : Option Octets
  place : OptionPlace
  finished : Bool

/-- one step over the options of a script -/
def optionStep (known : Octets) (words : List Octets) (place : OptionPlace) : OptionStep :=
  let index := place.index
  let inside := if index ≤ 1 || place.offset = 0 then [] else ((words[index - 2]?).getD []).drop place.offset
  let ended (next : Nat) : OptionStep := ⟨'?', none, none, ⟨next, 0⟩, true⟩
  let quiet := known.head? == some ':'
  let go (chars : Octets) (next : Nat) : OptionStep :=
    match chars with
    | [] => ended next
    | c :: more =>
      let offset := ((words[next - 2]?).getD []).length - more.length
      let names := if quiet then known.drop 1 else known
      match names.dropWhile (· != c) with
      | [] =>
        if quiet then ⟨'?', some [c], none, ⟨next, offset⟩, false⟩
        else ⟨'?', none, some (octets "Illegal option -" ++ [c]), ⟨next, offset⟩, false⟩
      | _ :: ':' :: _ =>
        if !more.isEmpty then ⟨c, some more, none, ⟨next, 0⟩, false⟩
        else match words[next - 1]? with
          | some value => ⟨c, some value, none, ⟨next + 1, 0⟩, false⟩
          | none =>
            if quiet then ⟨':', some [c], none, ⟨next, offset⟩, false⟩
            else ⟨'?', none, some (octets "No arg for -" ++ c :: octets " option"), ⟨next, offset⟩, false⟩
      | _ => ⟨c, some [], none, ⟨next, offset⟩, false⟩
  if !inside.isEmpty then go inside index
  else match words[index - 1]? with
    | some ['-', '-'] => ended (index + 1)
    | some ('-' :: c :: more) => go (c :: more) (index + 1)
    | _ => ended index

/-- takes the next option of a script -/
def getOption (args : List Octets) : Act Unit := do
  match args with
  | known :: name :: rest => do
    let m ← get
    let words := if rest.isEmpty then m.args else rest
    let found := optionStep known words (if m.place.index ≤ words.length + 1 then m.place else ⟨1, 0⟩)
    match found.complaint with
    | some text => writeLine 2 text
    | none => pure ()
    match found.argument with
    | some value => setVariable "OPTARG".toList value
    | none => if !found.finished then modify fun m => { m with values := m.values.erase "OPTARG".toList }
    setVariable "OPTIND".toList (number found.place.index)
    modify fun m => { m with place := found.place }
    setVariable (← nameOf name) [found.letter]
    setStatus (if found.finished then 1 else 0)
  | _ => fail (octets "Usage: getopts optstring var [arg...]")

/-! ## The state of the shell -/

/-- leaves with a status, if one is given -/
def leaveWith (args : List Octets) (leave : Leave) : Act Unit := do
  match args.head? with
  | none => throw leave
  | some o => do
    setStatus (← numberOf o)
    throw leave

/-- leaves loops, as many as are running at most -/
def leaveLoops (args : List Octets) (leave : Nat → Leave) : Act Unit := do
  let n ← match args.head? with
    | some o => do
      let n ← numberOf o
      if n == 0 then fail (octets "Illegal number: " ++ o) else pure n
    | none => pure 1
  let m ← get
  setStatus 0
  if m.loops != 0 then throw (leave (min n m.loops))

/-- drops arguments -/
def shiftArguments (args : List Octets) : Act Unit := do
  let n ← match args.head? with
    | some o => numberOf o
    | none => pure 1
  let m ← get
  if n ≤ m.args.length then set { m with args := m.args.drop n, place := ⟨1, 0⟩, status := 0 }
  else fail (octets "can't shift that many")

/-- turns a switch on or off -/
def Machine.switch (on : Bool) (c : Char) (m : Machine) : Machine :=
  { m with options := if on then c :: m.options.filter (· != c) else m.options.filter (· != c) }

/-- lists the switches; `asCommands` writes them as commands -/
def switchList (asCommands : Bool) (m : Machine) : Octets :=
  let isOn : Option Char → Bool
    | some c => m.has c
    | none => false
  if asCommands then
    switchNames.flatMap fun (c, name) => octets ((if isOn c then "set -o " else "set +o ") ++ name ++ "\n")
  else octets "Current option settings\n" ++ switchNames.flatMap fun (c, name) =>
    octets name ++ List.replicate (16 - name.length) ' ' ++ octets (if isOn c then "on\n" else "off\n")

/-- turns switches on and off as arguments say; gives the arguments that are left, if any were given as such. A shell
that starts knows the letter for a script among its arguments too. -/
def applySwitches (starting : Bool) : Nat → List Octets → Act (Option (List Octets))
  | 0, _ => return none
  | _, [] => return none
  | fuel + 1, arg :: rest =>
    let letters (on : Bool) (chars : Octets) : Act (Option (List Octets)) := do
      let named := chars.contains 'o'
      for c in chars do
        if c != 'o' then
          if switchLetters.contains c || (starting && c == 'c') then modify (Machine.switch on c)
          else fail (octets "Illegal option -" ++ [c])
      if !named then applySwitches starting fuel rest
      else match rest with
        | [] => do
          write 1 (switchList (!on) (← get))
          return none
        | name :: rest =>
          match switchNames.find? fun s => octets s.2 == name with
          | some (some c, _) => do
            modify (Machine.switch on c)
            applySwitches starting fuel rest
          | some (none, _) => applySwitches starting fuel rest
          | none => fail (octets "Illegal option -o " ++ name)
    match arg with
    | ['-', '-'] => return some rest
    | ['-'] => do
      if starting then return some rest
      else do
        modify fun m => (m.switch false 'x').switch false 'v'
        return if rest.isEmpty then none else some rest
    | '-' :: chars => letters true chars
    | '+' :: chars => letters false chars
    | _ => return some (arg :: rest)

/-- sets switches and arguments, or shows the variables -/
def setUp (args : List Octets) : Act Unit := do
  if args.isEmpty then
    let m ← get
    write 1 (declarations [] m (m.values.entries.map Prod.fst))
  else match ← applySwitches false (args.length + 1) args with
    | some rest => modify fun m => { m with args := rest, place := ⟨1, 0⟩ }
    | none => pure ()
  setStatus 0

/-- the place that a folder name leads to without looking at links -/
def folderText (here target : Octets) : Octets :=
  let pieces := (fieldPieces ((if target.head? == some '/' then target else here ++ '/' :: target).map fun c => (c, false)))
  let kept := pieces.foldl (fun (kept : List Octets) piece =>
    let name := fieldText piece
    if name.isEmpty || name == ['.'] then kept
    else if name == ['.', '.'] then kept.drop 1
    else name :: kept) []
  '/' :: (List.intersperse ['/'] kept.reverse).flatten

/-- goes to another folder -/
def changeFolder (args : List Octets) : Act Unit := do
  let (options, operands) ← optionsOf "LP" "" args
  let m ← get
  let back := operands.head? == some ['-']
  let target := match operands with
    | [] => (m.value? "HOME".toList).getD []
    | o :: _ => if back then (m.value? "OLDPWD".toList).getD [] else o
  let target := if target.isEmpty then ['.'] else target
  let logical := folderText m.folder target
  let physical := options.getLast? == some 'P'
  let place? : Option (List String) := match m.files.locate (pathOf (if physical then target else logical)) true with
    | .ok (.found names) => if m.files.isFolder (pathOf (if physical then target else logical)) then some names else none
    | _ => none
  match place? with
  | some names => do
    let folder := if physical then placeText names else logical
    set { m with
      files := { m.files with here := names }
      folder
      values := (m.values.put "OLDPWD".toList m.folder).put "PWD".toList folder
      exported := withName "PWD".toList (withName "OLDPWD".toList m.exported) }
    if back then writeLine 1 folder
    setStatus 0
  | none => fail (octets "can't cd to " ++ target)

/-- shows the folder that the shell is in -/
def showFolder (args : List Octets) : Act Unit := do
  let (options, _) ← optionsOf "LP" "" args
  let m ← get
  writeLine 1 (if options.getLast? == some 'P' then placeText m.files.here else m.folder)
  setStatus 0

/-- a number of at least so many octal digits -/
def octal (width n : Nat) : Octets :=
  let digits := Nat.toDigits 8 n
  List.replicate (width - digits.length) '0' ++ digits

/-- shows or sets the permissions that new files do not get -/
def changeMask (args : List Octets) : Act Unit := do
  let (options, operands) ← optionsOf "S" "" args
  let m ← get
  match operands with
  | [] =>
    let rights (shift : Nat) : Octets :=
      let bits := 7 - m.mask / shift % 8
      (if bits / 4 % 2 = 1 then ['r'] else []) ++ (if bits / 2 % 2 = 1 then ['w'] else [])
        ++ (if bits % 2 = 1 then ['x'] else [])
    writeLine 1 (if options.contains 'S' then
        octets "u=" ++ rights 64 ++ octets ",g=" ++ rights 8 ++ octets ",o=" ++ rights 1
      else octal 4 m.mask)
    setStatus 0
  | o :: _ =>
    if !(o.head?.map Char.isDigit).getD false then fail (octets "Illegal mode: " ++ o)
    else if o.all fun c => (digitOf? 8 c).isSome then do
      set { m with mask := (digitsIn 8 o).1 % 512 }
      setStatus 0
    else fail (octets "Illegal number: " ++ o)

/-! ## Signals and jobs -/

/-- sets what is done at signals, or shows it. The only argument, a number in front, or a dash takes it back. -/
def setTraps (args : List Octets) : Act Unit := do
  let args := if args.head? == some ['-', '-'] then args.drop 1 else args
  let m ← get
  let change (action : Option Octets) (signals : List Octets) : Act Unit := do
    match signals.find? fun s => (signalNumber? s).isNone with
    | some bad => do
      writeLine 2 (octets "trap: " ++ bad ++ octets ": bad trap")
      setStatus 1
    | none => do
      modify fun m => { m with traps := signals.foldl (fun traps s =>
        let n := (signalNumber? s).getD 0
        match action with
        | some text => traps.put n text
        | none => traps.erase n) m.traps }
      setStatus 0
  match args with
  | [] => do
    let shown := m.traps.entries.mergeSort fun a b => a.1 ≤ b.1
    write 1 (shown.flatMap fun (n, action) =>
      octets "trap -- " ++ quotedText (action.length + 1) action ++ ' ' :: signalName n ++ ['\n'])
    setStatus 0
  | [signal] => change none [signal]
  | action :: signals =>
    if action == ['-'] then change none signals
    else if action.all Char.isDigit && !action.isEmpty then change none (action :: signals)
    else change (some action) signals

/-- what `kill` is asked to do -/
inductive KillRequest where
  | list (codes : List Octets)
  | send (signal : Nat) (targets : List Octets)

/-- how `kill` is used -/
def killUsage : Octets :=
  octets "Usage: kill [-s sigspec | -signum | -sigspec] [pid | job]... or\nkill -l [exitstatus]"

/-- reads the arguments of `kill` -/
def killRequest (args : List Octets) : Act KillRequest := do
  let finish (signal : Nat) (targets : List Octets) : Act KillRequest :=
    if targets.isEmpty then fail killUsage else return .send signal targets
  match args with
  | ('-' :: name) :: rest =>
    match signalNumber? name with
    | some n => finish n rest
    | none => do
      let (options, operands) ← takeOptions "l" "s" (args.foldl (fun n arg => n + arg.length + 1) 1) args
      match options.find? fun o => o.1 == 's' with
      | some (_, name) =>
        match signalNumber? name with
        | some n => finish n operands
        | none => fail (octets "invalid signal number or name: " ++ name)
      | none => if options.isEmpty then finish 15 operands else return .list operands
  | rest => finish 15 rest

/-- the job with a given number, counted from zero in the order of their start -/
def Machine.jobOf? (m : Machine) (pid : Nat) : Option Nat :=
  if m.pid < pid && pid ≤ m.jobNumber m.jobs.length then some (pid - m.pid - 1) else none

/-- the status of a job -/
def Machine.jobStatus (m : Machine) (job : Nat) : Nat := (m.jobs.reverse[job]?).getD 127

/-- waits for jobs -/
def waitFor (args : List Octets) : Act Unit := do
  setStatus 0
  args.forM fun o => do
    let pid ← if o.head? == some '%' then fail (octets "No such job: " ++ o) else numberOf o
    let m ← get
    match m.jobOf? pid with
    | some job => do
      let status := m.jobStatus job
      match (if signalBase < status then signalText (status - signalBase) else none) with
      | some text => writeLine 2 (octets text)
      | none => pure ()
      setStatus status
    | none => setStatus 127

/-! ## Limits -/

/-- shows or sets a limit on what programs may use; none is in force -/
def changeLimit (args : List Octets) : Act Unit := do
  let letters := (args.filter fun o => o.head? == some '-').flatMap (List.drop 1)
  let kind := ((letters.filter fun c => c != 'H' && c != 'S').getLast?).getD 'f'
  match args.find? fun o => o.head? != some '-' with
  | some value => do
    modify fun m => { m with limits := m.limits.put kind value }
    setStatus 0
  | none => do
    writeLine 1 (((← get).limits.get? kind).getD (octets "unlimited"))
    setStatus 0

/-! ## Output -/

/-- writes what a builtin has to say -/
def put (status : Nat) (o : Octets) : Act Unit := do
  write 1 o
  setStatus status

/-- prints by a format -/
def printFormatted (args : List Octets) : Act Unit := do
  let (_, operands) ← optionsOf "" "" args
  match operands with
  | [] => fail (octets "usage: printf format [arg ...]")
  | format :: rest => do
    let (out, complaints, status) := printfText false format rest
    complaints.forM fun w => complain w.brief
    put status out

/-- tests a condition -/
def checkCondition (args : List Octets) : Act Unit := do
  let (status, complaint) := test (← get).files args
  if !complaint.isEmpty then complain complaint
  setStatus status

/-! ## Names -/

/-- the number of the chain in which an alias is kept; the chains are listed one after the other -/
def aliasChain (name : Octets) : Nat :=
  (name.foldl (fun n c => n + c.toNat) ((name.head?.elim 0 Char.toNat) * 16)) % 39

/-- an alias as a command that sets it again -/
def aliasText (entry : Octets × Octets) : Octets := entry.1 ++ '=' :: quotedText (entry.2.length + 1) entry.2

/-- sets aliases or shows them -/
def setAliases (args : List Octets) : Act Unit := do
  setStatus 0
  if args.isEmpty then
    let entries := (← get).aliases.entries.mergeSort fun a b => aliasChain a.1 ≤ aliasChain b.1
    entries.forM fun entry => writeLine 1 (aliasText entry)
  else args.forM fun arg => do
    let name := arg.take 1 ++ (arg.drop 1).takeWhile (· != '=')
    if name.length < arg.length then
      modify fun m => { m with aliases := m.aliases.put name (arg.drop (name.length + 1)) }
    else match (← get).aliases.get? name with
      | some body => writeLine 1 (aliasText (name, body))
      | none => do
        writeLine 2 (octets "alias: " ++ name ++ octets " not found")
        setStatus 1

/-- forgets aliases -/
def unsetAliases (args : List Octets) : Act Unit := do
  let (options, names) ← optionsOf "a" "" args
  setStatus 0
  if options.contains 'a' then modify fun m => { m with aliases := .empty }
  else names.forM fun name => do
    if ((← get).aliases.get? name).isSome then modify fun m => { m with aliases := m.aliases.erase name }
    else
      writeLine 2 (octets "unalias: " ++ name ++ octets " not found")
      setStatus 1

/-- what a name stands for -/
inductive Meaning where
  | keyword
  | alias (body : Octets)
  | special
  | builtin
  | function
  | program (path : Octets)

/-- what a name stands for, if anything -/
def Machine.meaning? (m : Machine) (name : Octets) : Option Meaning :=
  let asText := String.ofList name
  if reservedWords.contains asText then some .keyword
  else if let some body := m.aliases.get? name then some (.alias body)
  else if specialNames.contains asText then some .special
  else if (m.functions.get? name).isSome then some .function
  else if regularNames.contains asText then some .builtin
  else match findProgram m.files m.folders name with
    | .ok (path, _) => some (.program path)
    | .error .badFormat => some (.program name)
    | .error _ => none

/-- says what names stand for -/
def describe (names : List Octets) : Act Unit := do
  setStatus 0
  names.forM fun name => do
    match (← get).meaning? name with
    | some .keyword => writeLine 1 (name ++ octets " is a shell keyword")
    | some (.alias body) => writeLine 1 (name ++ octets " is an alias for " ++ body)
    | some .special => writeLine 1 (name ++ octets " is a special shell builtin")
    | some .builtin => writeLine 1 (name ++ octets " is a shell builtin")
    | some .function => writeLine 1 (name ++ octets " is a shell function")
    | some (.program path) => do
      let before := (← get).tracked.contains name
      writeLine 1 (name ++ octets (if before then " is a tracked alias for " else " is ") ++ path)
      track name
    | none => do
      writeLine 1 (name ++ octets ": not found")
      setStatus 127

/-- says how a name would be run -/
def locateName (name : Octets) : Act Unit := do
  match (← get).meaning? name with
  | some (.program path) => do
    put 0 (path ++ ['\n'])
    track name
  | some (.alias body) => put 0 (octets "alias " ++ aliasText (name, body) ++ ['\n'])
  | some _ => put 0 (name ++ ['\n'])
  | none => setStatus 127

/-- runs a builtin that runs nothing itself -/
def runBuiltin (name : Octets) (args : List Octets) : Act Unit := do
  match String.ofList name with
  | ":" => setStatus 0
  | "true" => setStatus 0
  | "false" => setStatus 1
  | "exit" => leaveWith args .exit
  | "return" => leaveWith args .back
  | "break" => leaveLoops args .out
  | "continue" => leaveLoops args .again
  | "shift" => shiftArguments args
  | "set" => setUp args
  | "unset" => unset args
  | "export" => exports "export" Machine.exported (fun name m => { m with exported := withName name m.exported }) args
  | "readonly" => exports "readonly" Machine.fixed (fun name m => { m with fixed := withName name m.fixed }) args
  | "local" => localize args
  | "trap" => setTraps args
  | "times" => put 0 (octets "0m0.000000s 0m0.000000s\n0m0.000000s 0m0.000000s\n")
  | "cd" => changeFolder args
  | "chdir" => changeFolder args
  | "pwd" => showFolder args
  | "echo" => put 0 (echoText args)
  | "printf" => printFormatted args
  | "test" => checkCondition args
  | "[" =>
    if args.getLast? == some [']'] then checkCondition args.dropLast
    else fail (octets "missing ]")
  | "read" => readLineInto args
  | "getopts" => getOption args
  | "umask" => changeMask args
  | "wait" => waitFor args
  | "type" => describe args
  | "alias" => setAliases args
  | "unalias" => unsetAliases args
  | "hash" => do
    setStatus 0
    args.forM fun o => do
      if o == octets "-r" then modify fun m => { m with tracked := [] }
      else match (← get).meaning? o with
        | some (.program _) => track o
        | some _ => pure ()
        | none => do
          complain (o ++ octets ": not found")
          setStatus 1
  | "ulimit" => changeLimit args
  | "fg" => fail (octets "No current job")
  | "bg" => fail (octets "No current job")
  | _ => setStatus 0

end ScriptBridge.Shell
