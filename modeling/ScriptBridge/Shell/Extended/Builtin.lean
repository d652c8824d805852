/-
The builtins of the extended shell that run nothing themselves. A builtin that is used wrongly gives a status and goes
no further; few of them end the shell.
-/
import ScriptBridge.Shell.Extended.Format
import ScriptBridge.Shell.Extended.Glob
import ScriptBridge.Shell.Extended.Test
import ScriptBridge.Shell.Program

namespace ScriptBridge.Shell.Extended

open Work

/-- all builtins -/
def builtinNames : List String :=
  [".", ":", "[", "alias", "bg", "bind", "break", "builtin", "caller", "cd", "command", "compgen", "complete", "compopt",
    "continue", "declare", "dirs", "disown", "echo", "enable", "eval", "exec", "exit", "export", "false", "fc", "fg",
    "getopts", "hash", "help", "history", "jobs", "kill", "let", "local", "logout", "mapfile", "popd", "printf", "pushd",
    "pwd", "read", "readarray", "readonly", "return", "set", "shift", "shopt", "source", "suspend", "test", "times",
    "trap", "true", "type", "typeset", "ulimit", "umask", "unalias", "unset", "wait"]

/-- how a builtin is used -/
def usageOf (name : String) : String :=
  match name with
  | "cd" => "cd [-L|[-P [-e]] [-@]] [dir]"
  | "printf" => "printf [-v var] format [arguments]"
  | "read" => "read [-ers] [-a array] [-d delim] [-i text] [-n nchars] [-N nchars] [-p prompt] [-t timeout] [-u fd] "
      ++ "[name ...]"
  | "mapfile" | "readarray" => name ++ " [-d delim] [-n count] [-O origin] [-s count] [-t] [-u fd] [-C callback] "
      ++ "[-c quantum] [array]"
  | "declare" => "declare [-aAfFgiIlnrtux] [name[=value] ...] or declare -p [-aAfFilnrtux] [name ...]"
  | "typeset" => "typeset [-aAfFgiIlnrtux] name[=value] ... or typeset -p [-aAfFilnrtux] [name ...]"
  | "local" => "local [option] name[=value] ..."
  | "export" => "export [-fn] [name[=value] ...] or export -p"
  | "readonly" => "readonly [-aAf] [name[=value] ...] or readonly -p"
  | "unset" => "unset [-f] [-v] [-n] [name ...]"
  | "set" => "set [-abefhkmnptuvxBCEHPT] [-o option-name] [--] [-] [arg ...]"
  | "shopt" => "shopt [-pqsu] [-o] [optname ...]"
  | "pwd" => "pwd [-LP]"
  | "dirs" => "dirs [-clpv] [+N] [-N]"
  | "pushd" => "pushd [-n] [+N | -N | dir]"
  | "popd" => "popd [-n] [+N | -N]"
  | "type" => "type [-afptP] name [name ...]"
  | "command" => "command [-pVv] command [arg ...]"
  | "hash" => "hash [-lr] [-p pathname] [-dt] [name ...]"
  | "alias" => "alias [-p] [name[=value] ... ]"
  | "unalias" => "unalias [-a] name [name ...]"
  | "trap" => "trap [-lp] [[arg] signal_spec ...]"
  | "umask" => "umask [-p] [-S] [mode]"
  | "ulimit" => "ulimit [-SHabcdefiklmnpqrstuvxPRT] [limit]"
  | "times" => "times"
  | "wait" => "wait [-fn] [-p var] [id ...]"
  | "jobs" => "jobs [-lnprs] [jobspec ...] or jobs -x command [args]"
  | "getopts" => "getopts optstring name [arg ...]"
  | "enable" => "enable [-a] [-dnps] [-f filename] [name ...]"
  | "builtin" => "builtin [shell-builtin [arg ...]]"
  | "source" | "." => name ++ " filename [arguments]"
  | "eval" => "eval [arg ...]"
  | "exec" => "exec [-cl] [-a name] [command [argument ...]] [redirection ...]"
  | "kill" => "kill [-s sigspec | -n signum | -sigspec] pid | jobspec ... or kill -l [sigspec]"
  | name => name

/-! ## Arguments -/

/-- goes no further in a builtin, with a status and a complaint -/
def stop {α : Type} (status : Nat) (message : Octets) : Work α := failWith status message

/-- ends the shell with a status and a complaint -/
def stopShell {α : Type} (status : Nat) (message : Octets) : Work α := do
  complain message
  setStatus status
  throw .exit

/-- says how the running builtin is used, and goes no further -/
def misused {α : Type} : Work α := do
  let name := ((← machine).calling).getD []
  writeLine 2 (name ++ octets (": usage: " ++ usageOf (String.ofList name)))
  setStatus 2
  throw .failed

/-- the options at the start of arguments; a letter in `valued` takes the rest of its word or the next word. Where
`signs` is set, letters after a plus sign are given too, each with a plus sign as its value. -/
def takeOptions (known valued : String) (signs : Bool) : Nat → List Octets → Work (List (Char × Octets) × List Octets)
  | 0, args => return ([], args)
  | _, [] => return ([], [])
  | fuel + 1, arg :: rest =>
    match arg with
    | ['-', '-'] => return ([], rest)
    | ['-'] => return ([], arg :: rest)
    | sign :: c :: more => do
      if sign != '-' && !(signs && sign == '+') then return ([], arg :: rest)
      else do
        let onward (value : Octets) (rest : List Octets) : Work (List (Char × Octets) × List Octets) := do
          let (found, rest) ← takeOptions known valued signs fuel rest
          return ((c, value) :: found, rest)
        if valued.toList.contains c then
          if !more.isEmpty then onward more rest
          else match rest with
            | value :: rest => onward value rest
            | [] => do
              complain (octets "-" ++ c :: octets ": option requires an argument")
              misused
        else if known.toList.contains c then
          onward (if sign == '+' then ['+'] else []) (if more.isEmpty then rest else (sign :: more) :: rest)
        else do
          complain (sign :: c :: octets ": invalid option")
          misused
    | _ => return ([], arg :: rest)

/-- the options of a builtin, with its operands -/
def optionsOf (known valued : String) (args : List Octets) : Work (Options × List Octets) := do
  let (options, rest) ← takeOptions known valued false (args.foldl (fun n arg => n + arg.length + 1) 1) args
  return (⟨options⟩, rest)

/-- the number that an argument is -/
def wholeNumber? (o : Octets) : Option Int :=
  (readNumber? o).bind fun n => if (bounded leastWord greatestWord n).2 then none else some n

/-- the text of an argument -/
def Argument.text : Argument → Octets
  | .word o => o
  | .assigned name _ _ _ => name

/-- where a name cannot be one -/
def badName {α : Type} (o : Octets) : Work α := stop 1 ('\x60' :: o ++ octets "': not a valid identifier")

/-- a text as an assignment, or as a name alone: the name, the subscript, whether the value is added, and the value -/
def splitAssignment (o : Octets) : Octets × Option Octets × Bool × Option Octets :=
  let name := o.takeWhile isNameChar
  let rest := o.drop name.length
  let (index, rest) := match rest with
    | '[' :: more => match takeIndex (more.length + 1) 0 more with
      | some (index, rest) => (some index, rest)
      | none => (none, rest)
    | rest => (none, rest)
  match rest with
  | '=' :: value => (name, index, false, some value)
  | '+' :: '=' :: value => (name, index, true, some value)
  | [] => (name, index, false, none)
  | _ => (o, none, false, none)

/-- an argument of a builtin that declares variables, as an assignment -/
def Argument.asAssignment : Argument → Octets × Option Octets × Bool × Option Assigned
  | .word o =>
    let (name, index, adds, value) := splitAssignment o
    (name, index, adds, value.map .single)
  | .assigned name index adds value => (name, index, adds, some value)

/-! ## Variables -/

/-- what a variable holds when it is made a list or a map -/
def shaped (name : Octets) (v : Variable) (list map : Bool) : Work Variable := do
  let fresh (held : Held) : Variable :=
    { v with held, marks := if v.held == .nothing then unsetMark :: v.marks else v.marks }
  match v.held with
  | .list _ => if map then stop 1 (name ++ octets ": cannot convert indexed to associative array") else return v
  | .map _ => if list then stop 1 (name ++ octets ": cannot convert associative to indexed array") else return v
  | held =>
    if map then return fresh (.map (match held.text? with
      | some o => [(['0'], o)]
      | none => []))
    else if list then return fresh (.list held.asList)
    else return v

/-- lists variables as commands that declare them -/
def listVariables (command : String) (keep : Variable → Bool) : Work Unit := do
  let s ← get
  for name in s.names true do
    match s.own? name with
    | some v => if keep v then writeLine 1 (v.declaration command name)
    | none => pure ()

/-- a session in which the running function has a variable of its own -/
def withOwn (name : Octets) (s : Session) : Session :=
  match s.locals? with
  | some named => if (named.get? name).isSome then s else s.changeLocal name ⟨.nothing, []⟩
  | none => s

/-- declares a variable: gives it marks and a value -/
def declareOne (options : List (Char × Octets)) (local_ : Bool) (arg : Argument) : Work Unit := do
  let (name, index, adds, value) := arg.asAssignment
  let has (c : Char) : Bool := options.any fun o => o.1 == c && o.2 != ['+']
  let off (c : Char) : Bool := options.any fun o => o.1 == c && o.2 == ['+']
  if !isName name then badName arg.text
  let s ← get
  let isLocal : Bool := local_ && s.locals?.isSome && !has 'g'
  if isLocal then modify (withOwn name)
  let s ← get
  let name := if has 'n' || off 'n' then name else s.resolve name
  let v := (s.own? name).getD ⟨.nothing, []⟩
  if v.marks.contains 'r' && (value.isSome || off 'r') then stop 1 (name ++ octets ": readonly variable")
  let isItems : Bool := match value with
    | some (.items _) => true
    | _ => false
  let v ← shaped name v (has 'a' || (index.isSome && !has 'A') || (isItems && !has 'A')) (has 'A')
    <|> (if (has 'a' || isItems) && !has 'A' then pure v else throw .failed)
  let added := "ilnutxc".toList.filter has
  let dropped := "ilnutxc".toList.filter off ++ (if has 'l' then ['u'] else []) ++ (if has 'u' then ['l'] else [])
  let marks := (v.marks.filter fun c => !dropped.contains c && !added.contains c) ++ added
  let put (v : Variable) : Work Unit := modify (Session.change name v)
  let known : Bool := ((← get).own? name).isSome
  if known || value.isSome || !marks.isEmpty || v.held == .nothing then
    put { v with marks }
  match value with
  | some value => do
    if has 'n' then match value with
      | .single o => put ⟨.single o, marks⟩
      | .items _ => pure ()
    else storeAssigned name index adds value
  | none => pure ()
  if has 'r' then
    match (← get).own? name with
    | some v => put { v with marks := 'r' :: v.marks }
    | none => pure ()

/-- declares variables, or shows them -/
def declare (args : List Argument) : Work Unit := do
  let calling := ((← machine).calling).getD []
  let isLocal := calling == "local".toList
  if isLocal && (← get).locals?.isNone then stop 1 (octets "can only be used in a function")
  let texts := args.map Argument.text
  let (options, rest) ← takeOptions "aAfFgiIlnprtuxc" "" true (texts.foldl (fun n arg => n + arg.length + 1) 1) texts
  let operands := args.drop (args.length - rest.length)
  let has (c : Char) : Bool := options.any fun o => o.1 == c && o.2 != ['+']
  let s ← get
  setStatus 0
  if has 'f' || has 'F' then
    let names := if rest.isEmpty then (s.functions.entries.map Prod.fst).mergeSort inOrder else rest
    for name in names do
      if (s.functions.get? name).isSome then
        if rest.isEmpty then writeLine 1 (octets "declare -f " ++ name) else writeLine 1 name
      else setStatus 1
  else if rest.isEmpty && has 'p' || rest.isEmpty && !isLocal then
    let wanted := "aAilnrtux".toList.filter has
    listVariables "declare" fun v =>
      wanted.all fun c => match c with
        | 'a' => v.letters.contains 'a'
        | 'A' => v.letters.contains 'A'
        | c => v.marks.contains c
  else if has 'p' then
    for name in rest do
      match s.own? name with
      | some v => writeLine 1 (v.declaration "declare" name)
      | none => match s.held? name with
        | some held => writeLine 1 ((Variable.mk held []).declaration "declare" name)
        | none => do
          complain (name ++ octets ": not found")
          setStatus 1
  else
    for arg in operands do
      orStatusOne (declareOne options true arg)
where
  orStatusOne (act : Work Unit) : Work Unit :=
    tryCatch act fun
      | .failed => setStatus 1
      | other => throw other

/-- gives variables a mark, with values where they are given -/
def mark (letter : Char) (removes : Bool) (arg : Argument) : Work Unit := do
  let (name, index, adds, value) := arg.asAssignment
  if !isName name then badName (match arg with
    | .word o => o
    | .assigned name .. => name)
  match value with
  | some value => storeAssigned name index adds value
  | none => pure ()
  let s ← get
  let name := s.resolve name
  let v := (s.own? name).getD ⟨.nothing, []⟩
  let marks := v.marks.filter (· != letter)
  modify (Session.change name { v with marks := if removes then marks else letter :: marks })

/-- marks variables, or shows the marked ones -/
def markAll (letter : Char) (known : String) (args : List Argument) : Work Unit := do
  let texts := args.map Argument.text
  let (options, rest) ← optionsOf known "" texts
  let operands := args.drop (args.length - rest.length)
  setStatus 0
  if operands.isEmpty then listVariables "declare" fun v => v.marks.contains letter
  else if options.has 'f' then pure ()
  else for arg in operands do
    if options.has 'a' || options.has 'A' then
      declare.orStatusOne (declareOne (options.given.filter (fun o => o.1 != 'p') ++ [(letter, [])]) false arg)
    else declare.orStatusOne (mark letter (options.has 'n') arg)

/-- forgets variables, values of lists, or functions -/
def unset (args : List Octets) : Work Unit := do
  let (options, names) ← optionsOf "fvn" "" args
  setStatus 0
  for o in names do
    let s ← get
    let (name, index, _, value) := splitAssignment o
    let function : Bool := (s.functions.get? o).isSome
    if options.has 'f' then modify fun s => { s with functions := s.functions.erase o }
    else if !isName name || value.isSome then
      if options.has 'v' then declare.orStatusOne (badName o)
      else modify fun s => { s with functions := s.functions.erase o }
    else
      let name := if options.has 'n' then name else s.resolve name
      match s.own? name with
      | none => if function && !options.has 'v' then modify fun s => { s with functions := s.functions.erase o }
      | some v =>
        if v.marks.contains 'r' then do
          complain (name ++ octets ": cannot unset: readonly variable")
          setStatus 1
        else match index, v.held with
          | none, _ => modify (Session.forget name)
          | some index, .map items =>
            modify (Session.change name { v with held := .map (items.filter fun i => i.1 != index) })
          | some index, held =>
            if index == ['@'] || index == ['*'] then modify (Session.forget name)
            else declare.orStatusOne do
              let items := held.asList
              let place ← placeOf name index items
              modify (Session.change name { v with held := .list (items.filter fun i => i.1 != place) })

/-! ## Reading -/

/-- the stream that a descriptor leads to, with its number -/
def inputOf (descriptor : Nat) : Work (Option (Nat × Stream)) := do
  let m ← machine
  match m.descriptors.get? descriptor with
  | some (.input id) => return some (id, (m.inputs.get? id).getD default)
  | _ => return none

/-- puts back what is left of a stream -/
def leaveInput (id : Nat) (stream : Stream) (rest : Octets) : Work Unit :=
  modifyMachine fun m => { m with inputs := m.inputs.put id { stream with rest } }

/-- the characters of an input up to a mark, as many as are wanted at most, with backslashes taken away unless they are
kept; `true` says that the mark, or as many characters, were met -/
def takeInput (raw : Bool) (mark : Option Char) : Nat → Option Nat → Octets → LineChars × Octets × Bool
  | 0, _, o => ([], o, false)
  | _, some 0, o => ([], o, true)
  | _, _, [] => ([], [], false)
  | fuel + 1, wanted, c :: rest =>
    let onward (c : Char) (free : Bool) (rest : Octets) : LineChars × Octets × Bool :=
      let (line, more) := takeInput raw mark fuel (wanted.map (· - 1)) rest
      ((c, free) :: line, more)
    if some c == mark then ([], rest, true)
    else if c == '\\' && !raw then
      match rest with
      | '\n' :: rest => takeInput raw mark fuel wanted rest
      | d :: rest => onward d false rest
      | [] => ([], [], false)
    else if c == Char.ofNat 0 then takeInput raw mark fuel wanted rest
    else onward c true rest

/-- all fields of a line -/
def allFields (separators : Octets) : Nat → LineChars → List Octets
  | 0, _ => []
  | fuel + 1, o =>
    if o.isEmpty then []
    else
      let (field, rest) := takeField separators o
      field :: allFields separators fuel rest

/-- reads a line into variables -/
def readLineInto (args : List Octets) : Work Unit := do
  let (options, names) ← optionsOf "ers" "adinNptu" args
  for name in names do
    if !isName (splitAssignment name).1 then badName name
  let descriptor ← match options.value? 'u' with
    | some o => match wholeNumber? o with
      | some n => pure n.toNat
      | none => stop 1 (o ++ octets ": invalid file descriptor specification")
    | none => pure 0
  let count (letter : Char) : Work (Option Nat) := do
    match options.value? letter with
    | some o => match wholeNumber? o with
      | some n => if n < 0 then stop 1 (o ++ octets ": invalid number") else return some n.toNat
      | none => stop 1 (o ++ octets ": invalid number")
    | none => return none
  let exact ← count 'N'
  let most ← count 'n'
  let m ← machine
  if (m.descriptors.get? descriptor).isNone then
    stop 1 (number descriptor ++ octets ": invalid file descriptor: Bad file descriptor")
  let (id, stream) := (← inputOf descriptor).getD (m.fresh, ⟨[], none⟩)
  if options.value? 't' == some ['0'] then
    setStatus 0
  else
    let mark : Option Char := match exact, options.value? 'd' with
      | some _, _ => none
      | none, some (c :: _) => some c
      | none, some [] => some (Char.ofNat 0)
      | none, none => some '\n'
    let wanted := exact.orElse fun _ => most
    let (line, rest, complete) := takeInput (options.has 'r') mark (stream.rest.length + 1) wanted stream.rest
    leaveInput id stream rest
    let separators := (← get).separators
    let whole := line.map Prod.fst
    let trimmed := dropBlankSeparators separators line
    match options.value? 'a' with
    | some name => setList name (allFields separators (line.length + 1) trimmed)
    | none =>
      if exact.isSome then
        let name := names.headD "REPLY".toList
        setText name whole
        for other in names.drop 1 do setText other []
      else if names.isEmpty then setText "REPLY".toList whole
      else for (name, value) in assignFields separators names trimmed do
        let (base, index, _, _) := splitAssignment name
        store base index false value
    setStatus (if complete then 0 else 1)

/-- the pieces of a text up to a mark each, which they end with -/
def piecesUpTo (mark : Char) : Nat → Octets → List Octets
  | 0, _ => []
  | _, [] => []
  | fuel + 1, o =>
    let piece := o.takeWhile (· != mark)
    let rest := o.drop piece.length
    (piece ++ rest.take 1) :: piecesUpTo mark fuel (rest.drop 1)

/-- reads lines into a list -/
def readLines (args : List Octets) : Work Unit := do
  let (options, names) ← optionsOf "t" "dnOsuCc" args
  let count (letter : Char) (usual : Nat) (what : String) : Work Nat := do
    match options.value? letter with
    | some o => match wholeNumber? o with
      | some n => if n < 0 then stop 1 (o ++ octets (": invalid " ++ what)) else return n.toNat
      | none => stop 1 (o ++ octets (": invalid " ++ what))
    | none => return usual
  let descriptor ← count 'u' 0 "file descriptor specification"
  let most ← count 'n' 0 "line count"
  let skipped ← count 's' 0 "line count"
  let origin ← count 'O' 0 "array origin"
  let name := names.headD "MAPFILE".toList
  if !isName name then badName name
  match ← inputOf descriptor with
  | none => do
    if ((← machine).descriptors.get? descriptor).isNone then
      stop 1 (number descriptor ++ octets ": invalid file descriptor: Bad file descriptor")
    setList name []
  | some (id, stream) => do
    let mark := match options.value? 'd' with
      | some (c :: _) => c
      | some [] => Char.ofNat 0
      | none => '\n'
    let pieces := piecesUpTo mark (stream.rest.length + 1) stream.rest
    let taken := if most = 0 then pieces else pieces.take (skipped + most)
    leaveInput id stream (stream.rest.drop (taken.flatten.length))
    let shown := (taken.drop skipped).map fun piece =>
      let piece := if options.has 't' && piece.getLast? == some mark then piece.dropLast else piece
      piece.takeWhile (· != Char.ofNat 0)
    let (name, v) ← settable name
    let before := if (options.value? 'O').isSome then v.held.asList else []
    let items := shown.mapIdx fun i o => (origin + i, o)
    keep name v (.list (items.foldl (fun all i => setItem i.1 i.2 all) before))
  setStatus 0

/-! ## Output -/

/-- writes what a builtin has to say -/
def put (status : Nat) (o : Octets) : Work Unit := do
  write 1 o
  setStatus status

/-- prints by a format, to the output or into a variable -/
def printFormatted (args : List Octets) : Work Unit := do
  let (options, operands) ← optionsOf "" "v" args
  match operands with
  | [] => misused
  | format :: rest => do
    let (out, complaints, bad) := formatted format rest
    match options.value? 'v' with
    | some target => do
      let (name, index, _, _) := splitAssignment target
      if !isName name then do
        complain ('\x60' :: target ++ octets "': not a valid identifier")
        setStatus 2
        throw .failed
      for o in complaints do complain o
      store name index false (out.takeWhile (· != Char.ofNat 0))
    | none => do
      for o in complaints do complain o
      write 1 out
    setStatus (if bad then 1 else 0)

/-- tests a condition -/
def checkTest (args : List Octets) : Work Unit := do
  match (← get).testWords 8 args with
  | .ok value => setStatus (if value then 0 else 1)
  | .error e => stop 2 e

/-! ## The state of the shell -/

/-- leaves with a status, if one is given -/
def leaveWith (args : List Octets) : Work Unit := do
  match args with
  | [] => throw .exit
  | [o] => match wholeNumber? o with
    | some n => do
      setStatus (n % 256).toNat
      throw .exit
    | none => stopShell 2 (o ++ octets ": numeric argument required")
  | _ => stopShell 1 (octets "too many arguments")

/-- leaves a function or a file with a status, if one is given -/
def returnWith (args : List Octets) : Work Unit := do
  let s ← get
  if !s.frames.any (fun f => f.line != 0) then
    stop 2 (octets "can only \x60return' from a function or sourced script")
  match args with
  | [] => throw .back
  | o :: _ => match wholeNumber? o with
    | some n => do
      setStatus (n % 256).toNat
      throw .back
    | none => do
      complain (o ++ octets ": numeric argument required")
      setStatus 2
      throw .back

/-- leaves loops, as many as are running at most -/
def leaveLoops (args : List Octets) (leave : Nat → Leave) : Work Unit := do
  let m ← machine
  setStatus 0
  if m.loops == 0 then complain (octets "only meaningful in a \x60for', \x60while', or \x60until' loop")
  else match args with
    | [] => throw (leave 1)
    | [o] => match wholeNumber? o with
      | some n =>
        if n ≤ 0 then
          complain (o ++ octets ": loop count out of range")
          setStatus 1
          throw (.out m.loops)
        else throw (leave (min n.toNat m.loops))
      | none => stopShell 128 (o ++ octets ": numeric argument required")
    | _ => stopShell 1 (octets "too many arguments")

/-- drops arguments -/
def shiftArguments (args : List Octets) : Work Unit := do
  let n ← match args with
    | [] => pure 1
    | [o] => match wholeNumber? o with
      | some n => if n < 0 then stop 1 (o ++ octets ": shift count out of range") else pure n.toNat
      | none => stop 1 (o ++ octets ": numeric argument required")
    | _ => stopShell 1 (octets "too many arguments")
  let m ← machine
  if n ≤ m.args.length then modifyMachine fun m => { m with args := m.args.drop n, status := 0 }
  else do
    if (← get).hasSetting "shift_verbose" then complain (number n ++ octets ": shift count out of range")
    setStatus 1

/-- turns a switch on or off -/
def Session.turn (on : Bool) (name : String) (s : Session) : Session :=
  match (switchTable.find? fun t => t.1 == name).bind Prod.snd with
  | some c => { s with machine := s.machine.switch on c }
  | none => { s with settings := if on then name :: s.settings.filter (· != name) else s.settings.filter (· != name) }

/-- the switches with what they are -/
def listSwitches (asCommands : Bool) : Work Unit := do
  let s ← get
  for (name, _) in switchTable do
    let on := (s.switch? name).getD false
    if asCommands then writeLine 1 (octets ((if on then "set -o " else "set +o ") ++ name))
    else writeLine 1 (octets name ++ List.replicate (15 - name.length) ' ' ++ octets (if on then "\ton" else "\toff"))

/-- turns switches on and off as arguments say; gives the arguments that are left, if any were given as such -/
def applySwitches : Nat → List Octets → Work (Option (List Octets))
  | 0, _ => return none
  | _, [] => return none
  | fuel + 1, arg :: rest =>
    let letters (on : Bool) (chars : Octets) : Work (Option (List Octets)) := do
      let mut rest := rest
      for c in chars do
        if c == 'o' then
          match rest with
          | [] => listSwitches (!on)
          | name :: more => do
            rest := more
            let name := String.ofList name
            if switchTable.any fun t => t.1 == name then modify (Session.turn on name)
            else stop 1 (octets (name ++ ": invalid option name"))
        else if switchTable.any fun t => t.2 == some c then modifyMachine (Machine.switch on c)
        else do
          complain ((if on then '-' else '+') :: c :: octets ": invalid option")
          misused
      applySwitches fuel rest
    match arg with
    | ['-', '-'] => return some rest
    | ['-'] => do
      modifyMachine fun m => (m.switch false 'x').switch false 'v'
      return if rest.isEmpty then none else some rest
    | '-' :: chars => letters true chars
    | '+' :: chars => if chars.isEmpty then return some (arg :: rest) else letters false chars
    | _ => return some (arg :: rest)

/-- sets switches and arguments, or shows the variables -/
def setUp (args : List Octets) : Work Unit := do
  setStatus 0
  if args.isEmpty then
    let s ← get
    for name in s.names false do
      match s.held? name with
      | some held => writeLine 1 (name ++ '=' :: held.listed listedValue)
      | none => pure ()
  else match ← applySwitches (args.length + 1) args with
    | some rest => modifyMachine fun m => { m with args := rest }
    | none => pure ()

/-- the settings, each with whether it is on at first -/
def settingTable : List (String × Bool) :=
  [("autocd", false), ("assoc_expand_once", false), ("cdable_vars", false), ("cdspell", false), ("checkhash", false),
    ("checkjobs", false), ("checkwinsize", true), ("cmdhist", true), ("compat31", false), ("compat32", false),
    ("compat40", false), ("compat41", false), ("compat42", false), ("compat43", false), ("compat44", false),
    ("complete_fullquote", true), ("direxpand", false), ("dirspell", false), ("dotglob", false), ("execfail", false),
    ("expand_aliases", false), ("extdebug", false), ("extglob", false), ("extquote", true), ("failglob", false),
    ("force_fignore", true), ("globasciiranges", true), ("globskipdots", true), ("globstar", false),
    ("gnu_errfmt", false), ("histappend", false), ("histreedit", false), ("histverify", false), ("hostcomplete", true),
    ("huponexit", false), ("inherit_errexit", false), ("interactive_comments", true), ("lastpipe", false),
    ("lithist", false), ("localvar_inherit", false), ("localvar_unset", false), ("login_shell", false),
    ("mailwarn", false), ("no_empty_cmd_completion", false), ("nocaseglob", false), ("nocasematch", false),
    ("noexpand_translation", false), ("nullglob", false), ("patsub_replacement", true), ("progcomp", true),
    ("progcomp_alias", false), ("promptvars", true), ("restricted_shell", false), ("shift_verbose", false),
    ("sourcepath", true), ("varredir_close", false), ("xpg_echo", false)]

/-- turns settings on and off, or shows them -/
def changeSettings (args : List Octets) : Work Unit := do
  let (options, names) ← optionsOf "opqsu" "" args
  let s ← get
  let known := if options.has 'o' then switchTable.map Prod.fst else settingTable.map Prod.fst
  let isOn (s : Session) (name : String) : Bool :=
    if options.has 'o' then (s.switch? name).getD false else s.hasSetting name
  let show_ (name : String) : Work Unit := do
    let on := isOn (← get) name
    if options.has 'p' then
      let commands := if options.has 'o' then ("set -o ", "set +o ") else ("shopt -s ", "shopt -u ")
      writeLine 1 (octets ((if on then commands.1 else commands.2) ++ name))
    else writeLine 1 (octets name ++ List.replicate (15 - name.length) ' ' ++ octets (if on then "\ton" else "\toff"))
  setStatus 0
  if names.isEmpty then
    let wanted := known.filter fun n =>
      if options.has 's' then isOn s n else if options.has 'u' then !isOn s n else true
    if !options.has 'q' then for name in wanted do show_ name
  else for o in names do
    let name := String.ofList o
    if !known.contains name then do
      complain (octets (name ++ ": invalid " ++ (if options.has 'o' then "option name" else "shell option name")))
      setStatus 1
    else if options.has 's' || options.has 'u' then
      let on := options.has 's'
      if options.has 'o' then modify (Session.turn on name)
      else modify fun s =>
        let others := s.settings.filter (· != name)
        { s with settings := if on then name :: others else others }
    else do
      if !options.has 'q' then show_ name
      if !isOn (← get) name then setStatus 1

/-! ## Folders -/

/-- goes to another folder; gives whether that could be done -/
def goTo (target : Octets) (physical : Bool) : Work Unit := do
  let m ← machine
  let logical := folderText m.folder target
  let path := pathOf (if physical then target else logical)
  match m.files.node path with
  | .error e => stop 1 (target ++ octets ": " ++ briefCause e)
  | .ok (.folder _) =>
    match m.files.locate path true with
    | .ok (.found names) => do
      let folder := if physical then placeText names else logical
      modifyMachine fun m => { m with files := { m.files with here := names }, folder }
      let export_ (name : String) (value : Octets) : Work Unit := do
        let name := name.toList
        let v := ((← get).own? name).getD ⟨.nothing, []⟩
        modify (Session.change name ⟨.single value, if v.marks.contains 'x' then v.marks else 'x' :: v.marks⟩)
      export_ "OLDPWD" m.folder
      export_ "PWD" folder
      setStatus 0
    | _ => stop 1 (target ++ octets ": No such file or directory")
  | .ok _ => stop 1 (target ++ octets ": Not a directory")

/-- goes to the folder that arguments name -/
def changeFolder (args : List Octets) : Work Unit := do
  let (options, operands) ← optionsOf "LPe@" "" args
  let s ← get
  let physical := options.last? "LP" == some 'P'
  let needed (name : String) : Work Octets := match s.value? name.toList with
    | some o => return o
    | none => stop 1 (octets (name ++ " not set"))
  match operands with
  | [] => do goTo (← needed "HOME") physical
  | [['-']] => do
    goTo (← needed "OLDPWD") physical
    writeLine 1 (← machine).folder
  | [[]] => setStatus 0
  | [o] => goTo o physical
  | _ => stop 1 (octets "too many arguments")

/-- shows the folder that the shell is in -/
def showFolder (args : List Octets) : Work Unit := do
  let (options, _) ← optionsOf "LP" "" args
  let m ← machine
  put 0 ((if options.last? "LP" == some 'P' then placeText m.files.here else m.folder) ++ ['\n'])

/-- a folder with a tilde in place of the home folder -/
def Session.brief (s : Session) (folder : Octets) : Octets :=
  match s.value? "HOME".toList with
  | some home =>
    if home.isEmpty || home == ['/'] then folder
    else if folder == home then ['~']
    else if (home ++ ['/']).isPrefixOf folder then '~' :: folder.drop home.length
    else folder
  | none => folder

/-- the place in a stack of folders that an argument means, counted from the left after a plus and from the right after
a dash -/
def stackPlace? (arg : Octets) (count : Nat) : Option (Option Nat) :=
  match arg with
  | sign :: digits =>
    if (sign != '+' && sign != '-') || digits.isEmpty || !digits.all Char.isDigit then none
    else
      let n := (digitsIn 10 digits).1
      some (if count ≤ n then none else some (if sign == '+' then n else count - 1 - n))
  | [] => none

/-- the place that an argument means, which has to be in the stack -/
def needPlace (arg shown : Octets) : Work Nat := do
  let s ← get
  match stackPlace? arg (s.stack.length + 1) with
  | some (some n) => return n
  | some none =>
    stop 1 (if s.stack.isEmpty then octets "directory stack empty"
      else shown ++ octets ": directory stack index out of range")
  | none => do
    complain (arg ++ octets ": invalid number")
    setStatus 1
    misused

/-- shows the folders that were left -/
def showStack (args : List Octets) : Work Unit := do
  let isPlace (o : Octets) : Bool := (stackPlace? o 0).isSome
  let letters := (args.filter fun o => o.head? == some '-' && !isPlace o).flatMap (List.drop 1)
  match args.find? fun o => !isPlace o && (o.head? != some '-' || !(o.drop 1).all fun c => "clpv".toList.contains c) with
  | some o => do
    complain (o ++ octets (if o.head? == some '-' || o.head? == some '+' then ": invalid number" else ": invalid option"))
    setStatus 1
    misused
  | none => pure ()
  let s ← get
  setStatus 0
  if letters.contains 'c' then modify fun s => { s with stack := [] }
  else
    let all := (s.machine.folder :: s.stack).map fun f => if letters.contains 'l' then f else s.brief f
    let numbered : List (Octets × Nat) := all.zipIdx
    let shown : List (Octets × Nat) ← match args.find? isPlace with
      | some o => do
        let n ← needPlace o (o.drop 1)
        pure (numbered.filter fun e => e.2 == n)
      | none => pure numbered
    if letters.contains 'v' then
      for (folder, i) in shown do writeLine 1 (padLeft 2 (number i) ++ octets "  " ++ folder)
    else writeLine 1 (joinWith (if letters.contains 'p' then ['\n'] else [' ']) (shown.map Prod.fst))

/-- goes to another folder and remembers the one before, or turns the stack so that another one is on top -/
def pushFolder (args : List Octets) : Work Unit := do
  let s ← get
  let stays : Bool := args.head? == some ['-', 'n']
  let args := if stays then args.drop 1 else args
  let args := if args.head? == some ['-', '-'] then args.drop 1 else args
  match args with
  | [] => match s.stack with
    | [] => stop 1 (octets "no other directory")
    | top :: rest => do
      goTo top false
      modify fun after => { after with stack := s.machine.folder :: rest }
      showStack []
  | target :: others =>
    if !others.isEmpty then stop 1 (octets "too many arguments")
    else if target.head? == some '+' || target.head? == some '-' then do
      if (stackPlace? target 0).isNone then do
        complain (target ++ octets ": invalid number")
        setStatus 1
        misused
      let n ← needPlace target target
      let all := s.machine.folder :: s.stack
      let turned := all.drop n ++ all.take n
      if !stays then goTo (turned.headD []) false
      modify fun after => { after with stack := turned.drop 1 }
      showStack []
    else do
      if !stays then goTo target false
      modify fun after => { after with stack := (if stays then target else s.machine.folder) :: s.stack }
      showStack []

/-- goes back to the folder that was remembered last, or forgets another one -/
def popFolder (args : List Octets) : Work Unit := do
  let s ← get
  let stays : Bool := args.head? == some ['-', 'n']
  let args := if stays then args.drop 1 else args
  match args, s.stack with
  | [], [] => stop 1 (octets "directory stack empty")
  | [], top :: rest => do
    if !stays then goTo top false
    modify fun after => { after with stack := rest }
    showStack []
  | arg :: _, _ => do
    if (stackPlace? arg 0).isNone then do
      complain (arg ++ octets ": invalid argument")
      setStatus 1
      misused
    match ← needPlace arg arg with
    | 0 => do
      if !stays then goTo (s.stack.headD []) false
      modify fun after => { after with stack := s.stack.drop 1 }
    | n + 1 => modify fun after => { after with stack := s.stack.take n ++ s.stack.drop (n + 1) }
    showStack []

/-- shows or sets the permissions that new files do not get -/
def changeMask (args : List Octets) : Work Unit := do
  let (options, operands) ← optionsOf "Sp" "" args
  match operands with
  | [] => do
    let m ← machine
    let rights (shift : Nat) : Octets :=
      let bits := 7 - m.mask / shift % 8
      (if bits / 4 % 2 = 1 then ['r'] else []) ++ (if bits / 2 % 2 = 1 then ['w'] else [])
        ++ (if bits % 2 = 1 then ['x'] else [])
    let shown := if options.has 'S' then
        octets "u=" ++ rights 64 ++ octets ",g=" ++ rights 8 ++ octets ",o=" ++ rights 1
      else octal 4 m.mask
    let command := if options.has 'p' then octets (if options.has 'S' then "umask -S " else "umask ") else []
    put 0 (command ++ shown ++ ['\n'])
  | o :: _ =>
    if (o.head?.map Char.isDigit).getD false then
      if o.all (fun c => (digitOf? 8 c).isSome) && (digitsIn 8 o).1 < 4096 then do
        modifyMachine fun m => { m with mask := (digitsIn 8 o).1 % 512 }
        setStatus 0
      else stop 1 (o ++ octets ": octal number out of range")
    else do
      let m ← machine
      let clauses := cutAt ',' o
      let mut mask := m.mask
      for clause in clauses do
        let who := clause.takeWhile fun c => "ugoa".toList.contains c
        match clause.drop who.length with
        | operator :: letters =>
          if !"=+-".toList.contains operator then
            stop 1 ('\x60' :: operator :: octets "': invalid symbolic mode operator")
          let bits := letters.foldl (fun (n : Nat) c => n ||| (match c with
            | 'r' => 4
            | 'w' => 2
            | 'x' => 1
            | _ => 0)) 0
          let shifts : List Nat := if who.isEmpty || who.contains 'a' then [64, 8, 1]
            else who.map fun c => if c == 'u' then 64 else if c == 'g' then 8 else 1
          for shift in shifts do
            let own := 7 - mask / shift % 8
            let allowed := if operator == '=' then bits else if operator == '+' then own ||| bits else own &&& (7 - bits)
            mask := mask - (mask / shift % 8) * shift + (7 - allowed) * shift
        | [] => stop 1 (octets "\x60': invalid symbolic mode operator")
      modifyMachine fun m => { m with mask }
      setStatus 0

/-! ## Signals and jobs -/

/-- the number of a signal that a trap can have, with those that stand for events of the shell -/
def trapNumber? (o : Octets) : Option Nat :=
  let name := o.map Char.toUpper
  let name := if "SIG".toList.isPrefixOf name then name.drop 3 else name
  match String.ofList name with
  | "EXIT" => some 0
  | "ERR" => some 101
  | "DEBUG" => some 102
  | "RETURN" => some 103
  | _ => signalNumber? name

/-- the name of what a trap is for -/
def trapName (n : Nat) : Octets :=
  match n with
  | 0 => octets "EXIT"
  | 101 => octets "ERR"
  | 102 => octets "DEBUG"
  | 103 => octets "RETURN"
  | n => octets "SIG" ++ signalName n

/-- the list of signals, five to a line -/
def signalTable : Octets :=
  let named := (List.range 64).map fun i =>
    let n := i + 1
    let name := if n = 16 then octets "STKFLT"
      else if n = 34 then octets "RTMIN"
      else if 34 < n && n ≤ 49 then octets "RTMIN+" ++ number (n - 34 : Nat)
      else if 49 < n && n < 64 then octets "RTMAX-" ++ number (64 - n : Nat)
      else if n = 64 then octets "RTMAX"
      else signalName n
    (n, name)
  let shown := (named.filter fun s => s.1 != 32 && s.1 != 33).map fun (n, name) =>
    padLeft 2 (number n) ++ octets ") SIG" ++ name
  let lines (items : List (Octets × Nat)) : Octets := items.flatMap fun (o, i) => o ++ (if i % 5 = 4 then ['\n'] else ['\t'])
  lines shown.zipIdx ++ ['\n']

/-- sets what is done at signals, or shows it -/
def setTraps (args : List Octets) : Work Unit := do
  let (options, operands) ← optionsOf "lp" "" args
  let m ← machine
  setStatus 0
  let show_ (n : Nat) : Work Unit := match m.traps.get? n with
    | some action => writeLine 1 (octets "trap -- " ++ betweenQuotes action ++ ' ' :: trapName n)
    | none => pure ()
  let change (action : Option Octets) (signals : List Octets) : Work Unit := do
    for o in signals do
      match trapNumber? o with
      | some n => modifyMachine fun m => { m with traps := match action with
        | some text => m.traps.put n text
        | none => m.traps.erase n }
      | none => do
        complain (o ++ octets ": invalid signal specification")
        setStatus 1
  if options.has 'l' then write 1 signalTable
  else if options.has 'p' || operands.isEmpty then
    let wanted := if operands.isEmpty then (m.traps.entries.map Prod.fst).mergeSort (· ≤ ·)
      else operands.filterMap trapNumber?
    for n in wanted do show_ n
  else match operands with
    | [one] => if (trapNumber? one).isSome then change none [one] else misused
    | action :: signals =>
      if action == ['-'] then change none signals
      else if action.all Char.isDigit && !action.isEmpty then change none (action :: signals)
      else change (some action) signals
    | [] => pure ()

/-- waits for jobs -/
def waitFor (args : List Octets) : Work Unit := do
  let (_, operands) ← optionsOf "fn" "p" args
  setStatus 0
  for o in operands do
    let m ← machine
    match o with
    | '%' :: digits =>
      match (if digits.all Char.isDigit && !digits.isEmpty then some (digitsIn 10 digits).1 else none) with
      | some n =>
        if 0 < n && n ≤ m.jobs.length then setStatus (m.jobStatus (n - 1))
        else do
          complain (o ++ octets ": no such job")
          setStatus 127
      | none => do
        complain (o ++ octets ": no such job")
        setStatus 127
    | o =>
      if o.isEmpty || !o.all Char.isDigit then do
        complain ('\x60' :: o ++ octets "': not a pid or valid job spec")
        setStatus 1
      else match m.jobOf? (digitsIn 10 o).1 with
        | some job => setStatus (m.jobStatus job)
        | none => do
          complain (octets "pid " ++ o ++ octets " is not a child of this shell")
          setStatus 127

/-! ## Names -/

/-- what a name stands for -/
inductive Meaning where
  | keyword
  | alias (body : Octets)
  | function
  | builtin
  | program (path : Octets)

/-- the programs that a name leads to -/
def Session.programs (s : Session) (name : Octets) : List Octets :=
  let files := s.machine.files
  if name.contains '/' then
    match findProgram files [] name with
    | .ok (path, _) => [path]
    | .error .badFormat => [name]
    | .error _ => []
  else s.folders.filterMap fun folder =>
    let path := if folder.isEmpty then octets "./" ++ name else folder ++ '/' :: name
    match programAt files path with
    | .ok _ => some path
    | .error .badFormat => some path
    | .error _ => none

/-- all that a name stands for, what counts first -/
def Session.meanings (s : Session) (functions : Bool) (name : Octets) : List Meaning :=
  let asText := String.ofList name
  (if s.hasSetting "expand_aliases" then ((s.machine.aliases.get? name).map Meaning.alias).toList else [])
    ++ (if reservedWords.contains asText then [Meaning.keyword] else [])
    ++ (if functions && (s.functions.get? name).isSome then [Meaning.function] else [])
    ++ (if builtinNames.contains asText then [Meaning.builtin] else [])
    ++ (s.programs name).map Meaning.program

/-- says what a name stands for -/
def describeMeaning (name : Octets) : Meaning → Work Unit
  | .keyword => writeLine 1 (name ++ octets " is a shell keyword")
  | .alias body => writeLine 1 (name ++ octets " is aliased to \x60" ++ body ++ ['\''])
  | .function => writeLine 1 (name ++ octets " is a function")
  | .builtin => writeLine 1 (name ++ octets " is a shell builtin")
  | .program path => do
    let hashed := (← machine).tracked.contains name
    writeLine 1 (name ++ (if hashed then octets " is hashed (" ++ path ++ [')'] else octets " is " ++ path))

/-- says what names stand for -/
def describe (args : List Octets) : Work Unit := do
  let (options, names) ← optionsOf "afptP" "" args
  setStatus 0
  for name in names do
    let s ← get
    let programs := (s.programs name).map Meaning.program
    let all := if options.has 'P' then programs else s.meanings (!options.has 'f') name
    let shown := if options.has 'a' then all else all.take 1
    if shown.isEmpty then do
      if !options.has 't' && !options.has 'p' && !options.has 'P' then complain (name ++ octets ": not found")
      setStatus 1
    else for meaning in shown do
      if options.has 't' then writeLine 1 (octets (match meaning with
        | .keyword => "keyword"
        | .alias _ => "alias"
        | .function => "function"
        | .builtin => "builtin"
        | .program _ => "file"))
      else if options.has 'p' || options.has 'P' then match meaning with
        | .program path => writeLine 1 path
        | _ => pure ()
      else describeMeaning name meaning

/-- says how names would be run -/
def locate (verbose : Bool) (names : List Octets) : Work Unit := do
  let s ← get
  let mut found := false
  for name in names do
    match (s.meanings true name).head? with
    | none => if verbose then complain (name ++ octets ": not found")
    | some meaning => do
      found := true
      if verbose then describeMeaning name meaning
      else match meaning with
        | .program path => writeLine 1 path
        | .alias body => writeLine 1 (octets "alias " ++ name ++ '=' :: betweenQuotes body)
        | _ => writeLine 1 name
  setStatus (if found then 0 else 1)

/-- sets aliases or shows them -/
def setAliases (args : List Octets) : Work Unit := do
  let (_, operands) ← optionsOf "p" "" args
  setStatus 0
  let show_ (name body : Octets) : Work Unit := writeLine 1 (octets "alias " ++ name ++ '=' :: betweenQuotes body)
  if operands.isEmpty then
    for (name, body) in (← machine).aliases.entries.mergeSort fun a b => inOrder a.1 b.1 do show_ name body
  else for arg in operands do
    let name := arg.takeWhile (· != '=')
    if name.length < arg.length then
      modifyMachine fun m => { m with aliases := m.aliases.put name (arg.drop (name.length + 1)) }
    else match (← machine).aliases.get? name with
      | some body => show_ name body
      | none => do
        complain (name ++ octets ": not found")
        setStatus 1

/-- forgets aliases -/
def unsetAliases (args : List Octets) : Work Unit := do
  let (options, names) ← optionsOf "a" "" args
  setStatus 0
  if options.has 'a' then modifyMachine fun m => { m with aliases := .empty }
  else if names.isEmpty then misused
  else for name in names do
    if ((← machine).aliases.get? name).isSome then
      modifyMachine fun m => { m with aliases := m.aliases.erase name }
    else do
      complain (name ++ octets ": not found")
      setStatus 1

/-- takes the next option of a script -/
def getOption (args : List Octets) : Work Unit := do
  let (_, operands) ← optionsOf "" "" args
  match operands with
  | known :: name :: rest => do
    let m ← machine
    let words := if rest.isEmpty then m.args else rest
    let found := optionStep known words (if m.place.index ≤ words.length + 1 then m.place else ⟨1, 0⟩)
    match found.complaint with
    | some text =>
      if (← get).value? "OPTERR".toList != some ['0'] then
        let letter := (text.filter fun c => !" :".toList.contains c).getLast?
        let shown := if "Illegal".toList.isPrefixOf text then
            octets "illegal option -- " ++ letter.toList
          else octets "option requires an argument -- " ++ ((text.drop "No arg for -".length).take 1)
        writeLine 2 (m.name ++ octets ": " ++ shown)
    | none => pure ()
    match found.argument with
    | some value =>
      if value.isEmpty && !found.finished && found.letter != ':' then modify (Session.forget "OPTARG".toList)
      else setText "OPTARG".toList value
    | none => modify (Session.forget "OPTARG".toList)
    setText "OPTIND".toList (number found.place.index)
    modifyMachine fun m => { m with place := found.place }
    setText name [found.letter]
    setStatus (if found.finished then 1 else 0)
  | _ => misused

/-- calculates expressions; the last one gives the status -/
def calculateAll (args : List Octets) : Work Unit := do
  if args.isEmpty then stop 1 (octets "expression expected")
  let mut last : Int := 0
  for o in args do last := (← calculated o)
  setStatus (if last == 0 then 1 else 0)

/-- says where the running function was called -/
def showCaller (args : List Octets) : Work Unit := do
  let s ← get
  let calls := s.frames.filter fun f => f.line != 0
  let n := ((args.head?.bind wholeNumber?).getD 0).toNat
  match calls[n]? with
  | none => setStatus 1
  | some frame => do
    let outer := ((calls[n + 1]?).map Frame.file).getD (octets "NULL")
    if args.isEmpty then writeLine 1 (number frame.line ++ ' ' :: outer)
    else
      let name := ((calls[n + 1]?).map Frame.name).getD (octets "main")
      writeLine 1 (number frame.line ++ ' ' :: name ++ ' ' :: outer)
    setStatus 0

/-- runs a builtin that runs nothing itself -/
def runBuiltin (name : Octets) (given : List Argument) : Work Unit := do
  let args := given.map Argument.text
  match String.ofList name with
  | ":" | "true" => setStatus 0
  | "false" => setStatus 1
  | "exit" | "logout" => leaveWith args
  | "return" => returnWith args
  | "break" => leaveLoops args .out
  | "continue" => leaveLoops args .again
  | "shift" => shiftArguments args
  | "set" => setUp args
  | "shopt" => changeSettings args
  | "unset" => unset args
  | "export" => markAll 'x' "fnp" given
  | "readonly" => markAll 'r' "aAfp" given
  | "declare" | "typeset" | "local" => declare given
  | "trap" => setTraps args
  | "times" => put 0 (octets "0m0.000s 0m0.000s\n0m0.000s 0m0.000s\n")
  | "cd" => changeFolder args
  | "pwd" => showFolder args
  | "dirs" => showStack args
  | "pushd" => pushFolder args
  | "popd" => popFolder args
  | "echo" => put 0 (echoOutput args)
  | "printf" => printFormatted args
  | "test" => checkTest args
  | "[" =>
    if args.getLast? == some [']'] then checkTest args.dropLast
    else stop 2 (octets "missing \x60]'")
  | "read" => readLineInto args
  | "mapfile" | "readarray" => readLines args
  | "getopts" => getOption args
  | "umask" => changeMask args
  | "wait" => waitFor args
  | "type" => describe args
  | "alias" => setAliases args
  | "unalias" => unsetAliases args
  | "let" => calculateAll args
  | "caller" => showCaller args
  | "hash" => do
    setStatus 0
    for o in args do
      if o == octets "-r" then modifyMachine fun m => { m with tracked := [] }
      else if ((← get).meanings true o).isEmpty then
        complain (o ++ octets ": not found")
        setStatus 1
  | "ulimit" => onMachine (changeLimit args)
  | "fg" => stop 1 (octets "no job control")
  | "bg" => stop 1 (octets "no job control")
  | _ => setStatus 0

end ScriptBridge.Shell.Extended
