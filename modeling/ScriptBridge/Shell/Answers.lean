/-
Utilities that answer from their arguments and their surroundings alone: `echo`, `printf`, `test`, `basename`,
`dirname`, `pwd`, `printenv` and the like.
-/
import ScriptBridge.Shell.Condition
import ScriptBridge.Shell.Printing
import ScriptBridge.Shell.Program
import ScriptBridge.Shell.Utility

namespace ScriptBridge.Shell

/-- a text with its escapes replaced, codes in base sixteen among them; `true` when an escape ended the output -/
def unescapeAll : Nat → Octets → Octets × Bool
  | 0, _ => ([], false)
  | _, [] => ([], false)
  | _, '\\' :: 'c' :: _ => ([], true)
  | fuel + 1, '\\' :: 'x' :: rest =>
    let (n, length) := digitsIn 16 (rest.take 2)
    let (more, stopped) := unescapeAll fuel (rest.drop length)
    (if length = 0 then '\\' :: 'x' :: more else Char.ofNat n :: more, stopped)
  | fuel + 1, '\\' :: rest =>
    let found := match rest with
      | '0' :: rest => some (octalEscape rest)
      | rest => escapedChar? rest
    let (more, stopped) := unescapeAll fuel ((found.map Prod.snd).getD rest)
    ((found.map Prod.fst).getD '\\' :: more, stopped)
  | fuel + 1, c :: rest =>
    let (more, stopped) := unescapeAll fuel rest
    (c :: more, stopped)

/-- prints its arguments; escapes only count when they are asked for -/
def echo (c : Call) : Running UtilityRun :=
  let isOption (a : Octets) : Bool := match a with
    | '-' :: letter :: more => (letter :: more).all fun c => c == 'n' || c == 'e' || c == 'E'
    | _ => false
  let options := c.args.takeWhile isOption
  let joined := joinWith [' '] (c.args.drop options.length)
  let escapes := (options.flatten.filter fun c => c == 'e' || c == 'E').getLast? == some 'e'
  let (out, stopped) := if escapes then unescapeAll (joined.length + 1) joined else (joined, false)
  return c.done 0 (if stopped || options.flatten.contains 'n' then out else out ++ ['\n'])

/-- prints its arguments in a format -/
def printf (c : Call) : Running UtilityRun := do
  let args := match c.args with
    | ['-', '-'] :: rest => rest
    | all => all
  match args with
  | [] => c.misuse 1 (octets "missing operand")
  | format :: args =>
    let (out, complaints, status) := printfText true format args
    return { c.done (min status 1) out with err := complaints.flatMap fun w => c.complaint w.full }

/-- checks a condition -/
def testUtility (c : Call) : Running UtilityRun := do
  let words ← if lastPart c.name != ['['] then pure c.args
    else if c.args.getLast? == some [']'] then pure c.args.dropLast
    else c.refuse 2 (octets "missing ']'")
  let (status, complaint) := test c.files (words.map fun w => if w == ['=', '='] then ['='] else w)
  let illegal := "Illegal number: ".toList
  if complaint.isEmpty then return c.done status []
  else if illegal.isPrefixOf complaint then
    c.refuse 2 (octets "invalid integer '" ++ complaint.drop illegal.length ++ ['\''])
  else c.refuse 2 complaint

/-- last parts of paths -/
def basename (c : Call) : Running UtilityRun := do
  let (o, operands) ← c.parse
    { flags := "az", valued := "s", wrong := 1, leading := true
      words := [("multiple", 'a'), ("suffix", 's'), ("zero", 'z')] }
  c.needOperand operands "operand"
  let mark := if o.has 'z' then Char.ofNat 0 else '\n'
  if o.has 'a' || o.has 's' then
    return c.done 0 (operands.flatMap fun a => lastPartWithout ((o.value? 's').getD []) a ++ [mark])
  else match operands with
    | _ :: _ :: extra :: _ => c.misuse 1 (octets "extra operand '" ++ extra ++ ['\''])
    | operands => return c.done 0 (lastPartWithout ((operands[1]?).getD []) (operands.headD []) ++ [mark])

/-- paths without their last parts -/
def dirname (c : Call) : Running UtilityRun := do
  let (o, operands) ← c.parse { flags := "z", valued := "", words := [("zero", 'z')], wrong := 1, leading := false }
  c.needOperand operands "operand"
  return c.done 0 (operands.flatMap fun a => partsBefore a ++ [if o.has 'z' then Char.ofNat 0 else '\n'])

/-- the folder that relative paths start from -/
def pwd (c : Call) : Running UtilityRun := do
  let (_, operands) ← c.parse
    { flags := "LP", valued := "", words := [("logical", 'L'), ("physical", 'P')], wrong := 1, leading := false }
  let err := if operands.isEmpty then [] else c.complaint (octets "ignoring non-option arguments")
  return { c.done 0 (placeText c.files.here ++ ['\n']) with err }

/-- the values of variables, or all variables -/
def printenv (c : Call) : Running UtilityRun := do
  let (o, names) ← c.parse { flags := "0", valued := "", words := [("null", '0')], wrong := 2, leading := true }
  let mark := if o.has '0' then Char.ofNat 0 else '\n'
  if names.isEmpty then return c.done 0 (c.environment.flatMap fun (n, v) => n ++ '=' :: v ++ [mark])
  else
    let values := names.map fun name => (c.environment.find? fun e => e.1 == name).map Prod.snd
    return c.done (if values.all Option.isSome then 0 else 1) (values.flatMap fun v => v.elim [] (· ++ [mark]))

/-- the time that an operand of `sleep` names, in milliseconds -/
def duration? (o : Octets) : Option Nat :=
  match decimalNumeral? false o with
  | none => none
  | some (x, rest) =>
    let unit? : Option Nat := match rest with
      | [] => some 1
      | ['s'] => some 1
      | ['m'] => some 60
      | ['h'] => some 3600
      | ['d'] => some 86400
      | _ => none
    unit?.map fun unit => ((x.mul (.ofInt (unit * 1000 : Nat))).toInt?.getD 0).toNat

/-- waits; time does not count here -/
def sleep (c : Call) : Running UtilityRun := do
  let (_, operands) ← c.parse noKnown
  c.needOperand operands "operand"
  let wrong := operands.filter fun o => (duration? o).isNone
  if wrong.isEmpty then return c.done 0 []
  else
    let complaints := wrong.flatMap fun o => c.complaint (octets "invalid time interval '" ++ o ++ ['\''])
    return { c.done 1 [] with err := complaints ++ c.hint }
where
  /-- no options at all -/
  noKnown : Known := { flags := "", valued := "", words := [], wrong := 1, leading := false }

/-- prints the same line on and on, until its reader is taken to be gone -/
def yes (c : Call) : Running UtilityRun := do
  let (_, args) ← c.parse { flags := "", valued := "", words := [], wrong := 1, leading := false }
  let line := (if args.isEmpty then ['y'] else joinWith [' '] args) ++ ['\n']
  return c.done (128 + 13) (List.replicate (endlessSize / line.length + 1) line).flatten

/-- the paths of programs -/
def which (c : Call) : Running UtilityRun := do
  let (o, names) ← c.parse { flags := "as", valued := "", words := [], wrong := 2, leading := true }
  let folders := match c.environment.find? fun e => e.1 == "PATH".toList with
    | some (_, folders) => cutAt ':' folders
    | none => cutAt ':' shellFolders
  let found := names.map fun name =>
    if o.has 'a' && !name.contains '/' then
      folders.filterMap fun folder => (findProgram c.files [folder] name).toOption.map Prod.fst
    else ((findProgram c.files folders name).toOption.map Prod.fst).toList
  return c.done (if names.isEmpty || found.any List.isEmpty then 1 else 0)
    (if o.has 's' then [] else ofLines found.flatten)

/-- the user -/
def userName : Octets := octets "root"

/-- who the user is -/
def id (c : Call) : Running UtilityRun := do
  let (o, _) ← c.parse
    { flags := "ugGnra", valued := "", wrong := 1, leading := false
      words := [("user", 'u'), ("group", 'g'), ("groups", 'G'), ("name", 'n'), ("real", 'r')] }
  if o.has 'u' || o.has 'g' || o.has 'G' then return c.done 0 ((if o.has 'n' then userName else ['0']) ++ ['\n'])
  else
    let both := octets "0(" ++ userName ++ [')']
    return c.done 0 (octets "uid=" ++ both ++ octets " gid=" ++ both ++ octets " groups=" ++ both ++ ['\n'])

/-- what the system is called -/
def uname (c : Call) : Running UtilityRun := do
  let (o, operands) ← c.parse
    { flags := "asnrvmpio", valued := "", wrong := 1, leading := false
      words := [("all", 'a'), ("kernel-name", 's'), ("nodename", 'n'), ("machine", 'm'), ("operating-system", 'o')] }
  match operands with
  | extra :: _ => c.misuse 1 (octets "extra operand '" ++ extra ++ ['\''])
  | [] => pure ()
  let parts : List (Char × String) := [('s', "Linux"), ('n', "localhost"), ('m', "x86_64"), ('o', "GNU/Linux")]
  let asked := parts.filter fun p => o.has 'a' || o.has p.1 || (o.given.isEmpty && p.1 == 's')
  return c.done 0 (joinWith [' '] (asked.map fun p => octets p.2) ++ ['\n'])

/-- the name of the machine's kind -/
def arch (c : Call) : Running UtilityRun := do
  let (_, operands) ← c.parse { flags := "", valued := "", words := [], wrong := 1, leading := false }
  match operands with
  | extra :: _ => c.misuse 1 (octets "extra operand " ++ inQuotes extra)
  | [] => return c.done 0 (octets "x86_64\n")

/-- how many processors there are -/
def processors : Nat := 4

/-- how many processors can be used -/
def nproc (c : Call) : Running UtilityRun := do
  let (o, operands) ← c.parse
    { flags := "a", valued := "i", words := [("all", 'a'), ("ignore", 'i')], wrong := 1, leading := false }
  match operands with
  | extra :: _ => c.misuse 1 (octets "extra operand " ++ inQuotes extra)
  | [] => pure ()
  match o.value? 'i' with
  | none => return c.done 0 (number processors ++ ['\n'])
  | some text =>
    if text.isEmpty || !text.all Char.isDigit then c.refuse 1 (octets "invalid number: " ++ inQuotes text)
    else return c.done 0 (number (max 1 (processors - (digitsIn 10 text).1) : Nat) ++ ['\n'])

/-- the groups of users -/
def groups (c : Call) : Running UtilityRun := do
  let (_, names) ← c.parse { flags := "", valued := "", words := [], wrong := 1, leading := false }
  if names.isEmpty then return c.done 0 (userName ++ ['\n'])
  else
    let known := names.filter (· == userName)
    let err := names.flatMap fun name =>
      if name == userName then [] else c.complaint (inQuotes name ++ octets ": no such user")
    let rows := known.flatMap fun name => name ++ octets " : " ++ userName ++ ['\n']
    return { c.done (if err.isEmpty then 0 else 1) rows with err }

/-- the date, at the beginning of the count of seconds: no clock runs here -/
def date (c : Call) : Running UtilityRun := do
  let (_, operands) ← c.parse
    { flags := "uRI", valued := "dr", wrong := 1, leading := false
      words := [("utc", 'u'), ("date", 'd'), ("reference", 'r'), ("rfc-email", 'R')] }
  let rec inFormat : Octets → Octets
    | '%' :: letter :: rest =>
      let shown := match letter with
        | 'Y' => "1970"
        | 'm' => "01"
        | 'd' => "01"
        | 'j' => "001"
        | 'H' => "00"
        | 'M' => "00"
        | 'S' => "00"
        | 's' => "0"
        | 'N' => "000000000"
        | 'F' => "1970-01-01"
        | 'T' => "00:00:00"
        | 'Z' => "UTC"
        | 'z' => "+0000"
        | 'n' => "\n"
        | 't' => "\t"
        | '%' => "%"
        | _ => ""
      octets shown ++ inFormat rest
    | d :: rest => d :: inFormat rest
    | [] => []
  match operands with
  | [] => return c.done 0 (octets "Thu Jan  1 00:00:00 UTC 1970\n")
  | [('+' :: format)] => return c.done 0 (inFormat format ++ ['\n'])
  | [other] => c.refuse 1 (octets "invalid date '" ++ other ++ ['\''])
  | _ :: extra :: _ => c.misuse 1 (octets "extra operand '" ++ extra ++ ['\''])

/-- the terminal, which there is none of -/
def tty (c : Call) : Running UtilityRun := do
  let (o, _) ← c.parse { flags := "s", valued := "", words := [("silent", 's')], wrong := 2, leading := false }
  return c.done 1 (if o.has 's' then [] else octets "not a tty\n")

end ScriptBridge.Shell
