/-
Reading the arguments of the program. Arguments are read from left to right, level by level: the name of a command
starts the level of that command, and what follows belongs to it.

At a level an argument is an option, the value of the option before it, the mark `--` after which nothing is an option,
a command, or an operand. An option with its value, or an operand, is taken in when the next one comes; so of two
mistakes the earlier one is reported, except that an option nobody knows and a value that a flag cannot have are
reported at once. A command is read to its end before what its level still holds is taken in.
-/
import ScriptBridge.Cli.Options

namespace ScriptBridge.Cli

open Text

/-- why there is nothing to run -/
inductive UsageError where
  | help
  | version (level : Level)
  | nothingGiven
  | commandMissing
  | operandMissing
  | unknownArgument
  | unknownCommand
  | valueMissing
  | valueMalformed
  | valueUnexpected
  | repeated
deriving DecidableEq, Repr, Inhabited

/-- what has been read but not taken in: an option, perhaps without its value yet, or operands -/
inductive Pending where
  | option (o : Opt) (value : Option String)
  | operands (texts : List String)
deriving DecidableEq, Repr, Inhabited

/-- what a level was given so far. `trailing` says that `--` was read. -/
structure Reading where
  level : Level
  settings : Option String
  builtIn : Option String
  verbose : Bool
  write : Bool
  severity : Option (List String)
  jobs : Option Nat
  user : Bool
  force : Bool
  operands : List String
  pending : Option Pending
  trailing : Bool
deriving DecidableEq, Repr, Inhabited

/-- a whole number below `2 ^ 64`; one plus sign may stand in front -/
def jobCount? (text : String) : Option Nat :=
  let digits := match text.toList with
    | '+' :: rest => rest
    | all => all
  if digits.isEmpty || !digits.all Char.isDigit then none
  else
    let n := digits.foldl (fun n c => n * 10 + (c.toNat - 48)) 0
    if n < 18446744073709551616 then some n else none

namespace Reading

/-- a level that was given nothing -/
def start (level : Level) : Reading where
  level := level
  settings := none
  builtIn := none
  verbose := false
  write := false
  severity := none
  jobs := none
  user := false
  force := false
  operands := []
  pending := none
  trailing := false

/-- a flag, which may be given once -/
def flag (given : Bool) (after : Reading) : Except UsageError Reading :=
  if given then .error .repeated else .ok after

/-- takes an option in; for a flag the text does not matter -/
def give (r : Reading) (o : Opt) (text : String) : Except UsageError Reading :=
  match o with
  | .settings =>
    if r.settings.isSome then .error .repeated
    else if text.isEmpty then .error .valueMissing
    else .ok { r with settings := some text }
  | .builtIn =>
    if r.builtIn.isSome then .error .repeated
    else if text.isEmpty then .error .valueMissing
    else .ok { r with builtIn := some text }
  | .jobs =>
    if r.jobs.isSome then .error .repeated
    else match jobCount? text with
      | some n => .ok { r with jobs := some n }
      | none => .error .valueMalformed
  | .severity =>
    .ok { r with severity := some (r.severity.getD [] ++ (splitOn ',' text.toList).map String.ofList) }
  | .verbose => flag r.verbose { r with verbose := true }
  | .write => flag r.write { r with write := true }
  | .user => flag r.user { r with user := true }
  | .force => flag r.force { r with force := true }
  | .help => .error .help
  | .version => .error (.version r.level)

/-- takes in what is pending -/
def settle (r : Reading) : Except UsageError Reading :=
  match r.pending with
  | none => .ok r
  | some (.option _ none) => .error .valueMissing
  | some (.option o (some text)) => { r with pending := none }.give o text
  | some (.operands texts) =>
    if texts.contains "" then .error .valueMissing
    else .ok { r with pending := none, operands := r.operands ++ texts }

/-- number of operands that were read -/
def operandCount (r : Reading) : Nat :=
  match r.pending with
  | some (.operands texts) => r.operands.length + texts.length
  | _ => r.operands.length

/-- reads an option whose value, if it has one, is the next argument -/
def openOption (r : Reading) (o : Opt) : Except UsageError Reading := do
  let r ← r.settle
  if o.takesValue then return { r with pending := some (.option o none) } else r.give o ""

/-- reads an option together with its value -/
def giveAttached (r : Reading) (o : Opt) (text : List Char) : Except UsageError Reading := do
  (← r.settle).give o (String.ofList text)

/-- reads the name of an option, with a value that may follow an equals sign -/
def readLong (r : Reading) (text : List Char) : Except UsageError Reading :=
  let name := text.takeWhile (· != '=')
  match r.level.long? name, text.drop name.length with
  | none, _ => .error .unknownArgument
  | some o, [] => r.openOption o
  | some o, _ :: value => if o.takesValue then r.giveAttached o value else .error .valueUnexpected

/-- reads letters of options; what follows the letter of an option with a value is its value -/
def readLetters (r : Reading) : List Char → Except UsageError Reading
  | [] => .ok r
  | c :: rest =>
    match r.level.letter? c with
    | none => .error .unknownArgument
    | some o =>
      if o.takesValue then
        match rest with
        | [] => r.openOption o
        | '=' :: value => r.giveAttached o value
        | value => r.giveAttached o value
      else do
        let r ← r.openOption o
        r.readLetters rest

/-- whether a text is the name of a command of a level -/
def namesCommand (level : Level) (text : String) : Bool :=
  (level.commands.lookup text).isSome || (text == "help" && !level.commands.isEmpty)

/-- reads an operand -/
def readOperand (r : Reading) (text : String) : Except UsageError Reading :=
  if r.level.takesOperand r.operandCount then
    match r.pending with
    | some (.operands texts) => .ok { r with pending := some (.operands (texts ++ [text])) }
    | _ => do return { (← r.settle) with pending := some (.operands [text]) }
  else if r.level.commands.isEmpty || (r.trailing && namesCommand r.level text) then .error .unknownArgument
  else .error .unknownCommand

/-- reads an argument that is no command -/
def readArgument (r : Reading) (text : String) : Except UsageError Reading :=
  if r.trailing then r.readOperand text
  else match text.toList with
    | ['-', '-'] => .ok { r with trailing := true }
    | '-' :: '-' :: body => r.readLong body
    | '-' :: c :: rest => r.readLetters (c :: rest)
    | _ =>
      match r.pending with
      | some (.option o none) => .ok { r with pending := some (.option o (some text)) }
      | _ => r.readOperand text

/-- whether the next argument may be a command -/
def awaitsCommand (r : Reading) : Bool :=
  !r.trailing && match r.pending with
    | some (.option _ none) => false
    | _ => true

/-- whether anything was given; `settingsVariable` is the environment's word for the settings file -/
def anyGiven (r : Reading) (settingsVariable : Option String) : Bool :=
  r.settings.isSome || settingsVariable.isSome || r.builtIn.isSome || r.verbose

/-- the end of a level: nothing may be pending or missing -/
def finish (r : Reading) (settingsVariable : Option String) (hasCommand : Bool) : Except UsageError Reading := do
  let r ← r.settle
  if r.settings.isNone && settingsVariable == some "" then .error .valueMissing
  else if !hasCommand && !r.level.commands.isEmpty then
    .error (if r.anyGiven settingsVariable then .commandMissing else .nothingGiven)
  else if r.level.needsOperand && r.operands.isEmpty then .error .operandMissing
  else .ok r

end Reading

/-- the level that a request for help names; `none` stands for `help` itself, below which nothing is -/
def helpTarget : Option Level → List String → UsageError
  | _, [] => .help
  | none, _ :: _ => .unknownCommand
  | some level, name :: rest =>
    match level.commands.lookup name with
    | some next => helpTarget (some next) rest
    | none => if Reading.namesCommand level name then helpTarget none rest else .unknownCommand

/-- reads arguments from a level on; gives the levels that were read, the last command's last -/
def readLevels (settingsVariable : Option String) (r : Reading) : List String → Except UsageError (List Reading)
  | [] => do return [← r.finish settingsVariable false]
  | text :: rest =>
    if r.awaitsCommand && Reading.namesCommand r.level text then
      match r.level.commands.lookup text with
      | some level => do
        let below ← readLevels settingsVariable (.start level) rest
        return (← r.finish settingsVariable true) :: below
      | none => .error (helpTarget (some r.level) rest)
    else do
      readLevels settingsVariable (← r.readArgument text) rest

/-- how many files are linted at once when nothing is said -/
def defaultJobs : Nat := 4

/-- what the program is to do -/
inductive Task where
  | format (file : Path) (write : Bool)
  | lint (paths : List Path) (severity : Option (List String)) (jobs : Nat)
  | init (level : SettingsLevel) (force : Bool)
  | display
  | path (level : SettingsLevel)
deriving DecidableEq, Repr, Inhabited

/-- what the arguments say -/
structure Arguments where
  settings : Option String
  builtIn : Option String
  verbose : Bool
  task : Task
deriving DecidableEq, Repr, Inhabited

/-- the settings file that the option means -/
def Reading.settingsLevel (r : Reading) : SettingsLevel := if r.user then .user else .project

/-- the task of a command that was read to its end -/
def Reading.task? (r : Reading) : Option Task :=
  match r.level, r.operands with
  | .format, file :: _ => some (.format ⟨file⟩ r.write)
  | .lint, paths => some (.lint (paths.map Path.mk) r.severity (r.jobs.getD defaultJobs))
  | .init, _ => some (.init r.settingsLevel r.force)
  | .display, _ => some .display
  | .path, _ => some (.path r.settingsLevel)
  | _, _ => none

/-- reads the arguments of the program. Of a common option given at several levels the last one counts; the environment
names the settings file when no option does. -/
def Arguments.read (settingsVariable : Option String) (args : List String) : Except UsageError Arguments := do
  let levels ← readLevels settingsVariable (.start .program) args
  match levels.getLast?.bind Reading.task? with
  | some task =>
    return {
      settings := levels.reverse.findSome? Reading.settings <|> settingsVariable
      builtIn := levels.reverse.findSome? Reading.builtIn
      verbose := levels.any Reading.verbose
      task := task }
  | none => .error .commandMissing

end ScriptBridge.Cli
