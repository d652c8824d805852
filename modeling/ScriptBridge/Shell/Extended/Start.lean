/-
Starting an extended shell with arguments: options that are words, options that are letters, and then a script, which
is an argument, lies in a file, or stands on the input. A script on the input is taken line by line, so that what it
runs reads the lines after its own.
-/
import ScriptBridge.Shell.Extended.Run

namespace ScriptBridge.Shell.Extended

open Work

/-- ends a shell that cannot start, with a message -/
def cannotStart {α : Type} (status : Nat) (message : Octets) : Work α := do
  writeLine 2 ((← machine).name ++ octets ": " ++ message)
  setStatus status
  throw .exit

/-- the options that are words -/
def startWords : List String :=
  ["debug", "debugger", "dump-po-strings", "dump-strings", "help", "init-file", "login", "noediting", "noprofile", "norc",
    "posix", "pretty-print", "rcfile", "restricted", "verbose", "version"]

/-- how a shell is called -/
def startUsage (name : Octets) : Octets :=
  octets "Usage:\t" ++ name ++ octets " [GNU long option] [option] ...\n\t" ++ name
    ++ octets " [GNU long option] [option] script-file ...\nGNU long options:\n"
    ++ octets (String.join (startWords.map fun w => "\t--" ++ w ++ "\n"))
    ++ octets ("Shell options:\n\t-ilrsD or -c command or -O shopt_option\t\t(invocation only)\n"
      ++ "\t-abefhkmnptuvxBCEHPT or -o option\n")

/-- what a shell says of its version, which is no more than its name -/
def versionText : String := "GNU bash, version 5.2.21(1)-release (x86_64-pc-linux-gnu)\n"

/-- what a shell says of its use -/
def helpText (name : Octets) : Octets :=
  octets "GNU bash, version 5.2.21(1)-release-(x86_64-pc-linux-gnu)\n" ++ startUsage name
    ++ octets "Type \x60" ++ name ++ octets " -c \"help set\"' for more information about shell options.\n"
    ++ octets "Type \x60" ++ name ++ octets " -c help' for more information about shell builtin commands.\n"
    ++ octets "Use the \x60bashbug' command to report bugs.\n\n"

/-- complains of an option that is not known -/
def badStartOption {α : Type} (arg : Octets) : Work α := do
  let name := (← machine).name
  writeLine 2 (name ++ octets ": " ++ arg ++ octets ": invalid option")
  write 2 (startUsage name)
  setStatus 2
  throw .exit

/-- takes the options that are words; gives the arguments after them -/
def takeStartWords : Nat → List Octets → Work (List Octets)
  | 0, args => return args
  | _, [] => return []
  | fuel + 1, arg :: rest => do
    let twice : Bool := arg.take 2 == ['-', '-']
    let word := String.ofList (arg.drop (if twice then 2 else 1))
    if arg.head? != some '-' || word.isEmpty then return arg :: rest
    else match word with
      | "version" => do
        write 1 (octets versionText)
        setStatus 0
        throw .exit
      | "help" => do
        write 1 (helpText (← machine).name)
        setStatus 0
        throw .exit
      | "init-file" | "rcfile" =>
        if rest.isEmpty then cannotStart 2 (octets (word ++ ": option requires an argument"))
        else takeStartWords fuel (rest.drop 1)
      | word => do
        if startWords.contains word then
          match word with
          | "posix" => modify (Session.turn true "posix")
          | "verbose" => modifyMachine (Machine.switch true 'v')
          | "login" => modify fun s => { s with settings := "login_shell" :: s.settings }
          | _ => pure ()
          takeStartWords fuel rest
        else if twice then badStartOption ('-' :: '-' :: octets word)
        else return arg :: rest

/-- takes the options that are letters; gives the arguments after them -/
def takeStartLetters : Nat → List Octets → Work (List Octets)
  | 0, args => return args
  | _, [] => return []
  | fuel + 1, arg :: rest => do
    let on : Bool := arg.head? == some '-'
    if arg == ['-'] || arg == ['-', '-'] then return rest
    else if !on && arg.head? != some '+' then return arg :: rest
    else do
      let mut rest := rest
      for c in arg.drop 1 do
        match c with
        | 'c' => modify fun s => { s with fromArgument := true }
        | 's' => modifyMachine (Machine.switch true 's')
        | 'l' => modify fun s => { s with settings := "login_shell" :: s.settings }
        | 'i' | 'r' | 'D' => pure ()
        | 'o' =>
          match rest with
          | [] => listSwitches (!on)
          | name :: more => do
            rest := more
            let name := String.ofList name
            if switchTable.any fun t => t.1 == name then modify (Session.turn on name)
            else do
              let shell := (← machine).name
              cannotStart 2 (octets "line 0: " ++ shell ++ octets (": " ++ name ++ ": invalid option name"))
        | 'O' =>
          match rest with
          | [] => changeSettings (if on then [] else [octets "-p"])
          | name :: more => do
            rest := more
            let name := String.ofList name
            if settingTable.any fun t => t.1 == name then modify fun s =>
              let others := s.settings.filter (· != name)
              { s with settings := if on then name :: others else others }
            else cannotStart 2 (octets ("line 0: " ++ name ++ ": invalid shell option name"))
        | c =>
          if switchTable.any fun t => t.2 == some c then modifyMachine (Machine.switch on c)
          else badStartOption [arg.headD '-', c]
      takeStartLetters fuel rest

section

variable (run : ProgramRun)

/-- runs the script on the input, whose next line has a number -/
def runInput : Nat → Nat → Work Unit
  | 0, _ => throw .stuck
  | fuel + 1, line => do
    let s ← get
    let script := s.machine.input
    if !script.isEmpty then
      let source := { Source.ofText (s.hasSetting "extglob") (asLines script) with line }
      match readLine source with
      | .ok (statements, source) => do
        modifyMachine (Machine.withInput source.rest)
        modify fun s => { s with reached := line }
        warnOf source
        if s.machine.has 'v' then write 2 (script.take (script.length - source.rest.length))
        runDropping (runList run fuel statements)
        runInput fuel source.line
      | .error fault => complainOf fault (List.replicate (line - 1) '\n' ++ script) 1 []

/-- runs the script at a path -/
def runAt (fuel : Nat) (name : Octets) : Work Unit := do
  let s ← get
  let m := s.machine
  let known : Bool := m.files.has (pathOf name)
  let path := if known || name.contains '/' then name
    else ((s.folders.map fun folder => folder ++ '/' :: name).find? fun p => m.files.isFile (pathOf p)).getD name
  match m.files.read (pathOf path) with
  | .error .isFolder => do
    writeLine 2 (name ++ octets ": " ++ name ++ octets ": Is a directory")
    setStatus 126
  | .error e => cannotStart (if e == .notFound then 127 else 126) (name ++ octets ": " ++ briefCause e)
  | .ok bytes => do
    let script := ofBytes bytes
    if (script.takeWhile (· != '\n')).contains (Char.ofNat 0) then
      writeLine 2 (name ++ octets ": " ++ name ++ octets ": cannot execute binary file")
      setStatus 126
    else do
      modify fun s => { s with frames := [⟨"main".toList, 0, path⟩] }
      runText run fuel [] 1 script

/-- runs the file that the environment names to be run before a script -/
def runSetup (fuel : Nat) : Work Unit := do
  let s ← get
  match (s.value? "BASH_ENV".toList).map String.ofList with
  | none | some "" => pure ()
  | some name =>
    match s.machine.files.read (pathOf name.toList) with
    | .ok bytes => runText run fuel [] 1 (ofBytes bytes)
    | .error _ => pure ()

/-- does all that a shell with arguments does -/
def runArguments (fuel : Nat) (args : List Octets) : Work Unit := do
  let rest ← takeStartLetters (args.length + 1) (← takeStartWords (args.length + 1) args)
  let s ← get
  if s.fromArgument then
    match rest with
    | [] => cannotStart 2 (octets "-c: option requires an argument")
    | script :: rest => do
      modifyMachine fun m => { m with name := rest.headD m.name, args := rest.drop 1 }
      runSetup run fuel
      runText run fuel (octets "-c: ") 1 script
  else match (if s.machine.has 's' then [] else rest) with
    | name :: args => do
      modifyMachine fun m => { m with name, args }
      runSetup run fuel
      runAt run fuel name
    | [] => do
      modifyMachine fun m => { m with args := rest, options := 's' :: m.options.filter (· != 's') }
      runSetup run fuel
      runInput run fuel 1

/-- runs an extended shell that is called by a name, with arguments -/
def runShell (fuel : Nat) (name : Octets) (args : List Octets) : Act Unit :=
  Act.asSubshell do
    let (result, s) := (toEnd run fuel (runArguments run fuel args)).run (startSession (← get) name)
    set s.machine
    match result with
    | .ok _ => pure ()
    | .error e => throw e

end

end ScriptBridge.Shell.Extended
