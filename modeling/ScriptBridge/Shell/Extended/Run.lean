/-
Running extended scripts. Words are multiplied by braces, expanded, cut into fields and matched with files;
redirections are in force for one command; a command is a function, a builtin, a utility or another script. Programs
are run by a function that is given, `run`.

Nothing bounds what a script does, so every function takes a number of steps that it may go down, and gives up with
`Leave.stuck` when there are none left.
-/
import ScriptBridge.Shell.Extended.Braces
import ScriptBridge.Shell.Extended.Builtin
import ScriptBridge.Shell.Regex
import ScriptBridge.Shell.Run

namespace ScriptBridge.Shell.Extended

open Work

/-! ## Words -/

/-- the values that a parameter stands for: those of a list, or one -/
inductive Fetched where
  | several (joined : Bool) (items : List Octets)
  | one (value : Option Octets)

namespace Fetched

/-- whether there is nothing; an empty value may count as none -/
def isMissing (orEmpty : Bool) : Fetched → Bool
  | .several _ items => items.isEmpty || (orEmpty && items.all List.isEmpty)
  | .one none => true
  | .one (some o) => orEmpty && o.isEmpty

/-- every value changed -/
def map (f : Octets → Octets) : Fetched → Fetched
  | .several joined items => .several joined (items.map f)
  | .one value => .one (value.map f)

/-- the atoms of values -/
def atoms (quoted : Bool) (separators : Octets) : Fetched → List Atom
  | .one value => valueAtoms quoted (value.getD [])
  | .several joined items =>
    if quoted && joined then valueAtoms true (List.intersperse (separators.take 1) items).flatten
    else if quoted && items.isEmpty then [.vanished]
    else
      let each := items.map fun o => (if quoted then [Atom.mark] else []) ++ valueAtoms quoted o
      (List.intersperse [Atom.gap] each).flatten

end Fetched

/-- what a tilde with a text after it stands for -/
def Session.home? (s : Session) (o : Octets) : Option Octets :=
  match String.ofList o with
  | "" => some ((s.value? "HOME".toList).getD (octets "/root"))
  | "+" => s.value? "PWD".toList
  | "-" => s.value? "OLDPWD".toList
  | "root" => some (octets "/root")
  | _ => none

/-- a word with folders in place of tildes: at its start, and in a value that is assigned also after a colon -/
def Session.inHome (s : Session) (assigned : Bool) : Bool → Word → Word
  | _, [] => []
  | true, .plain '~' :: rest =>
    let named := rest.takeWhile fun
      | .plain c => c != '/' && !(assigned && c == ':')
      | _ => false
    let ends : Bool := match rest.drop named.length with
      | [] => true
      | .plain _ :: _ => true
      | _ => false
    match (if ends then (literal? named).bind s.home? else none) with
    | some folder => .fixed folder :: s.inHome assigned false (rest.drop named.length)
    | none => .plain '~' :: s.inHome assigned false rest
  | _, .plain ':' :: rest => .plain ':' :: s.inHome assigned assigned rest
  | _, part :: rest => part :: s.inHome assigned false rest
termination_by _ word => word.length
decreasing_by all_goals simp only [List.length_cons, List.length_drop]; omega

/-- how patterns are read in words -/
def Session.fileStyle (s : Session) : FileStyle :=
  ⟨⟨s.hasSetting "extglob", s.hasSetting "nocaseglob"⟩, s.hasSetting "dotglob", s.hasSetting "globstar"⟩

/-- how patterns are read in expansions -/
def Session.patternStyle (s : Session) : GlobStyle := ⟨s.hasSetting "extglob", false⟩

/-- how patterns are read in choices and conditions -/
def Session.choiceStyle (s : Session) (groups : Bool) : GlobStyle :=
  ⟨groups || s.hasSetting "extglob", s.hasSetting "nocasematch"⟩

/-- the words that fields stand for: the files they match, or themselves -/
def wordsOf (fields : List Field) : Work (List Octets) := do
  let s ← get
  if s.machine.has 'f' then return fields.map fieldText
  else
    let each ← fields.mapM fun f => do
      match globFiles s.fileStyle s.machine.files f with
      | none => return [fieldText f]
      | some [] =>
        if s.hasSetting "failglob" then do
          complain (octets "no match: " ++ fieldText f)
          setStatus 1
          throw .dropped
        else return (if s.hasSetting "nullglob" then [] else [fieldText f])
      | some found => return found
    return each.flatten

/-- does an action whose failure drops the rest of the line -/
def dropping {α : Type} (act : Work α) : Work α :=
  tryCatch act fun
    | .failed => throw .dropped
    | other => throw other

/-- a replacement: characters, where the place of what was matched is `none` -/
def replacementOf (ampersands : Bool) (f : Field) : List (Option Char) :=
  f.map fun (c, quoted) => if ampersands && c == '&' && !quoted then none else some c

/-- a replacement for a match -/
def filled (replacement : List (Option Char)) (found : Octets) : Octets :=
  replacement.flatMap fun
    | some c => [c]
    | none => found

/-- a text with what a pattern matches replaced -/
def replaced (which : Replaced) (g : Glob) (empty : Bool) (replacement : List (Option Char)) (o : Octets) : Octets :=
  match which with
  | .first => if empty then o else g.replaceAll false (filled replacement) (o.length + 1) o
  | .every => if empty then o else g.replaceAll true (filled replacement) (o.length + 1) o
  | .start =>
    match g.atStart o with
    | some (found, rest) => filled replacement found ++ rest
    | none => o
  | .finish =>
    match (List.range (o.length + 1)).find? fun n => g.matches (o.drop n) with
    | some n => o.take n ++ filled replacement (o.drop n)
    | none => o

/-- a text with the case of the letters changed that a pattern matches -/
def caseChanged (casing : Casing) (all : Bool) (g : Option Glob) (o : Octets) : Octets :=
  let change (c : Char) : Char :=
    let meant : Bool := match g with
      | some g => g.matches [c]
      | none => true
    if !meant then c
    else match casing with
      | .upper => c.toUpper
      | .lower => c.toLower
      | .toggle => if c.isUpper then c.toLower else c.toUpper
  if all then o.map change else (o.take 1).map change ++ o.drop 1

/-- a text with its escapes replaced, as between `$'` and a quote -/
def unescaped : Nat → Octets → Octets
  | 0, _ => []
  | _, [] => []
  | fuel + 1, '\\' :: rest =>
    let (o, rest) := ansiEscape rest
    o ++ unescaped fuel rest
  | fuel + 1, c :: rest => c :: unescaped fuel rest

/-- a variable, or one of its values, in another form -/
def Session.transformed (s : Session) (name : Octets) (sub : Option Subscript) (letter : Char) (value : Fetched) : Fetched :=
  let v := (s.own? (s.resolve name)).getD ⟨.nothing, []⟩
  match letter with
  | 'Q' => value.map quotedValue
  | 'U' => value.map fun o => o.map Char.toUpper
  | 'u' => value.map fun o => (o.take 1).map Char.toUpper ++ o.drop 1
  | 'L' => value.map fun o => o.map Char.toLower
  | 'E' => value.map fun o => unescaped (o.length + 1) o
  | 'a' => value.map fun _ => v.letters
  | 'A' =>
    match sub, v.held with
    | some (.all _), held => .one (some (octets "declare -" ++ v.letters ++ ' ' :: name ++ '=' :: held.listed declaredValue))
    | _, held => .one ((held.text?).map fun o =>
      let assign := name ++ '=' :: quotedValue o
      if v.letters.isEmpty then assign else octets "declare -" ++ v.letters ++ ' ' :: assign)
  | 'K' | 'k' =>
    match value with
    | .one o => .one (o.map quotedValue)
    | .several joined items =>
      let pairs := v.held.indices.zip items
      if letter == 'k' then .several joined (pairs.flatMap fun (k, o) => [k, o])
      else .one (some (joinWith [' '] (pairs.map fun (k, o) => k ++ ' ' :: declaredValue o)))
  | _ => value

/-- the part of a list that a slice means: from an index on, and as many values; `first` is the index of the first value
that counts from the end -/
def slicedItems (items : List (Nat × Octets)) (offset : Int) (length : Option Int) : List Octets :=
  let last : Int := ((items.getLast?.map Prod.fst).elim 0 (· + 1) : Nat)
  let start := if offset < 0 then offset + last else offset
  if start < 0 then []
  else
    let rest := (items.filter fun i => start ≤ (i.1 : Int)).map Prod.snd
    match length with
    | some n => rest.take n.toNat
    | none => rest

/-! ## Redirections -/

/-- where a path leads that is written to -/
def openTarget (o : Octets) (direction : Direction) : Work (Option Target) := do
  let m ← machine
  let copied (n : Nat) : Work (Option Target) := do
    match m.descriptors.get? n with
    | some t => return some t
    | none => do
      complain (o ++ octets ": No such file or directory")
      return none
  match String.ofList o, deviceAt? m.files o with
  | "/dev/stdout", _ => copied 1
  | "/dev/stderr", _ => copied 2
  | "/dev/fd/1", _ => copied 1
  | "/dev/fd/2", _ => copied 2
  | _, some .full => return some .full
  | _, some _ => return some .nothing
  | _, none =>
    let path := pathOf o
    let known := m.files.isFile path
    if direction == .write && m.has 'C' && known then do
      complain (o ++ octets ": cannot overwrite existing file")
      return none
    else
      let appends : Bool := direction == .append || direction == .outputs true || direction == .both
      match (if appends && known then .ok m.files else m.files.write path []) with
      | .ok files => do
        modifyMachine fun m => { m with files }
        return some (.file (absolutePath files o))
      | .error e => do
        complain (o ++ octets ": " ++ briefCause e)
        return none

/-- opens a file to read from; a failure is reported -/
def openSource (descriptor : Nat) (o : Octets) : Work Bool := do
  let m ← machine
  let standard : Bool := ["/dev/stdin", "/dev/fd/0"].contains (String.ofList o)
  if standard then do
    match m.descriptors.get? 0 with
    | some t => modifyMachine fun m => { m with descriptors := m.descriptors.put descriptor t }
    | none => pure ()
    return true
  else match deviceAt? m.files o with
    | some d => do
      modifyMachine (Machine.openInput descriptor ⟨ofBytes d.content, none⟩)
      return true
    | none => match m.files.read (pathOf o) with
      | .ok bytes => do
        modifyMachine (Machine.openInput descriptor ⟨ofBytes bytes, some bytes.length⟩)
        return true
      | .error .isFolder => do
        modifyMachine (Machine.openInput descriptor ⟨[], none⟩)
        return true
      | .error e => do
        complain (o ++ octets ": " ++ briefCause e)
        return false

/-- has a descriptor lead where another one leads; a dash after that one closes it -/
def copyDescriptor (descriptor : Nat) (o source : Octets) : Work Bool := do
  let m ← machine
  let moves : Bool := 1 < o.length && o.getLast? == some '-'
  let digits := if moves then o.dropLast else o
  if o == ['-'] then do
    modifyMachine fun m => { m with descriptors := m.descriptors.erase descriptor }
    return true
  else if digits.isEmpty || !digits.all Char.isDigit then do
    complain (source ++ octets ": ambiguous redirect")
    return false
  else
    let start := (digitsIn 10 digits).1
    match m.descriptors.get? start with
    | some t => do
      modifyMachine fun m => { m with descriptors :=
        (if moves then m.descriptors.erase start else m.descriptors).put descriptor t }
      return true
    | none => do
      complain (source ++ octets ": Bad file descriptor")
      return false

/-- the first descriptor from ten on that is free -/
def freeDescriptor (m : Machine) : Nat :=
  ((List.range 100).map (· + 10)).find? (fun n => (m.descriptors.get? n).isNone) |>.getD 110

/-- descriptors as they were before, but for those that scripts have chosen by name -/
def restored (before now : Table Nat Target) : Table Nat Target :=
  ⟨before.entries.filter (fun e => e.1 < 10) ++ now.entries.filter fun e => 10 ≤ e.1⟩

/-! ## Programs -/

/-- runs a program under a name, which lies at a path, with arguments -/
abbrev ProgramRun := Octets → Octets → Executable → List Octets → Act Unit

/-- does what a program of its own does: a signal that ends it only gives a status here -/
def asChild (act : Work Unit) : Work Unit :=
  tryCatch act fun
    | .killed signal pid => do
      if pid ≤ (← machine).pid then throw (.killed signal pid)
      modifyMachine fun m => { m with status := signalBase + signal, ended := some signal }
    | other => throw other

/-- tells that a request to end ended the program that ran last, if one did; other signals are told with its number -/
def tellEnd : Work Unit := do
  let m ← machine
  modifyMachine fun m => { m with ended := none }
  if !m.quiet && m.ended == some 15 then writeLine 2 (octets "Terminated")

/-- does what a builtin does; where its output found no place, that is a failure -/
def asBuiltin (name : Octets) (act : Work Unit) : Work Unit := calledBy name do
  modifyMachine fun m => { m with lost := none }
  orStatus act
  match (← machine).lost with
  | some e => do
    complain (octets "write error: " ++ briefCause e)
    modifyMachine fun m => { m with lost := none, status := 1 }
  | none => pure ()

/-- says why a program cannot be run -/
def cannotRun (name : Octets) (e : FileError) : Work Unit := do
  let m ← machine
  let present : Bool := m.files.has (pathOf name)
  let (status, cause) : Nat × Octets :=
    if !name.contains '/' && (e == .notFound || e == .notFolder) then (127, octets "command not found")
    else if e == .denied && m.files.isFolder (pathOf name) then (126, octets "Is a directory")
    else if e == .notFound && present then (127, octets "cannot execute: required file not found")
    else match e with
      | .notFound => (127, octets "No such file or directory")
      | .tooManyLinks => (126, octets "bad interpreter: Too many levels of symbolic links")
      | e => (126, briefCause e)
  complain (name ++ octets ": " ++ cause)
  setStatus status

/-- a session for a shell that starts on a machine -/
def startSession (m : Machine) (name : Octets) : Session :=
  let environment := m.environment
  let started := { (m.started environment) with name, options := ['h', 'B'] }
  let exported : Table Octets Variable :=
    (environment.filter fun e => isName e.1).foldl (fun t (n, v) => t.put n ⟨.single v, ['x']⟩) .empty
  let text (t : Table Octets Variable) (n : String) (v : Octets) (marks : List Char) : Table Octets Variable :=
    t.put n.toList ⟨.single v, marks⟩
  let usual (t : Table Octets Variable) (n : String) (v : Octets) : Table Octets Variable :=
    if (t.get? n.toList).isSome then t else text t n v []
  let shells := ((exported.get? "SHLVL".toList).bind fun v => v.held.text?.bind readNumber?).getD 0
  let path := match findProgram m.files ((foldersOf environment)) name with
    | .ok (path, _) => path
    | .error _ => octets "/usr/bin/bash"
  let t := text exported "PWD" started.folder ['x']
  let t := if (t.get? "OLDPWD".toList).isSome then t else t.put "OLDPWD".toList ⟨.nothing, ['x']⟩
  let t := text t "SHLVL" (number (shells + 1)) ['x']
  let t := text t "IFS" [' ', '\t', '\n'] []
  let t := text t "OPTIND" ['1'] []
  let t := text t "OPTERR" ['1'] []
  let t := usual t "PATH" (octets "/usr/local/sbin:/usr/local/bin:/usr/sbin:/usr/bin:/sbin:/bin")
  let t := usual t "TERM" (octets "dumb")
  let t := usual t "SHELL" (octets "/bin/bash")
  let t := text t "PS4" (octets "+ ") []
  let t := text t "PPID" (number m.pid) ['i', 'r']
  let t := text t "UID" ['0'] ['i', 'r']
  let t := text t "EUID" ['0'] ['i', 'r']
  let t := text t "HOSTNAME" (octets "localhost") []
  let t := text t "HOSTTYPE" (octets "x86_64") []
  let t := text t "MACHTYPE" (octets "x86_64-pc-linux-gnu") []
  let t := text t "OSTYPE" (octets "linux-gnu") []
  let t := text t "BASH" path []
  let t := text t "BASH_VERSION" (octets "5.2.21(1)-release") []
  let t := t.put "BASH_VERSINFO".toList
    ⟨.list (Session.versionParts.mapIdx fun i o => (i, octets o)), ['r']⟩
  { machine := started
    globals := t
    scopes := []
    functions := .empty
    frames := []
    settings := (settingTable.filter Prod.snd).map Prod.fst
    stages := [0]
    last := path
    opened := []
    stack := []
    depth := 0
    level := 0
    reached := 1
    outputs := 0
    fromArgument := false
    replaced := false
    random := 12345 }

/-- does an action on a variable that has to have a name as variables have -/
def onNamed (name : Octets) (act : Work Unit) : Work Unit := do
  if isName name then act
  else do
    complain ('\x60' :: name ++ octets "': not a valid identifier")
    setStatus 1

/-- does what the statements of a line do; a failure drops the rest of them -/
def runDropping (act : Work Unit) : Work Unit :=
  tryCatch act fun
    | .failed => leftLine
    | .dropped => leftLine
    | other => throw other
where
  leftLine : Work Unit := do
    let s ← get
    if s.machine.status == 0 then setStatus 1
    modifyMachine fun m => { m with calling := none }
    if 0 < s.depth then throw .dropped

/-- whether statements end with a simple command without redirections, which a shell that ends with it need not outlive -/
def endsSimply (statements : List Statement) : Bool :=
  match statements.getLast? with
  | some (.simple _ _ _ []) => true
  | some (.both _ (.simple _ _ _ [])) => true
  | some (.either _ (.simple _ _ _ [])) => true
  | _ => false

/-- the session with another number of shells around it -/
def Session.withLevel (s : Session) (change : Int) : Session :=
  let shells := ((s.value? "SHLVL".toList).bind readNumber?).getD 0
  s.change "SHLVL".toList ⟨.single (number (shells + change)), ['x']⟩

/-- a script with its last line ended -/
def asLines (o : Octets) : Octets :=
  match o.getLast? with
  | some '\n' | some '\\' | none => o
  | some _ => o ++ ['\n']

/-- warns of what was odd about a line that was read -/
def warnOf (source : Source) : Work Unit := do
  let name ← complainer
  for (n, message) in source.warnings do
    writeLine 2 (name ++ octets ": line " ++ number n ++ octets ": " ++ message)

/-- complains of the form of a text, whose first line has a number. A script ends there. -/
def complainOf (fault : Fault) (text : Octets) (first : Nat) (tag : Octets) : Work Unit := do
  let name ← complainer
  let relative : Fault := { fault with line := fault.line - (first - 1) }
  for (n, message) in relative.messages text do
    writeLine 2 (name ++ octets ": " ++ tag ++ octets "line " ++ number (n + (first - 1) : Nat) ++ octets ": " ++ message)
  setStatus fault.status
  if tag.isEmpty || tag == octets "-c: " then throw .exit

/-- the words of a menu, each with its number -/
def menuText (items : List Octets) : Octets :=
  let width := (number items.length).length
  (items.zipIdx.flatMap fun (o, i) => padLeft width (number (i + 1 : Nat)) ++ octets ") " ++ o ++ ['\n'])

section

variable (run : ProgramRun)

mutual

/-- the atoms of a part of a word; `splits` says that its plain characters may separate words -/
def expandPart : Nat → Bool → Part → Work (List Atom)
  | 0, _, _ => throw .stuck
  | fuel + 1, splits, part =>
    match part with
    | .plain c => return [.char c false splits]
    | .fixed chars => return .mark :: chars.map fun c => .char c true false
    | .parameter quoted source parameter => expandParameter fuel quoted source parameter
    | .arithmetic quoted body => do
      let n ← dropping (do calculated (← expandText fuel false body))
      return valueAtoms quoted (number n)
    | .output quoted body => do
      let o ← match body with
        | [.simple _ [] [] [.mk (.number 0) .read source target]] => do
          let before := (← machine).descriptors
          let opened ← redirect fuel [.mk (.number 0) .read source target]
          let o := (← machine).input
          modifyMachine fun m => { m with descriptors := before }
          if !opened then setStatus 1 else setStatus 0
          pure (if opened then o else [])
        | body => capture (unwatched fuel true do
            let s ← get
            modifyMachine fun m => { m with
              guarded := false
              options := if s.hasSetting "inherit_errexit" then m.options else m.options.filter (· != 'e') }
            modify fun s => { s with level := s.level + 1 }
            runList fuel body)
      modify fun s => { s with outputs := s.outputs + 1 }
      let o := ((o.reverse.dropWhile (· == '\n')).reverse).filter (· != Char.ofNat 0)
      return valueAtoms quoted o
    | .process writes body => do
      let s ← get
      let path := octets "/dev/fd/" ++ number (63 - s.opened.length : Int)
      let o ← if writes then pure [] else capture (unwatched fuel true (runList fuel body))
      modifyMachine fun m => match m.files.write (pathOf path) (toBytes o) with
        | .ok files => { m with files }
        | .error _ => m
      modify fun s => { s with opened := (path, if writes then body else []) :: s.opened }
      return valueAtoms true path
    | .items _ => return []
    | .assigning _ => return []
termination_by structural fuel => fuel

/-- does an action, and then what reads from the files that commands stand in for -/
def closingProcesses : Nat → Work Unit → Work Unit
  | 0, _ => throw .stuck
  | fuel + 1, act => do
    let before := (← get).opened.length
    ensure act (endProcesses fuel before)
termination_by structural fuel => fuel

/-- ends the commands that stand in for files, but for so many -/
def endProcesses : Nat → Nat → Work Unit
  | 0, _ => throw .stuck
  | fuel + 1, kept => do
    let s ← get
    if s.opened.length ≤ kept then return
    else match s.opened with
      | [] => return
      | (path, body) :: rest => do
        let status := s.machine.status
        let content := match s.machine.files.read (pathOf path) with
          | .ok bytes => ofBytes bytes
          | .error _ => []
        modifyMachine fun m => { m with files := m.files.remove (pathOf path) }
        modify fun s => { s with opened := rest }
        if !body.isEmpty then
          subshell fuel do
            modifyMachine (Machine.openInput 0 ⟨content, none⟩)
            runList fuel body
        setStatus status
        endProcesses fuel kept
termination_by structural fuel => fuel

/-- the values that a name with a subscript stands for -/
def fetch : Nat → Octets → Option Subscript → Work Fetched
  | 0, _, _ => throw .stuck
  | fuel + 1, name, sub => do
    let s ← get
    match sub with
    | none =>
      if name == ['@'] then return .several false s.machine.args
      else if name == ['*'] then return .several true s.machine.args
      else
        let target := s.resolve name
        if target != name && !isName target then
          match readReference target with
          | some (name, sub) => fetch fuel name sub
          | none => return .one none
        else return .one (s.parameter? name)
    | some (.all joined) => return .several joined ((s.held? name).getD .nothing).values
    | some (.one index) => do
      let o ← expandText fuel false index
      match (s.held? name).getD .nothing with
      | .map items => return .one ((items.find? fun i => i.1 == o).map Prod.snd)
      | held => do
        let items := held.asList
        let n ← dropping (calculated o)
        let last : Int := ((items.getLast?.map Prod.fst).elim 0 (· + 1) : Nat)
        let n := if n < 0 then n + last else n
        if n < 0 then do
          complain (name ++ octets ": bad array subscript")
          return .one none
        else return .one ((items.find? fun i => (i.1 : Int) == n).map Prod.snd)
termination_by structural fuel => fuel

/-- the characters of a pattern or of what replaces it -/
def expandField : Nat → Word → Work Field
  | 0, _ => throw .stuck
  | fuel + 1, word => do
    let s ← get
    return joinAtoms (← expandWord fuel false (s.inHome false true word))
termination_by structural fuel => fuel

/-- the atoms of a parameter -/
def expandParameter : Nat → Bool → Octets → Parameter → Work (List Atom)
  | 0, _, _, _ => throw .stuck
  | fuel + 1, quoted, source, .mk name sub indirect change => do
    let (name, sub) ← if !indirect then pure (name, sub) else do
      match ← fetch fuel name sub with
      | .one (some o) => match readReference o with
        | some found => pure found
        | none => do
          complain (o ++ octets ": invalid variable name")
          setStatus 1
          throw .dropped
      | _ =>
        if ((← get).marks name).contains 'n' then pure (name, sub)
        else do
          complain (name ++ octets ": invalid indirect expansion")
          setStatus 1
          throw .dropped
    let s ← get
    let shown : Octets := match sub with
      | some (.one index) => name ++ '[' :: (literal? index).getD [] ++ [']']
      | _ => name
    let give (value : Fetched) : Work (List Atom) := return value.atoms quoted s.separators
    let known (value : Fetched) : Work Fetched := match value with
      | .one none => if s.machine.has 'u' then unbound shown else return value
      | value => return value
    let numbered (word : Word) : Work Int := do dropping (calculated (← expandText fuel false word))
    match change with
    | .malformed => do
      complain (source ++ octets ": bad substitution")
      setStatus 1
      throw .dropped
    | .names joined =>
      give (.several joined ((s.names true).filter fun n => name.isPrefixOf n))
    | .indices joined => give (.several joined ((s.held? name).getD .nothing).indices)
    | .keep => do
      if indirect && (s.marks name).contains 'n' then give (.one (some (s.resolve name)))
      else give (← known (← fetch fuel name sub))
    | .length => do
      match ← known (← fetch fuel name sub) with
      | .several _ items => give (.one (some (number items.length)))
      | .one value => give (.one (some (number (value.getD []).length)))
    | .default orEmpty word => do
      let value ← fetch fuel name sub
      if value.isMissing orEmpty then expandInside fuel quoted word else give value
    | .instead orEmpty word => do
      let value ← fetch fuel name sub
      if value.isMissing orEmpty then return [] else expandInside fuel quoted word
    | .assign orEmpty word => do
      let value ← fetch fuel name sub
      if !value.isMissing orEmpty then give value
      else do
        let o := fieldText (joinAtoms (← expandInside fuel quoted word))
        if !isName name then do
          complain ('$' :: name ++ octets ": cannot assign in this way")
          setStatus 1
          throw .dropped
        let index ← match sub with
          | some (.one index) => some <$> expandText fuel false index
          | _ => pure none
        dropping (store name index false o)
        return valueAtoms quoted o
    | .require orEmpty word => do
      let value ← fetch fuel name sub
      if !value.isMissing orEmpty then give value
      else do
        let o := fieldText (joinAtoms (← expandInside fuel quoted word))
        leaveUnset (shown ++ octets ": " ++
          if o.isEmpty then octets (if orEmpty then "parameter null or not set" else "parameter not set") else o)
    | .dropStart longest pattern => do
      let value ← known (← fetch fuel name sub)
      let g := Glob.read s.patternStyle (← expandField fuel pattern)
      give (value.map (g.dropFrom true longest))
    | .dropEnd longest pattern => do
      let value ← known (← fetch fuel name sub)
      let g := Glob.read s.patternStyle (← expandField fuel pattern)
      give (value.map (g.dropFrom false longest))
    | .replace which pattern replacement => do
      let value ← known (← fetch fuel name sub)
      let f ← expandField fuel pattern
      let filling ← expandField fuel replacement
      let g := Glob.read s.patternStyle f
      let filling := replacementOf (s.hasSetting "patsub_replacement") filling
      give (value.map (replaced which g f.isEmpty filling))
    | .recase casing all pattern => do
      let value ← known (← fetch fuel name sub)
      let f ← expandField fuel pattern
      let g := if f.isEmpty then none else some (Glob.read s.patternStyle f)
      give (value.map (caseChanged casing all g))
    | .transform letter => do
      let value ← known (← fetch fuel name sub)
      give (s.transformed name sub letter value)
    | .slice offset length => do
      let value ← known (← fetch fuel name sub)
      let missing := value.isMissing false
      let start ← if missing then pure 0 else numbered offset
      let count : Option (Int × Word) ← match length with
        | some word => do if missing then pure none else pure (some (← numbered word, word))
        | none => pure none
      let outside {α : Type} (word : Word) : Work α := do
        complain ((← expandText fuel false word) ++ octets ": substring expression < 0")
        setStatus 1
        throw .dropped
      match value with
      | .one none => give value
      | .one (some o) => do
        let size : Int := o.length
        let start := if start < 0 then start + size else start
        if start < 0 || size < start then give (.one (some []))
        else
          let rest := o.drop start.toNat
          match count with
          | none => give (.one (some rest))
          | some (n, word) =>
            if n < 0 then
              if size + n < start then outside word else give (.one (some (rest.take (size + n - start).toNat)))
            else give (.one (some (rest.take n.toNat)))
      | .several joined items => do
        let numberedItems : List (Nat × Octets) :=
          if name == ['@'] || name == ['*'] then
            (items.zipIdx.map fun (o, i) => (i + 1, o))
          else match (s.held? name).getD .nothing with
            | .list items => items
            | _ => items.zipIdx.map fun (o, i) => (i, o)
        let numberedItems := if (name == ['@'] || name == ['*']) && start == 0 then (0, s.machine.name) :: numberedItems
          else numberedItems
        match count with
        | some (n, word) =>
          if n < 0 then outside word else give (.several joined (slicedItems numberedItems start (some n)))
        | none => give (.several joined (slicedItems numberedItems start none))
termination_by structural fuel => fuel

/-- the atoms of the word of a parameter -/
def expandInside : Nat → Bool → Word → Work (List Atom)
  | 0, _, _ => throw .stuck
  | fuel + 1, quoted, word => do
    let s ← get
    expandWord fuel (!quoted) (if quoted then word else s.inHome false true word)
termination_by structural fuel => fuel

/-- the atoms of a word -/
def expandWord : Nat → Bool → Word → Work (List Atom)
  | 0, _, _ => throw .stuck
  | fuel + 1, splits, word => do
    return (← word.mapM (expandPart fuel splits)).flatten
termination_by structural fuel => fuel

/-- the text of a word that is not cut into fields -/
def expandText : Nat → Bool → Word → Work Octets
  | 0, _, _ => throw .stuck
  | fuel + 1, assigned, word => do
    let s ← get
    return fieldText (joinAtoms (← expandWord fuel false (s.inHome assigned true word)))
termination_by structural fuel => fuel

/-- the fields of words -/
def expandFields : Nat → List Word → Work (List Octets)
  | 0, _ => throw .stuck
  | fuel + 1, words => do
    let braces : Bool := (← machine).has 'B'
    let each ← (if braces then words.flatMap braceWords else words).mapM fun word => do
      let s ← get
      let atoms ← expandWord fuel false (s.inHome false true word)
      wordsOf (splitAtoms (← get).separators atoms)
    return each.flatten
termination_by structural fuel => fuel

/-- what an assignment assigns -/
def expandAssigned : Nat → Word → Work Assigned
  | 0, _ => throw .stuck
  | fuel + 1, value =>
    match value with
    | [.items entries] => do
      let each ← entries.mapM fun (.mk index adds word) => do
        match index with
        | some index => do
          let key ← expandText fuel false index
          return [(some key, adds, ← expandText fuel true word)]
        | none => do return (← expandFields fuel [word]).map fun o => (none, false, o)
      return .items each.flatten
    | word => do return .single (← expandText fuel true word)
termination_by structural fuel => fuel

/-- the arguments that words come to -/
def expandArguments : Nat → List Word → Work (List Argument)
  | 0, _ => throw .stuck
  | fuel + 1, words => do
    let each ← words.mapM fun word => do
      match word with
      | [.assigning (.mk name index adds value)] => do
        let index ← match index with
          | some index => some <$> expandText fuel false index
          | none => pure none
        return [.assigned name index adds (← expandAssigned fuel value)]
      | word => do return (← expandFields fuel [word]).map Argument.word
    return each.flatten
termination_by structural fuel => fuel

/-- makes an assignment; gives it as a text -/
def assign : Nat → Assignment → Work Octets
  | 0, _ => throw .stuck
  | fuel + 1, .mk name index adds value => do
    let key ← match index with
      | some index => some <$> expandText fuel false index
      | none => pure none
    let assigned ← expandAssigned fuel value
    dropping (storeAssigned name key adds assigned)
    let shown : Octets := match assigned with
      | .single o => tracedWord o
      | .items entries => '(' :: joinWith [' '] (entries.map fun e => tracedWord e.2.2) ++ [')']
    let shown := if shown == octets "''" then [] else shown
    return name ++ (match key with
      | some k => '[' :: k ++ [']']
      | none => []) ++ octets (if adds then "+=" else "=") ++ shown
termination_by structural fuel => fuel

/-- puts redirections in force; gives whether all of them could be -/
def redirect : Nat → List Redirect → Work Bool
  | 0, _ => throw .stuck
  | _, [] => return true
  | fuel + 1, .mk handle direction source target :: rest => do
    let m ← machine
    let closing : Bool := (direction == .copyIn || direction == .copyOut) && bare? target == some ['-']
    let descriptor ← match handle with
      | .number n => pure n
      | .variable name =>
        if closing then do
          let held := ((← get).value? name).bind readNumber?
          pure (held.getD 0).toNat
        else pure (freeDescriptor m)
    let single : Work (Option Octets) := do
      match ← expandFields fuel [target] with
      | [o] => return some o
      | _ => do
        complain (source ++ octets ": ambiguous redirect")
        return none
    let toFile (o : Octets) (both : Bool) (direction : Direction) : Work Bool := do
      match ← openTarget o direction with
      | some t => do
        modifyMachine fun m =>
          let d := m.descriptors.put descriptor t
          { m with descriptors := if both then d.put 2 t else d }
        return true
      | none => return false
    let done ← match direction with
      | .here => do
        let o ← expandText fuel false target
        modifyMachine (Machine.openInput descriptor ⟨o, none⟩)
        pure true
      | .line => do
        let o ← expandText fuel false target
        modifyMachine (Machine.openInput descriptor ⟨o ++ ['\n'], none⟩)
        pure true
      | direction => do
        match ← single with
        | none => pure false
        | some o => match direction with
          | .read => openSource descriptor o
          | .both => do
            if m.files.isFile (pathOf o) then openSource descriptor o
            else match ← openTarget o .append with
              | some _ => openSource descriptor o
              | none => pure false
          | .copyIn => copyDescriptor descriptor o source
          | .copyOut =>
            if handle == .number 1 && o != ['-'] && !(o.all fun c => c.isDigit || c == '-') then
              toFile o true (.outputs false)
            else copyDescriptor descriptor o source
          | .outputs appends => toFile o true (.outputs appends)
          | direction => toFile o false direction
    if !done then return false
    else do
      match handle with
      | .variable name => if !closing then setText name (number descriptor)
      | .number _ => pure ()
      redirect fuel rest
termination_by structural fuel => fuel

/-- does an action under redirections; gives whether they could be put in force -/
def withRedirects : Nat → List Redirect → Work Unit → Work Bool
  | 0, _, _ => throw .stuck
  | fuel + 1, redirects, act => do
    let before := (← machine).descriptors
    ensure (do
      if ← redirect fuel redirects then
        act
        return true
      else
        setStatus 1
        return false)
      (modifyMachine fun m => { m with descriptors := restored before m.descriptors })
termination_by structural fuel => fuel

/-- does an action as a shell of its own, and what that shell wants done at its end. Signals that are not ignored lose
their actions. -/
def subshell : Nat → Work Unit → Work Unit
  | 0, _ => throw .stuck
  | fuel + 1, act => do
    asChild (asSubshell do
      modifyMachine fun m => { m with
        traps := ⟨m.traps.entries.filter fun t => t.2.isEmpty || (m.has 'E' && t.1 == 101)⟩
        loops := 0 }
      modify fun s => { s with opened := [] }
      toEnd fuel act)
    tellEnd
termination_by structural fuel => fuel

/-- does an action as a shell of its own whose end is not told; `silent` says that neither is that of what it runs -/
def unwatched : Nat → Bool → Work Unit → Work Unit
  | 0, _, _ => throw .stuck
  | fuel + 1, silent, act => do
    let quiet := (← machine).quiet
    modifyMachine fun m => { m with quiet := true }
    subshell fuel do
      modifyMachine fun m => { m with quiet := quiet || silent }
      act
    modifyMachine fun m => { m with quiet }
termination_by structural fuel => fuel

/-- does all that a shell does, and what it wants done at its end -/
def toEnd : Nat → Work Unit → Work Unit
  | 0, _ => throw .stuck
  | fuel + 1, act => do
    match ← leaveOf act with
    | some (.killed signal pid) => throw (.killed signal pid)
    | some .stuck => throw .stuck
    | _ => do
      let m ← machine
      match m.traps.get? 0 with
      | some action => do
        modifyMachine fun m => { m with traps := m.traps.erase 0 }
        match ← leaveOf (runText fuel (octets "exit trap: ") 1 action) with
        | some .exit => pure ()
        | some (.killed signal pid) => throw (.killed signal pid)
        | some .stuck => throw .stuck
        | _ => setStatus m.status
      | none => pure ()
      endProcesses fuel 0
      modifyMachine fun m => { m with status := m.status % 256 }
termination_by structural fuel => fuel

/-- runs what is wanted at a failure, and ends the shell there if it was asked to -/
def checkFailure : Nat → Work Unit
  | 0 => throw .stuck
  | fuel + 1 => do
    let s ← get
    if s.machine.status != 0 && !s.machine.guarded then
      match s.machine.traps.get? 101 with
      | some action =>
        if !(s.scopes.any fun scope => scope.function) || s.machine.has 'E' then
          modifyMachine fun m => { m with traps := m.traps.erase 101 }
          runText fuel (octets "error trap: ") s.machine.line action
          modifyMachine fun m => { m with traps := m.traps.put 101 action, status := s.machine.status }
      | none => pure ()
      if (← machine).has 'e' then throw .exit
termination_by structural fuel => fuel

/-- notes the status of a command as that of a pipeline of its own -/
def noteStage : Nat → Work Unit
  | 0 => throw .stuck
  | _ + 1 => modify fun s => { s with stages := [s.machine.status] }

/-- runs a statement -/
def runStatement : Nat → Statement → Work Unit
  | 0, _ => throw .stuck
  | fuel + 1, statement =>
    match statement with
    | .simple line assigns words redirects => do
      modifyMachine fun m => { m with line }
      closingProcesses fuel (runSimple fuel assigns words redirects)
      noteStage fuel
      checkFailure fuel
    | .pipeline negated timing stages => do
      let act : Work Unit := match stages with
        | [] => setStatus 0
        | [stage] => runStatement fuel stage
        | stages => do
          let statuses ← runStages fuel stages
          let s ← get
          modify fun s => { s with stages := statuses }
          if s.hasSetting "pipefail" then setStatus (((statuses.reverse.find? (· != 0))).getD 0)
      if negated then do
        guarding act
        modifyMachine fun m => { m with status := if m.status == 0 then 1 else 0 }
      else do
        act
        if 1 < stages.length then checkFailure fuel
      match timing with
      | .untimed => pure ()
      | .full => write 2 (octets "\nreal\t0m0.000s\nuser\t0m0.000s\nsys\t0m0.000s\n")
      | .brief => write 2 (octets "real 0.00\nuser 0.00\nsys 0.00\n")
    | .both first second => do
      guarding (runStatement fuel first)
      if (← machine).status == 0 then runStatement fuel second
    | .either first second => do
      guarding (runStatement fuel first)
      if (← machine).status != 0 then runStatement fuel second
    | .group body => runList fuel body
    | .subshell line body => do
      modifyMachine fun m => { m with line }
      subshell fuel (runList fuel body)
      noteStage fuel
      checkFailure fuel
    | .branch condition body otherwise => do
      guarding (runList fuel condition)
      if (← machine).status == 0 then runList fuel body
      else if otherwise.isEmpty then setStatus 0
      else runList fuel otherwise
    | .loop ends condition body => inLoop (runLoop fuel ends condition body 0)
    | .each line name words body => do
      modifyMachine fun m => { m with line }
      onNamed name do
        let items ← match words with
          | some words => expandFields fuel words
          | none => do pure (← machine).args
        setStatus 0
        inLoop (runEach fuel line name items body)
    | .select line name words body => do
      modifyMachine fun m => { m with line }
      onNamed name do
        let items ← match words with
          | some words => expandFields fuel words
          | none => do pure (← machine).args
        setStatus 0
        if !items.isEmpty then inLoop (runSelect fuel name items body true)
    | .count line start test step body => do
      modifyMachine fun m => { m with line }
      let value (word : Word) (usual : Int) : Work Int := do
        let o ← expandText fuel false word
        if o.all isGap then return usual else calledBy (octets "((") (calculated o)
      setStatus 0
      orStatus do
        let _ ← value start 1
        inLoop (runCount fuel (value test 1) (value step 1) body)
    | .choice line word cases => do
      modifyMachine fun m => { m with line }
      let o ← expandText fuel false word
      setStatus 0
      runCases fuel o cases
    | .condition line test => do
      modifyMachine fun m => { m with line }
      let result ← tryCatch (some <$> calledBy (octets "[[") (holds fuel test)) fun
        | .failed => return none
        | other => throw other
      match result with
      | some value => setStatus (if value then 0 else 1)
      | none => pure ()
      noteStage fuel
      checkFailure fuel
    | .calculation line body => do
      modifyMachine fun m => { m with line }
      let o ← expandText fuel false body
      orStatus do
        let n ← calledBy (octets "((") (calculated o)
        setStatus (if n == 0 then 1 else 0)
      noteStage fuel
      checkFailure fuel
    | .function _ name body => do
      let s ← get
      let file := if s.file.isEmpty then octets (if s.fromArgument then "environment" else "main") else s.file
      modify fun s => { s with functions := s.functions.put name ⟨body, file⟩ }
      setStatus 0
    | .redirected line body redirects => do
      modifyMachine fun m => { m with line }
      closingProcesses fuel do
        if !(← withRedirects fuel redirects (runStatement fuel body)) then
          noteStage fuel
          checkFailure fuel
    | .background body => do
      unwatched fuel body.isSimple do
        modifyMachine fun m => { (m.openInput 0 ⟨[], none⟩) with guarded := false }
        runStatement fuel body
      modifyMachine fun m => { m with jobs := m.status :: m.jobs, status := 0 }
termination_by structural fuel => fuel

/-- runs statements one after the other -/
def runList : Nat → List Statement → Work Unit
  | 0, _ => throw .stuck
  | _, [] => pure ()
  | fuel + 1, statement :: rest => do
    if !(← machine).has 'n' then
      runStatement fuel statement
      runList fuel rest
termination_by structural fuel => fuel

/-- runs the stages of a pipeline, each on the output of the one before; gives their statuses -/
def runStages : Nat → List Statement → Work (List Nat)
  | 0, _ => throw .stuck
  | _, [] => return []
  | fuel + 1, [stage] => do
    if (← get).hasSetting "lastpipe" then runStatement fuel stage else subshell fuel (runStatement fuel stage)
    return [(← machine).status]
  | fuel + 1, stage :: rest => do
    let o ← capture (unwatched fuel stage.isSimple (runStatement fuel stage))
    let status := (← machine).status
    let before := (← machine).descriptors
    modifyMachine (Machine.openInput 0 ⟨o, none⟩)
    let others ← ensure (runStages fuel rest) (modifyMachine fun m => { m with descriptors := before })
    return status :: others
termination_by structural fuel => fuel

/-- runs a loop; `last` is the status of its last round -/
def runLoop : Nat → Bool → List Statement → List Statement → Nat → Work Unit
  | 0, _, _, _, _ => throw .stuck
  | fuel + 1, ends, condition, body, last => do
    if ← inRound (guarding (runList fuel condition)) then
      if ((← machine).status == 0) == ends then setStatus last
      else if ← inRound (runList fuel body) then runLoop fuel ends condition body (← machine).status
termination_by structural fuel => fuel

/-- runs a body for each of some values -/
def runEach : Nat → Nat → Octets → List Octets → List Statement → Work Unit
  | 0, _, _, _, _ => throw .stuck
  | _, _, _, [], _ => pure ()
  | fuel + 1, line, name, value :: rest, body => do
    let done ← tryCatch (do setText name value; return true) fun
      | .failed => return false
      | other => throw other
    if done then
      if ← inRound (runList fuel body) then runEach fuel line name rest body
termination_by structural fuel => fuel

/-- runs a body for values that are chosen from a menu -/
def runSelect : Nat → Octets → List Octets → List Statement → Bool → Work Unit
  | 0, _, _, _, _ => throw .stuck
  | fuel + 1, name, items, body, shows => do
    let s ← get
    if shows then write 2 (menuText items)
    write 2 ((s.value? "PS3".toList).getD (octets "#? "))
    match ← inputOf 0 with
    | none => setStatus 1
    | some (id, stream) =>
      if stream.rest.isEmpty then do
        writeLine 1 []
        setStatus 1
      else do
        let line := stream.rest.takeWhile (· != '\n')
        leaveInput id stream (stream.rest.drop (line.length + 1))
        setText "REPLY".toList line
        if line.all isGap then runSelect fuel name items body true
        else do
          let chosen := ((wholeNumber? line).bind fun n => if n < 1 then none else items[n.toNat - 1]?).getD []
          setText name chosen
          if ← inRound (runList fuel body) then runSelect fuel name items body false
termination_by structural fuel => fuel

/-- runs a body while a calculation does not come to zero -/
def runCount : Nat → Work Int → Work Int → List Statement → Work Unit
  | 0, _, _, _ => throw .stuck
  | fuel + 1, test, step, body => do
    if (← test) != 0 then
      if ← inRound (runList fuel body) then
        let status := (← machine).status
        let _ ← step
        setStatus status
        runCount fuel test step body
termination_by structural fuel => fuel

/-- runs the cases with a pattern that matches -/
def runCases : Nat → Octets → List Case → Work Unit
  | 0, _, _ => throw .stuck
  | _, _, [] => pure ()
  | fuel + 1, o, .mk patterns body ending :: rest => do
    let style := (← get).choiceStyle false
    let matched ← patterns.anyM fun word => do
      return (Glob.read style (← expandField fuel word)).matches o
    if !matched then runCases fuel o rest
    else do
      runBody fuel body
      match ending with
      | .ends => pure ()
      | .tests => runCases fuel o rest
      | .falls => runOn fuel rest
termination_by structural fuel => fuel

/-- runs the body of a case -/
def runBody : Nat → List Statement → Work Unit
  | 0, _ => throw .stuck
  | fuel + 1, body => if body.isEmpty then setStatus 0 else runList fuel body
termination_by structural fuel => fuel

/-- runs cases without a test -/
def runOn : Nat → List Case → Work Unit
  | 0, _ => throw .stuck
  | _, [] => pure ()
  | fuel + 1, .mk _ body ending :: rest => do
    runBody fuel body
    if ending == .falls then runOn fuel rest
termination_by structural fuel => fuel

/-- whether a condition holds -/
def holds : Nat → Condition → Work Bool
  | 0, _ => throw .stuck
  | fuel + 1, condition =>
    match condition with
    | .word word => do return !(← expandText fuel false word).isEmpty
    | .not inner => do return !(← holds fuel inner)
    | .both first second => do
      if ← holds fuel first then holds fuel second else return false
    | .either first second => do
      if ← holds fuel first then return true else holds fuel second
    | .unary operator word => do
      let o ← expandText fuel false word
      return (← get).testUnary (operator.getLastD ' ') o
    | .binary first operator second => do
      let a ← expandText fuel false first
      let s ← get
      match String.ofList operator with
      | "=~" => do
        let f ← expandField fuel second
        let text := f.flatMap fun (c, quoted) => if quoted && !c.isAlphanum && !isNameChar c then ['\\', c] else [c]
        match Regex.read (.searching true) text with
        | .error _ => do
          setStatus 2
          throw .failed
        | .ok (r, groups) => do
          let found := r.search ⟨s.hasSetting "nocasematch", false⟩ (.atStart a)
          let items : List Octets := match found with
            | some (start, stop) => stop.since start :: (List.range groups).map fun i => (stop.groups.lookup (i + 1)).getD []
            | none => []
          modify (Session.change "BASH_REMATCH".toList ⟨.list (items.mapIdx fun i o => (i, o)), []⟩)
          return found.isSome
      | "=" | "==" => do return (Glob.read (s.choiceStyle true) (← expandField fuel second)).matches a
      | "!=" => do return !(Glob.read (s.choiceStyle true) (← expandField fuel second)).matches a
      | name => do
        let b ← expandText fuel false second
        if comparesNumbers operator then return compareNumbers name (← calculated a) (← calculated b)
        else return compareTexts s.machine.files name a b
termination_by structural fuel => fuel

/-- shows a command before it runs, if that is wanted -/
def trace : Nat → List Octets → Work Unit
  | 0, _ => throw .stuck
  | _ + 1, words => do
    let s ← get
    if s.machine.has 'x' then
      let mark := (s.value? "PS4".toList).getD []
      writeLine 2 (List.replicate s.level (mark.headD '+') ++ mark ++ joinWith [' '] words)

/-- runs a simple command. Assignments in front of a command last as long as that. -/
def runSimple : Nat → List Assignment → List Word → List Redirect → Work Unit
  | 0, _, _, _ => throw .stuck
  | fuel + 1, assigns, words, redirects => do
    let before := (← get).outputs
    let arguments ← expandArguments fuel words
    match arguments with
    | [] => do
      for assignment in assigns do trace fuel [← assign fuel assignment]
      let _ ← withRedirects fuel redirects do
        if before == (← get).outputs then setStatus 0
    | first :: rest => do
      let name := first.text
      let body : Work Unit := do
        if assigns.isEmpty then runTraced fuel name first rest
        else do
          modify fun s => { s with scopes := ⟨.empty, false⟩ :: s.scopes }
          ensure (do
            for assignment in assigns do assignBefore fuel assignment
            runTraced fuel name first rest)
            (modify fun s => { s with scopes := s.scopes.drop 1 })
      if name == "exec".toList && rest.isEmpty then do
        if ← redirect fuel redirects then do
          for assignment in assigns do
            let _ ← assign fuel assignment
          setStatus 0
        else do
          setStatus 1
          throw .exit
      else do
        let _ ← withRedirects fuel redirects body
        tellEnd
        modify fun s => { s with last := (arguments.getLast?.map Argument.text).getD [] }
termination_by structural fuel => fuel

/-- makes an assignment in front of a command -/
def assignBefore : Nat → Assignment → Work Unit
  | 0, _ => throw .stuck
  | fuel + 1, .mk name _ adds value => do
    let s ← get
    let before := (s.own? (s.resolve name)).getD ⟨.nothing, []⟩
    if before.marks.contains 'r' then complain (name ++ octets ": readonly variable")
    else match ← expandAssigned fuel value with
      | .single o => do
        let o := if adds then (before.held.text?).getD [] ++ o else o
        let o ← dropping (markedValue (before.marks.filter (· != 'n')) none o)
        trace fuel [name ++ '=' :: (if o.isEmpty then [] else tracedWord o)]
        modify fun s => match s.scopes with
          | scope :: rest =>
            { s with scopes := { scope with named := scope.named.put name ⟨.single o, ['x']⟩ } :: rest }
          | [] => s
      | .items _ => pure ()
termination_by structural fuel => fuel

/-- shows a command if that is wanted, and runs it -/
def runTraced : Nat → Octets → Argument → List Argument → Work Unit
  | 0, _, _, _ => throw .stuck
  | fuel + 1, name, first, rest => do
    let shown (a : Argument) : Octets := match a with
      | .word o => tracedWord o
      | .assigned name index adds value => name ++ (match index with
          | some k => '[' :: k ++ [']']
          | none => []) ++ octets (if adds then "+=" else "=") ++ (match value with
          | .single o => tracedWord o
          | .items entries => '(' :: joinWith [' '] (entries.map fun e => tracedWord e.2.2) ++ [')'])
    trace fuel ((first :: rest).map shown)
    runCommand fuel true name rest
termination_by structural fuel => fuel

/-- runs a function -/
def runFunction : Nat → Octets → Function → List Octets → Work Unit
  | 0, _, _, _ => throw .stuck
  | fuel + 1, name, f, args => do
    let s ← get
    let m := s.machine
    let (scope, outer) : Scope × List Scope := match s.scopes with
      | ⟨named, false⟩ :: rest => (⟨named, true⟩, rest)
      | scopes => (⟨.empty, true⟩, scopes)
    set { s with
      scopes := scope :: outer
      frames := ⟨name, max 1 m.line, f.file⟩ :: s.frames
      machine := { m with args, loops := 0 } }
    ensure (tryCatch (runStatement fuel f.body) fun
      | .back => pure ()
      | other => throw other) do
      modify fun after => { after with
        scopes := match after.scopes.drop (after.scopes.length - outer.length - 1) with
          | ⟨named, _⟩ :: rest => if outer.length < s.scopes.length then ⟨named, false⟩ :: rest else rest
          | [] => []
        frames := s.frames
        machine := { after.machine with args := m.args, loops := m.loops } }
      match (← machine).traps.get? 103 with
      | some action => if s.machine.has 'T' then runText fuel (octets "return trap: ") 1 action
      | none => pure ()
termination_by structural fuel => fuel

/-- runs a command by its name; `functions` says that functions count -/
def runCommand : Nat → Bool → Octets → List Argument → Work Unit
  | 0, _, _, _ => throw .stuck
  | fuel + 1, functions, name, given => do
    let s ← get
    let args := given.map Argument.text
    match (if functions then s.functions.get? name else none) with
    | some f => runFunction fuel name f args
    | none =>
      match String.ofList name with
      | "eval" => do
        let (_, operands) ← orStop (calledBy name (optionsOf "" "" args)) (⟨[]⟩, [])
        if !operands.isEmpty then
          let script := joinWith [' '] operands
          let before := (← get).level
          modify fun s => { s with level := before + 1 }
          ensure (do
            setStatus 0
            runText fuel (octets "eval: ") (← get).reached script)
            (modify fun s => { s with level := before })
      | "." | "source" => runFile fuel name args
      | "exec" => do
        let operands := (← orStop (calledBy name (optionsOf "cl" "a" args)) (⟨[]⟩, [])).2
        match operands with
        | [] => pure ()
        | program :: args => do
          match findProgram s.machine.files s.folders program with
          | .error .badFormat => runProgram fuel program args
          | .error .notFound => do
            calledBy name (complain (program ++ octets ": not found"))
            setStatus 127
            throw .exit
          | .error e => do
            calledBy name (cannotRun program e)
            throw .exit
          | .ok _ => runProgram fuel program args
          modifyMachine fun m => { m with traps := .empty }
          throw .exit
      | "command" => do
        let (options, operands) ← orStop (calledBy name (optionsOf "pVv" "" args)) (⟨[]⟩, [])
        if options.has 'v' || options.has 'V' then calledBy name (locate (options.has 'V') operands)
        else match operands with
          | [] => setStatus 0
          | name :: args => runCommand fuel false name (args.map .word)
      | "builtin" =>
        match args with
        | [] => setStatus 0
        | inner :: rest =>
          if builtinNames.contains (String.ofList inner) then runCommand fuel false inner (rest.map .word)
          else do
            calledBy name (complain (inner ++ octets ": not a shell builtin"))
            setStatus 1
      | "kill" => runKill fuel args
      | key =>
        if builtinNames.contains key then asBuiltin name (runBuiltin name given)
        else asChild (runProgram fuel name args)
termination_by structural fuel => fuel

/-- what an action gives, or something else where it only gives a status -/
def orStop {α : Type} (act : Work α) (otherwise : α) : Work α :=
  tryCatch act fun
    | .failed => return otherwise
    | other => throw other

/-- runs a script in this shell -/
def runFile : Nat → Octets → List Octets → Work Unit
  | 0, _, _ => throw .stuck
  | fuel + 1, calling, args => do
    let operands := (← orStop (calledBy calling (optionsOf "" "" args)) (⟨[]⟩, [])).2
    match operands with
    | [] => do
      calledBy calling do
        complain (octets "filename argument required")
        orStatus misused
      setStatus 2
    | name :: rest => do
      let s ← get
      let path := if name.contains '/' then name
        else (((s.folders.map fun folder => folder ++ '/' :: name).find? fun p => s.machine.files.isFile (pathOf p))).getD name
      let standard : Bool := ["/dev/stdin", "/dev/fd/0"].contains (String.ofList path)
      let content : Except FileError Octets := if standard then .ok s.machine.input
        else (s.machine.files.read (pathOf path)).map ofBytes
      match content with
      | .error .isFolder => do
        calledBy calling (complain (name ++ octets ": is a directory"))
        setStatus 1
      | .error e => do
        complain (name ++ octets ": " ++ briefCause e)
        setStatus 1
      | .ok script => do
        if standard then modifyMachine (Machine.withInput [])
        let m := s.machine
        modify fun s => { s with frames := ⟨"source".toList, max 1 m.line, path⟩ :: s.frames }
        if !rest.isEmpty then modifyMachine fun m => { m with args := rest }
        ensure (tryCatch (do setStatus 0; runText fuel [] 1 script) fun
          | .back => pure ()
          | other => throw other)
          (modify fun after => { after with
            frames := s.frames
            machine := { after.machine with
              args := if rest.isEmpty then after.machine.args else m.args
              line := m.line } })
termination_by structural fuel => fuel

/-- sends signals. The shell itself does what it wants done at them; jobs end by them. -/
def runKill : Nat → List Octets → Work Unit
  | 0, _ => throw .stuck
  | fuel + 1, args => asBuiltin "kill".toList do
    let send (signal : Nat) (targets : List Octets) : Work Unit := do
      if targets.isEmpty then misused
      setStatus 0
      for target in targets do
        let m ← machine
        if target.head? == some '%' then setStatus 0
        else if target.isEmpty || !(target.all Char.isDigit || (target.head? == some '-' && (target.drop 1).all Char.isDigit))
        then do
          complain (target ++ octets ": arguments must be process or job IDs")
          setStatus 1
        else
          let pid := if target == ['0'] then m.pid else ((readNumber? target).getD 0).toNat
          if pid == m.pid then
            match m.traps.get? signal with
            | some action => if signal != 9 then runText fuel (octets "trap: ") 1 action else throw (.killed signal pid)
            | none => if isDeadly signal then throw (.killed signal pid)
          else if outerNumber < pid && pid < m.pid && pid % numberStep == m.pid % numberStep then
            if isDeadly signal then throw (.killed signal pid)
          else match m.jobOf? pid with
            | some job =>
              if isDeadly signal then
                modifyMachine fun m => { m with jobs := (m.jobs.reverse.set job (signalBase + signal)).reverse }
            | none => do
              complain ('(' :: target ++ octets ") - No such process")
              setStatus 1
    let withSignal (name : Octets) (targets : List Octets) : Work Unit := do
      match (trapNumber? name).bind fun n => if n ≤ 64 then some n else none with
      | some n => send n targets
      | none => stop 1 (name ++ octets ": invalid signal specification")
    match args with
    | [] => misused
    | ['-', 'l'] :: codes | ['-', 'L'] :: codes =>
      if codes.isEmpty then put 0 signalTable
      else do
        setStatus 0
        for code in codes do
          match readNumber? code, trapNumber? code with
          | some n, _ => writeLine 1 (signalName (if signalBase < n.toNat then n.toNat - signalBase else n.toNat))
          | none, some n => writeLine 1 (number n)
          | none, none => do
            complain (code ++ octets ": invalid signal specification")
            setStatus 1
    | ['-', 's'] :: name :: targets => withSignal name targets
    | ['-', 'n'] :: name :: targets => withSignal name targets
    | ['-', '-'] :: targets => send 15 targets
    | ('-' :: name) :: targets => withSignal name targets
    | targets => send 15 targets
termination_by structural fuel => fuel

/-- runs a program that is no builtin -/
def runProgram : Nat → Octets → List Octets → Work Unit
  | 0, _, _ => throw .stuck
  | fuel + 1, name, args => do
    let s ← get
    match findProgram s.machine.files s.folders name with
    | .ok (path, program) => do
      let inPlace : Bool := s.replaced && s.depth = 0 && s.level = 0 && s.frames.isEmpty
        && s.machine.traps.entries.isEmpty
      let environment := (if inPlace then (s.withLevel (-1)).environment else s.environment) ++ [("_".toList, path)]
      modifyMachine fun m => { m with
        values := ⟨environment⟩
        exported := environment.map Prod.fst
        tracked := if name.contains '/' then m.tracked else withName name m.tracked }
      tryCatch (onMachine (run name path program args)) fun
        | .killed signal pid => throw (.killed signal (if inPlace then s.machine.pid else pid))
        | other => throw other
    | .error .badFormat => runScriptFile fuel name args
    | .error e => cannotRun name e
termination_by structural fuel => fuel

/-- runs a script without an interpreter as a shell of its own -/
def runScriptFile : Nat → Octets → List Octets → Work Unit
  | 0, _, _ => throw .stuck
  | fuel + 1, path, args => do
    let s ← get
    match s.machine.files.read (pathOf path) with
    | .error e => cannotRun path e
    | .ok bytes =>
      let script := ofBytes bytes
      if (script.takeWhile (· != '\n')).contains (Char.ofNat 0) then do
        complain (path ++ octets ": cannot execute binary file: Exec format error")
        setStatus 126
      else asSubshell do
        let environment := s.environment
        modify fun s =>
          let m := { s.machine with values := ⟨environment⟩, exported := environment.map Prod.fst }
          let started := startSession m path
          { started with
            machine := { started.machine with args, pid := s.machine.pid }
            frames := [⟨"main".toList, 0, path⟩] }
        toEnd fuel (runText fuel [] 1 script)
termination_by structural fuel => fuel

/-- runs a text whose first line has a number; `tag` is what complaints about its form begin with -/
def runText : Nat → Octets → Nat → Octets → Work Unit
  | 0, _, _, _ => throw .stuck
  | fuel + 1, tag, line, script => do
    let text := asLines (script.filter (· != Char.ofNat 0))
    let before := (← get).reached
    let source := Source.ofText ((← get).hasSetting "extglob") text
    ensure (runLines fuel tag text line { source with line })
      (modify fun s => { s with reached := before })
termination_by structural fuel => fuel

/-- runs the lines that are left of a script -/
def runLines : Nat → Octets → Octets → Nat → Source → Work Unit
  | 0, _, _, _, _ => throw .stuck
  | fuel + 1, tag, text, first, source => do
    let before := source.rest
    if !source.atEnd then
      match readLine { source with groups := (← get).hasSetting "extglob" } with
      | .ok (statements, source) => do
        let reached := match source.held with
          | some _ => source.line
          | none => if source.line = first then first else source.line - 1
        modify fun s => { s with reached }
        warnOf source
        if (← machine).has 'v' then write 2 (before.take (before.length - source.rest.length))
        let final : Bool := tag == octets "-c: " && source.rest.isEmpty && endsSimply statements
        if final && (← machine).traps.entries.isEmpty then
          runDropping do
            runList fuel statements.dropLast
            modify fun s => { s with replaced := true }
            runList fuel (statements.drop (statements.length - 1))
        else runDropping (runList fuel statements)
        runLines fuel tag text first source
      | .error fault => complainOf fault text first tag
termination_by structural fuel => fuel

end

end

end ScriptBridge.Shell.Extended
