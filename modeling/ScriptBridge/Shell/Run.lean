/-
Running scripts. Words are expanded, cut into fields and matched with files; redirections are in force for one command;
a command is a function, a builtin, a utility or another script. Scripts of an extended shell are run by a function that
is given, `other`.

Nothing bounds what a script does, so every function takes a number of steps that it may go down, and gives up with
`Leave.stuck` when there are none left.
-/
import ScriptBridge.Shell.Builtin
import ScriptBridge.Shell.Reader
import ScriptBridge.Shell.Utilities

namespace ScriptBridge.Shell

open Act

/-! ## Redirections -/

/-- the wording of a failure to open a file -/
def openFailure (writes : Bool) (o : Octets) (e : FileError) : Octets :=
  let cause := match e with
    | .notFound => octets (if writes then "Directory nonexistent" else "No such file")
    | .notFolder => octets (if writes then "Directory nonexistent" else "No such file")
    | e => briefCause e
  octets (if writes then "cannot create " else "cannot open ") ++ o ++ octets ": " ++ cause

/-- where a path leads that is written to, as an absolute path -/
def absolutePath (files : Files) (o : Octets) : Path :=
  (Path.mk ("/" ++ String.intercalate "/" files.here)).join (pathOf o)

/-- the target that a name of a file written to leads to; `none` is reported -/
def openTarget (o : Octets) (direction : Direction) : Act (Option Target) := do
  let m ← get
  match String.ofList o, deviceAt? m.files o with
  | "/dev/stdout", _ => return m.descriptors.get? 1
  | "/dev/stderr", _ => return m.descriptors.get? 2
  | "/dev/fd/1", _ => return m.descriptors.get? 1
  | "/dev/fd/2", _ => return m.descriptors.get? 2
  | _, some .full => return some .full
  | _, some _ => return some .nothing
  | _, none =>
    let path := pathOf o
    let known := m.files.isFile path
    let result :=
      if direction == .write && m.has 'C' && known then .error .alreadyExists
      else if direction == .append && known then .ok m.files
      else m.files.write path []
    match result with
    | .ok files => do
      set { m with files }
      return some (.file (absolutePath files o))
    | .error e => do
      complain (openFailure true o e)
      return none

/-- opens a file to read from; a failure is reported -/
def openSource (descriptor : Nat) (o : Octets) : Act Bool := do
  let m ← get
  match String.ofList o, deviceAt? m.files o with
  | "/dev/stdin", _ => do
    match m.descriptors.get? 0 with
    | some t => set { m with descriptors := m.descriptors.put descriptor t }
    | none => pure ()
    return true
  | _, some d => do
    set (m.openInput descriptor ⟨ofBytes d.content, none⟩)
    return true
  | _, none => match m.files.read (pathOf o) with
    | .ok bytes => do
      set (m.openInput descriptor ⟨ofBytes bytes, some bytes.length⟩)
      return true
    | .error e => do
      if e == .isFolder then do
        set (m.openInput descriptor ⟨[], none⟩)
        return true
      else do
        complain (openFailure false o e)
        return false

/-- has a descriptor lead where another one leads -/
def copyDescriptor (descriptor : Nat) (o : Octets) : Act Bool := do
  let m ← get
  match o with
  | ['-'] => do
    set { m with descriptors := m.descriptors.erase descriptor }
    return true
  | [d] =>
    if d.isDigit then
      match m.descriptors.get? (d.toNat - 48) with
      | some t => do
        set { m with descriptors := m.descriptors.put descriptor t }
        return true
      | none => do
        complain (o ++ octets ": Bad file descriptor")
        return false
    else fail (octets "Syntax error: Bad fd number")
  | _ => fail (octets "Syntax error: Bad fd number")

/-! ## Words -/

/-- a word with the home folder in place of a tilde at its start, in a value that is assigned also after a colon -/
def withHome (home : Octets) (assigned : Bool) : Bool → Word → Word
  | _, [] => []
  | true, .plain '~' :: rest =>
    let ends : Bool := match rest with
      | [] => true
      | .plain '/' :: _ => true
      | .plain ':' :: _ => assigned
      | _ => false
    (if ends then .fixed home else .plain '~') :: withHome home assigned false rest
  | _, .plain ':' :: rest => .plain ':' :: withHome home assigned assigned rest
  | _, part :: rest => part :: withHome home assigned false rest

/-- the home folder put into a word -/
def Machine.inHome (m : Machine) (assigned : Bool) (word : Word) : Word :=
  match m.value? "HOME".toList with
  | some home => withHome home assigned true word
  | none => word

/-- whether a word has the output of statements in it -/
def holdsOutput (word : Word) : Bool :=
  word.any fun
    | .output .. => true
    | _ => false

/-- the fields of expanded atoms -/
def Machine.fieldsOf (m : Machine) (atoms : List Atom) : List Octets :=
  (splitAtoms m.separators atoms).flatMap fun f => if m.has 'f' then [fieldText f] else matchFiles m.files f

/-! ## Programs -/

/-- a shell as it starts in an environment -/
def Machine.started (m : Machine) (environment : List (Octets × Octets)) : Machine :=
  let folder := placeText m.files.here
  let given := match environment.find? fun e => e.1 == "PWD".toList with
    | some (_, o) =>
      match m.files.locate (pathOf o) true with
      | .ok (.found names) => if o.head? == some '/' && names == m.files.here then o else folder
      | _ => folder
    | none => folder
  let path := ((environment.find? fun e => e.1 == "PATH".toList).map Prod.snd).getD shellFolders
  let own : List (String × Octets) :=
    [("IFS", [' ', '\t', '\n']), ("OPTIND", ['1']), ("PATH", path), ("PPID", number m.pid), ("PS1", octets "# "),
      ("PS2", octets "> "), ("PS4", octets "+ "), ("PWD", given)]
  { m with
    folder := given
    values := own.foldl (fun vars (n, v) => vars.put (octets n) v)
      ((environment.filter fun e => isName e.1).foldl (fun vars (n, v) => vars.put n v) .empty)
    exported := withName "PWD".toList ((environment.map Prod.fst).filter isName)
    fixed := []
    functions := .empty
    aliases := .empty
    traps := .empty
    args := []
    status := 0
    options := []
    guarded := false
    line := 0
    calling := none
    loops := 0
    locals := none
    jobs := []
    place := ⟨1, 0⟩
    tracked := []
    pid := m.pid + numberStep
    lost := none
    quiet := false
    ended := none }

/-- what was written to a buffer -/
def Machine.written (m : Machine) (id : Nat) : Octets := ((m.buffers.get? id).getD []).reverse.flatten

/-- finds the programs that the stages of a pipeline name, before they run as shells of their own -/
def trackStages (stages : List Statement) : Act Unit :=
  stages.forM fun stage => do
    match stage with
    | .simple _ _ (word :: _) _ =>
      match literal? word with
      | some name =>
        if isName name then
          match (← get).meaning? name with
          | some (.program _) => track name
          | _ => pure ()
      | none => pure ()
    | _ => pure ()

/-- says why a program cannot be run; gives the status -/
def cannotRun (name : Octets) (e : FileError) : Act Nat := do
  let (status, cause) := match e with
    | .notFound => (127, octets (if name.isEmpty then "Permission denied" else "not found"))
    | .notFolder => (127, octets "not found")
    | .tooManyLinks => (127, briefCause e)
    | .nameTooLong => (127, briefCause e)
    | e => (126, briefCause e)
  complain (name ++ octets ": " ++ cause)
  setStatus status
  return status

/-- does what a program of its own does: a signal that ends it only gives a status here -/
def asChild (act : Act Unit) : Act Unit :=
  tryCatch act fun
    | .killed signal pid => do
      if pid ≤ (← get).pid then throw (.killed signal pid)
      modify fun m => { m with status := signalBase + signal, ended := some signal }
    | other => throw other

/-- tells that a signal ended the program that ran last, if one did -/
def tellEnd : Act Unit := do
  let m ← get
  set { m with ended := none }
  match (if m.quiet then none else m.ended.bind signalText) with
  | some text => writeLine 2 (octets text)
  | none => pure ()

/-- does what a builtin does; where its output found no place, that is a failure -/
def asBuiltin (name : Octets) (act : Act Unit) : Act Unit := calledBy name do
  modify fun m => { m with lost := none }
  act
  if (← get).lost.isSome then
    complain (name ++ octets ": I/O error")
    modify fun m => { m with lost := none, status := 1 }

section

variable (other : Octets → List Octets → Act Unit)

mutual

/-- the atoms of a part of a word; `splits` says that its plain characters may separate words -/
def expandPart : Nat → Bool → Part → Act (List Atom)
  | 0, _, _ => throw .stuck
  | fuel + 1, splits, part =>
    match part with
    | .plain c => return [.char c false splits]
    | .fixed chars => return .mark :: chars.map fun c => .char c true false
    | .parameter quoted name change word => expandParameter fuel quoted name change word
    | .arithmetic quoted body => do
      let o := fieldText (joinAtoms (← expandWord fuel false body))
      match calculate (← get).values o with
      | .ok (n, values) => do
        modify fun m => { m with values }
        return valueAtoms quoted (number n)
      | .error e => fail (e.message o)
    | .output quoted body => do
      let o ← capture (subshell fuel do
        modify fun m => { m with guarded := false }
        runList fuel body)
      let o := ((o.reverse.dropWhile (· == '\n')).reverse).filter (· != Char.ofNat 0)
      return valueAtoms quoted o

/-- the atoms of a parameter -/
def expandParameter : Nat → Bool → Octets → Change → Word → Act (List Atom)
  | 0, _, _, _, _ => throw .stuck
  | fuel + 1, quoted, name, change, word => do
    let m ← get
    let value := m.parameter? name
    let isList := name == ['@'] || name == ['*']
    let missing (orEmpty : Bool) : Bool := match value with
      | none => true
      | some v => orEmpty && v.isEmpty
    let here : List Atom :=
      if isList then argumentAtoms quoted (name == ['*']) m else valueAtoms quoted (value.getD [])
    let inside : Act (List Atom) := expandWord fuel (!quoted) (if quoted then word else m.inHome false word)
    let needed (act : Act (List Atom)) : Act (List Atom) :=
      if m.has 'u' && value.isNone && !isList then fail (name ++ octets ": parameter not set") else act
    match change with
    | .malformed => fail (octets "Bad substitution")
    | .keep => needed (return here)
    | .length => needed (return valueAtoms quoted (number (value.getD []).length))
    | .default orEmpty => if missing orEmpty then inside else return here
    | .instead orEmpty => if missing orEmpty then return [] else inside
    | .assign orEmpty =>
      if missing orEmpty then do
        let o := fieldText (joinAtoms (← inside))
        setVariable (← nameOf name) o
        return valueAtoms quoted o
      else return here
    | .require orEmpty =>
      if missing orEmpty then do
        let o := fieldText (joinAtoms (← inside))
        fail (name ++ octets ": " ++
          if o.isEmpty then octets (if orEmpty then "parameter not set or null" else "parameter not set") else o)
      else return here
    | .dropStart longest => needed do
      return valueAtoms quoted (dropMatching true longest (joinAtoms (← expandWord fuel false word)) (value.getD []))
    | .dropEnd longest => needed do
      return valueAtoms quoted (dropMatching false longest (joinAtoms (← expandWord fuel false word)) (value.getD []))

/-- the atoms of a word -/
def expandWord : Nat → Bool → Word → Act (List Atom)
  | 0, _, _ => throw .stuck
  | _, _, [] => return []
  | fuel + 1, splits, part :: rest => do
    let first ← expandPart fuel splits part
    return first ++ (← expandWord fuel splits rest)

/-- the text of a word that is not cut into fields -/
def expandText : Nat → Bool → Word → Act Octets
  | 0, _, _ => throw .stuck
  | fuel + 1, assigned, word => do
    return fieldText (joinAtoms (← expandWord fuel false ((← get).inHome assigned word)))

/-- the fields of words. After the name of a builtin that declares variables, `declares` is set, and a word that is an
assignment is not cut. -/
def expandFields : Nat → Bool → List Word → Act (List Octets)
  | 0, _, _ => throw .stuck
  | _, _, [] => return []
  | fuel + 1, declares, word :: rest => do
    match (if declares then assignment? word else none) with
    | some (name, value) => do
      let o ← expandText fuel true value
      return (name ++ '=' :: o) :: (← expandFields fuel declares rest)
    | none => do
      let atoms ← expandWord fuel false ((← get).inHome false word)
      let fields := (← get).fieldsOf atoms
      return fields ++ (← expandFields fuel declares rest)

/-- the fields of the words of a command -/
def expandCommand : Nat → List Word → Act (List Octets)
  | 0, _ => throw .stuck
  | _, [] => return []
  | fuel + 1, word :: rest => do
    let first ← expandFields fuel false [word]
    match first with
    | [] => expandCommand fuel rest
    | [name] =>
      if String.ofList name == "command" then return name :: (← expandCommand fuel rest)
      else return name :: (← expandFields fuel (declaringNames.contains (String.ofList name)) rest)
    | names => return names ++ (← expandFields fuel false rest)

/-- puts redirections in force; gives whether all of them could be -/
def redirect : Nat → List Redirect → Act Bool
  | 0, _ => throw .stuck
  | _, [] => return true
  | fuel + 1, .mk descriptor direction target :: rest => do
    let o ← expandText fuel false target
    let done ← match direction with
      | .here => do
        modify (Machine.openInput descriptor ⟨o, none⟩)
        pure true
      | .read => openSource descriptor o
      | .both => do
        let m ← get
        if m.files.isFile (pathOf o) then openSource descriptor o
        else match ← openTarget o .append with
          | some _ => openSource descriptor o
          | none => pure false
      | .copy => copyDescriptor descriptor o
      | direction => do
        match ← openTarget o direction with
        | some t => do
          modify fun m => { m with descriptors := m.descriptors.put descriptor t }
          pure true
        | none => pure false
    if done then redirect fuel rest else return false

/-- does an action under redirections; gives whether they could be put in force -/
def withRedirects : Nat → List Redirect → Act Unit → Act Bool
  | 0, _, _ => throw .stuck
  | fuel + 1, redirects, act => do
    let before := (← get).descriptors
    ensure (do
      if ← redirect fuel redirects then
        act
        return true
      else
        setStatus 2
        return false)
      (modify fun m => { m with descriptors := before })

/-- does an action as a shell of its own, and what that shell wants done at its end. Signals that are not ignored lose
their actions. -/
def subshell : Nat → Act Unit → Act Unit
  | 0, _ => throw .stuck
  | fuel + 1, act => do
    asChild (asSubshell do
      modify fun m => { m with traps := ⟨m.traps.entries.filter fun t => t.2.isEmpty⟩ }
      toEnd fuel act)
    tellEnd

/-- does all that a shell does, and what it wants done at its end -/
def toEnd : Nat → Act Unit → Act Unit
  | 0, _ => throw .stuck
  | fuel + 1, act => do
    match ← leaveOf act with
    | some (.killed signal pid) => throw (.killed signal pid)
    | some .stuck => throw .stuck
    | _ => do
      let m ← get
      match m.traps.get? 0 with
      | some action => do
        set { m with traps := m.traps.erase 0 }
        match ← leaveOf (do let _ ← runScript fuel action) with
        | some .exit => pure ()
        | some .failed => pure ()
        | some (.killed signal pid) => throw (.killed signal pid)
        | some .stuck => throw .stuck
        | _ => setStatus m.status
      | none => pure ()
      modify fun m => { m with status := m.status % 256 }

/-- runs a statement -/
def runStatement : Nat → Statement → Act Unit
  | 0, _ => throw .stuck
  | fuel + 1, statement =>
    match statement with
    | .simple line assigns words redirects => do
      modify fun m => { m with line }
      runSimple fuel assigns words redirects
      checkFailure
    | .pipeline negated stages => do
      if 1 < stages.length then trackStages stages
      if negated then do
        guarding (runStages fuel stages)
        modify fun m => { m with status := if m.status == 0 then 1 else 0 }
      else do
        runStages fuel stages
        checkFailure
    | .both first second => do
      guarding (runStatement fuel first)
      if (← get).status == 0 then runStatement fuel second
    | .either first second => do
      guarding (runStatement fuel first)
      if (← get).status != 0 then runStatement fuel second
    | .group body => runList fuel body
    | .subshell line body redirects => do
      modify fun m => { m with line }
      subshell fuel do
        let _ ← withRedirects fuel redirects (runList fuel body)
      checkFailure
    | .branch condition body otherwise => do
      guarding (runList fuel condition)
      if (← get).status == 0 then runList fuel body
      else if otherwise.isEmpty then setStatus 0
      else runList fuel otherwise
    | .loop ends condition body => inLoop (runLoop fuel ends condition body 0)
    | .each line name words body => do
      modify fun m => { m with line }
      let items ← match words with
        | some words => expandFields fuel false words
        | none => do pure (← get).args
      if items.isEmpty then setStatus 0
      inLoop (runEach fuel name items body)
    | .choice line word cases => do
      modify fun m => { m with line }
      let o ← expandText fuel false word
      runCases fuel o cases
    | .function name body => do
      modify fun m => { m with functions := m.functions.put name body }
      setStatus 0
    | .redirected line body redirects => do
      modify fun m => { m with line }
      if !(← withRedirects fuel redirects (runStatement fuel body)) then checkFailure
    | .background body => do
      let quiet := (← get).quiet
      modify fun m => { m with quiet := true }
      subshell fuel do
        modify fun m => { (m.openInput 0 ⟨[], none⟩) with guarded := false, quiet := quiet || body.isSimple }
        runStatement fuel body
      modify fun m => { m with jobs := m.status :: m.jobs, status := 0, quiet }

/-- runs statements one after the other, up to the one that says that nothing is to be run -/
def runList : Nat → List Statement → Act Unit
  | 0, _ => throw .stuck
  | _, [] => pure ()
  | fuel + 1, statement :: rest => do
    if !(← get).has 'n' then
      runStatement fuel statement
      runList fuel rest

/-- runs the stages of a pipeline, each on the output of the one before -/
def runStages : Nat → List Statement → Act Unit
  | 0, _ => throw .stuck
  | _, [] => pure ()
  | fuel + 1, [stage] => runStatement fuel stage
  | fuel + 1, stage :: rest => do
    let o ← capture (subshell fuel (runStatement fuel stage))
    let before := (← get).descriptors
    modify (Machine.openInput 0 ⟨o, none⟩)
    ensure (subshell fuel (runStages fuel rest)) (modify fun m => { m with descriptors := before })

/-- runs a loop; `last` is the status of its last round -/
def runLoop : Nat → Bool → List Statement → List Statement → Nat → Act Unit
  | 0, _, _, _, _ => throw .stuck
  | fuel + 1, ends, condition, body, last => do
    if ← inRound (guarding (runList fuel condition)) then
      if ((← get).status == 0) == ends then setStatus last
      else if ← inRound (runList fuel body) then runLoop fuel ends condition body (← get).status

/-- runs a body for each of some values -/
def runEach : Nat → Octets → List Octets → List Statement → Act Unit
  | 0, _, _, _ => throw .stuck
  | _, _, [], _ => pure ()
  | fuel + 1, name, value :: rest, body => do
    setVariable name value
    if ← inRound (runList fuel body) then runEach fuel name rest body

/-- runs the first case with a pattern that matches; where it has nothing to run, that is a success -/
def runCases : Nat → Octets → List (List Word × List Statement) → Act Unit
  | 0, _, _ => throw .stuck
  | _, _, [] => setStatus 0
  | fuel + 1, o, (patterns, body) :: rest => do
    if !(← anyMatches fuel o patterns) then runCases fuel o rest
    else if body.isEmpty then setStatus 0
    else runList fuel body

/-- whether a text matches one of some patterns -/
def anyMatches : Nat → Octets → List Word → Act Bool
  | 0, _, _ => throw .stuck
  | _, _, [] => return false
  | fuel + 1, o, word :: rest => do
    let f := joinAtoms (← expandWord fuel false ((← get).inHome false word))
    if patternMatches f o then return true else anyMatches fuel o rest

/-- runs a simple command. Assignments in front of a special builtin stay, those in front of another command last as
long as that. -/
def runSimple : Nat → List (Octets × Word) → List Word → List Redirect → Act Unit
  | 0, _, _, _ => throw .stuck
  | fuel + 1, assigns, words, redirects => do
    let fields ← expandCommand fuel words
    let special := match fields with
      | name :: _ => specialNames.contains (String.ofList name)
      | [] => true
    let body : Act Unit := do
      let saved ← get
      let names := assigns.map Prod.fst
      let act : Act Unit := do
        let values ← runAssigns fuel assigns
        if (← get).has 'x' then
          writeLine 2 (((← get).value? "PS4".toList).getD [] ++ joinWith [' '] (values ++ fields))
        match fields with
        | [] => if !(words ++ assigns.map Prod.snd).any holdsOutput then setStatus 0
        | name :: args => do
          if !special then
            modify fun m => { m with exported := names.foldl (fun exported n => withName n exported) m.exported }
          runCommand fuel false name args
      if special || assigns.isEmpty then act
      else ensure act (modify fun m => { m with
        values := restoreAll (names.map fun n => (n, saved.value? n)) m.values
        exported := saved.exported })
    if fields == ["exec".toList] then
      if ← redirect fuel redirects then body
      else do
        setStatus 2
        throw .failed
    else do
      let ran ← withRedirects fuel redirects do
        body
        tellEnd
      if !ran && special && !fields.isEmpty then throw .failed

/-- makes assignments; gives them as texts -/
def runAssigns : Nat → List (Octets × Word) → Act (List Octets)
  | 0, _ => throw .stuck
  | _, [] => return []
  | fuel + 1, (name, word) :: rest => do
    let o ← expandText fuel true word
    setVariable name o
    return (name ++ '=' :: o) :: (← runAssigns fuel rest)

/-- runs a command by its name; `plain` says that functions do not count -/
def runCommand : Nat → Bool → Octets → List Octets → Act Unit
  | 0, _, _, _ => throw .stuck
  | fuel + 1, plain, name, args => do
    let m ← get
    let key := String.ofList name
    let special := specialNames.contains key
    let orStatus (act : Act Unit) : Act Unit :=
      tryCatch act fun
        | .failed => pure ()
        | other => throw other
    match (if plain || special then none else m.functions.get? name) with
    | some body => do
      set { m with args := args, place := ⟨1, 0⟩, locals := some [], loops := 0 }
      ensure (tryCatch (runStatement fuel body) fun
        | .back => pure ()
        | other => throw other)
        (modify fun after => { after with
          values := restoreAll (after.locals.getD []) after.values
          args := m.args
          place := m.place
          locals := m.locals
          loops := m.loops })
    | none =>
      match key with
      | "eval" => calledBy name do
        if !(← runScript fuel (joinWith [' '] args)) then setStatus 0
      | "." => runFile fuel args
      | "exec" => calledBy name do
        match args with
        | [] => setStatus 0
        | program :: args =>
          match findProgram m.files m.folders program with
          | .error .badFormat => runProgram fuel program args
          | .error e => do
            let _ ← cannotRun program e
            throw .failed
          | .ok _ => runProgram fuel program args
          modify fun m => { m with traps := .empty }
          throw .exit
      | "command" =>
        match args with
        | ['-', 'v'] :: name :: _ => locateName name
        | ['-', 'V'] :: name :: _ => describe [name]
        | ['-', 'v'] :: [] => setStatus 0
        | ['-', '-'] :: name :: args => orStatus (runCommand fuel true name args)
        | ['-', 'p'] :: name :: args => orStatus (runCommand fuel true name args)
        | ('-' :: c :: _) :: _ => orStatus (calledBy name (fail (octets "Illegal option -" ++ [c])))
        | name :: args => orStatus (runCommand fuel true name args)
        | [] => setStatus 0
      | "kill" => runKill fuel args
      | _ =>
        if special then asBuiltin name (runBuiltin name args)
        else if regularNames.contains key then orStatus (asBuiltin name (runBuiltin name args))
        else do
          if (findProgram m.files m.folders name).isOk then track name
          asChild (runProgram fuel name args)

/-- runs a script in this shell -/
def runFile : Nat → List Octets → Act Unit
  | 0, _ => throw .stuck
  | fuel + 1, args => do
    let (_, operands) ← calledResult ['.'] (optionsOf "" "" args)
    match operands with
    | [] => setStatus 0
    | name :: _ => do
      let m ← get
      let path? := if name.contains '/' then some name
        else (m.folders.map fun folder => folder ++ '/' :: name).find? fun p => m.files.isFile (pathOf p)
      let content ← calledResult ['.'] do
        match path? with
        | none => fail (name ++ octets ": not found")
        | some path =>
          match m.files.read (pathOf path) with
          | .ok bytes => return ofBytes bytes
          | .error .isFolder => return []
          | .error e => fail (openFailure false path e)
      calledBy (path?.getD name) do
        let ran ← tryCatch (runScript fuel content) fun
          | .back => return true
          | other => throw other
        if !ran then setStatus 0

/-- sends signals. The shell itself does what it wants done at them; jobs end by them. -/
def runKill : Nat → List Octets → Act Unit
  | 0, _ => throw .stuck
  | fuel + 1, args => do
    let name := "kill".toList
    let request : Option KillRequest ← tryCatch (some <$> calledResult name (killRequest args)) fun
      | .failed => return none
      | other => throw other
    match request with
    | none => pure ()
    | some (.list codes) => do
      match codes with
      | [] => put 0 (octets "0\n" ++ ofLines ((signalNames.drop 1).map octets))
      | code :: _ => do
        let n := ((readNumber? code).getD 0).toNat
        put 0 (signalName (if signalBase < n then n - signalBase else n) ++ ['\n'])
    | some (.send signal targets) => do
      setStatus 0
      targets.forM fun target => do
        let m ← get
        let pid := if target == ['0'] then m.pid else ((readNumber? target).getD 0).toNat
        if pid == m.pid then
          match m.traps.get? signal with
          | some action => if signal != 9 then do let _ ← runScript fuel action else throw (.killed signal pid)
          | none => if isDeadly signal then throw (.killed signal pid)
        else if outerNumber < pid && pid < m.pid && pid % numberStep == m.pid % numberStep then
          if isDeadly signal then throw (.killed signal pid)
        else if !(target.all Char.isDigit) then calledBy name do
          complain (octets "Illegal number: " ++ target)
          setStatus 2
        else match m.jobOf? pid with
          | some job =>
            if isDeadly signal then
              set { m with jobs := (m.jobs.reverse.set job (signalBase + signal)).reverse }
          | none => calledBy name do
            complain (octets "No such process\n")
            setStatus 1

/-- runs a program that is no builtin -/
def runProgram : Nat → Octets → List Octets → Act Unit
  | 0, _, _ => throw .stuck
  | fuel + 1, name, args => do
    let m ← get
    match findProgram m.files m.folders name with
    | .ok (path, program) => runExecutable fuel name path program args
    | .error .badFormat => runShell fuel name (name :: args)
    | .error e => do
      let _ ← cannotRun name e

/-- runs what a name was found to lead to -/
def runExecutable : Nat → Octets → Octets → Executable → List Octets → Act Unit
  | 0, _, _, _, _ => throw .stuck
  | fuel + 1, name, path, program, args => do
    match program with
    | .shell .plain => runShell fuel name args
    | .shell .extended => other name args
    | .script interpreter option _ inner =>
      runExecutable fuel interpreter interpreter inner (option.toList ++ path :: args)
    | .utility utility => do
      let m ← get
      let c : Call := ⟨name, args, m.stream, m.files, m.environment⟩
      let run := runUtility utility (runner fuel m) c
      set ({ m with files := run.files }.withInput run.input)
      let lead := run.lead.getD run.out.length
      write 1 (run.out.take lead)
      write 2 run.err
      write 1 (run.out.drop lead)
      if m.descriptors.get? 1 == some .full && !run.out.isEmpty then
        let (status, message) := withoutSpace utility c
        write 2 message
        setStatus status
      else match endingSignal? run.status with
        | some signal => throw (.killed signal (m.pid + 1))
        | none => setStatus run.status

/-- runs programs for a utility -/
def runner : Nat → Machine → Runner
  | 0, _, _, _, _, _, _ => .error .badFormat
  | fuel + 1, m, name, args, stream, files, environment =>
    let start : Machine := { m with
      files
      values := environment.foldl (fun vars (n, v) => vars.put n v) .empty
      exported := environment.map Prod.fst
      inputs := ⟨[(0, stream)]⟩
      buffers := .empty
      fresh := 2
      descriptors := ⟨[(0, .input 0), (1, .buffer 0), (2, .buffer 1)]⟩ }
    let ended (m : Machine) (status : Nat) : UtilityRun := ⟨status, m.written 0, m.written 1, none, m.input, m.files⟩
    match findProgram files (foldersOf environment) name with
    | .ok (path, program) =>
      match (runExecutable fuel name path program args).run start with
      | (.error (.killed signal _), m) => .ok (ended m (signalled signal))
      | (_, m) => .ok (ended m m.status)
    | .error e => .error e

/-- runs a shell of its own with arguments: a script given as text, one in a file, or one on the input -/
def runShell : Nat → Octets → List Octets → Act Unit
  | 0, _, _ => throw .stuck
  | fuel + 1, name, args => asSubshell do
    modify fun m => { m.started m.environment with name }
    toEnd fuel do
      let rest := (← applySwitches true (args.length + 1) args).getD []
      let m ← get
      if m.has 'c' then
        match rest with
        | script :: rest => do
          set { m with name := rest.headD name, args := rest.drop 1 }
          let _ ← runScript fuel script
        | [] => fail (octets "-c requires an argument")
      else
        match (if m.has 's' then [] else rest) with
        | path :: args =>
          match m.files.read (pathOf path) with
          | .ok bytes => do
            set { m with name := path, args }
            let _ ← runScript fuel (ofBytes bytes)
          | .error .isFolder => pure ()
          | .error e => fail (openFailure false path e)
        | [] => do
          let script := m.input
          set ({ m with args := rest }.switch true 's' |>.withInput [])
          let _ ← runScript fuel script

/-- runs a script; gives whether there was anything to run. Zero bytes in it are left out. -/
def runScript : Nat → Octets → Act Bool
  | 0, _ => throw .stuck
  | fuel + 1, script => do
    runLines fuel (.ofText (← get).aliases (script.filter (· != Char.ofNat 0))) false

/-- runs the lines that are left of a script; `ran` says whether something was run before -/
def runLines : Nat → Source → Bool → Act Bool
  | 0, _, _ => throw .stuck
  | fuel + 1, source, ran => do
    if source.atEnd then return ran
    else match readLine { source with aliases := (← get).aliases } with
      | .ok (statements, source) => do
        runList fuel statements
        runLines fuel source (ran || !statements.isEmpty)
      | .error fault => do
        modify fun m => { m with line := fault.line }
        fail (octets ("Syntax error: " ++ fault.cause.message))

end

end

end ScriptBridge.Shell
