/-
Running a program in another environment, or in another folder. A text that is given as one argument can be split into
several arguments, with quotes, escapes and variables; that happens before the other arguments are looked at.
-/
import ScriptBridge.Shell.Launcher

namespace ScriptBridge.Shell

/-! ## Splitting a text -/

/-- a text that is being split: the words that are complete, the last one first, the word that has begun, if one has, with
its characters backwards, and what is told of variables -/
structure Splitting where
  words : List Octets
  word : Option Octets
  notes : Octets

namespace Splitting

/-- a word begins, unless one has -/
def begun (s : Splitting) : Splitting := { s with word := some (s.word.getD []) }

/-- the word ends that has begun -/
def closed (s : Splitting) : Splitting :=
  match s.word with
  | some o => { s with words := o.reverse :: s.words, word := none }
  | none => s

/-- a further character -/
def put (s : Splitting) (c : Char) : Splitting := { s with word := some (c :: s.word.getD []) }

end Splitting

/-- whether a character stands between words -/
def betweenWords (c : Char) : Bool := [' ', '\t', '\n', '\x0b', '\x0c', '\r'].contains c

/-- the variable between braces after a dollar sign, and what follows it -/
def bracedName? (o : Octets) : Option (Octets × Octets) :=
  match o with
  | '\x7b' :: c :: rest =>
    let name := c :: rest.takeWhile fun d => d.isAlphanum || d == '_'
    match rest.drop (name.length - 1) with
    | '\x7d' :: after => if c.isAlpha || c == '_' then some (name, after) else none
    | _ => none
  | _ => none

/-- splits a text into words. A mark at the start of a word begins a comment; `quote` is the quote that is open. -/
def splitText (environment : List (Octets × Octets)) : Nat → Option Char → Splitting → Octets → Except Octets Splitting
  | 0, _, s, _ => .ok s.closed
  | _, quote, s, [] => if quote.isSome then .error (octets "no terminating quote in -S string") else .ok s.closed
  | fuel + 1, quote, s, c :: rest =>
    let onward := splitText environment fuel
    let escapes : Bool := quote != some '\'' || rest.head? == some '\\' || rest.head? == some '\''
    if (c == '\'' && quote != some '"') || (c == '"' && quote != some '\'') then
      onward (if quote.isSome then none else some c) s.begun rest
    else if betweenWords c && quote.isNone then onward none s.closed rest
    else if c == '#' && s.word.isNone then .ok s.closed
    else if c == '\\' && escapes then
      match rest with
      | [] => .error (octets "invalid backslash at end of string in -S")
      | '_' :: rest => if quote == some '"' then onward quote (s.put ' ') rest else onward quote s.closed rest
      | 'c' :: _ =>
        if quote == some '"' then .error (octets "'\\c' must not appear in double-quoted -S string") else .ok s.closed
      | 'f' :: rest => onward quote (s.put '\x0c') rest
      | 'n' :: rest => onward quote (s.put '\n') rest
      | 'r' :: rest => onward quote (s.put '\r') rest
      | 't' :: rest => onward quote (s.put '\t') rest
      | 'v' :: rest => onward quote (s.put '\x0b') rest
      | d :: rest =>
        if "\"#$'\\".toList.contains d then onward quote (s.put d) rest
        else .error (octets "invalid sequence '\\" ++ d :: octets "' in -S")
    else if c == '$' && quote != some '\'' then
      match bracedName? rest with
      | none => .error (octets "only $\x7bVARNAME\x7d expansion is supported, error at: " ++ c :: rest)
      | some (name, after) =>
        match environment.lookup name with
        | some value =>
          let s := value.foldl Splitting.put s.begun
          let note := octets "expanding $\x7b" ++ name ++ octets "\x7d into " ++ inQuotes value ++ ['\n']
          onward quote { s with notes := s.notes ++ note } after
        | none =>
          let note := octets "replacing $\x7b" ++ name ++ octets "\x7d with null string\n"
          onward quote { s with notes := s.notes ++ note } after
    else onward quote (s.put c) rest

/-- what is told of a text that was split -/
def splitNotes (text : Octets) (s : Splitting) : Octets :=
  match s.words.reverse with
  | [] => s.notes
  | first :: others => s.notes ++ octets "split -S:  " ++ inQuotes text ++ octets "\n into:    " ++ inQuotes first ++ ['\n']
    ++ others.flatMap fun o => octets "     &    " ++ inQuotes o ++ ['\n']

/-- how the letters of one argument go on: what the text is that is to be split, if one is -/
inductive LetterRun where
  | plain
  | takesNext
  | splits (before : Octets) (text : Option Octets)
  | blank (c : Char)

/-- looks through the letters of an argument -/
def letterRun (before : Octets) : Octets → LetterRun
  | [] => .plain
  | c :: rest =>
    if betweenWords c then .blank c
    else if c == 'S' then .splits before.reverse (if rest.isEmpty then none else some rest)
    else if c == 'u' || c == 'C' then (if rest.isEmpty then .takesNext else .plain)
    else letterRun (c :: before) rest

/-- arguments with the texts in them split, and what is told of that; `tells` says that something is -/
def splitArguments (c : Call) (wrong : Nat) : Nat → Bool → List Octets → Running (List Octets × Octets)
  | 0, _, args => return (args, [])
  | fuel + 1, tells, args =>
    let onward (tells : Bool) (kept rest : List Octets) : Running (List Octets × Octets) := do
      let (args, notes) ← splitArguments c wrong fuel tells rest
      return (kept ++ args, notes)
    let splitting (kept : List Octets) (tells : Bool) (text : Octets) (rest : List Octets) : Running (List Octets × Octets) := do
      match splitText c.environment (text.length + 1) none ⟨[], none, []⟩ text with
      | .error message => c.refuse wrong message
      | .ok s => do
        let (args, notes) ← onward tells kept (s.words.reverse ++ rest)
        return (args, (if tells then splitNotes text s else []) ++ notes)
    match args with
    | ('-' :: '-' :: letter :: word) :: rest =>
      let name := (letter :: word).takeWhile (· != '=')
      let means (long : String) : Bool := name.isPrefixOf (octets long)
      if means "split-string" then
        match (letter :: word).drop name.length, rest with
        | _ :: text, rest => splitting [] tells text rest
        | [], text :: rest => splitting [] tells text rest
        | [], [] => return (args, [])
      else if name.length < (letter :: word).length then onward tells (args.take 1) rest
      else if means "unset" || means "chdir" then onward tells (args.take 2) (rest.drop 1)
      else onward (tells || means "debug") (args.take 1) rest
    | ('-' :: letter :: letters) :: rest =>
      if letter == '-' then return (args, [])
      else match letterRun [] (letter :: letters) with
        | .plain => onward (tells || (letter :: letters).contains 'v') (args.take 1) rest
        | .takesNext => onward tells (args.take 2) (rest.drop 1)
        | .splits before text? =>
          let kept := if before.isEmpty then [] else ['-' :: before]
          match text?, rest with
          | some text, rest => splitting kept (tells || before.contains 'v') text rest
          | none, text :: rest => splitting kept (tells || before.contains 'v') text rest
          | none, [] => return (args, [])
        | .blank d =>
          .error { c.done wrong [] with
            err := c.complaint (octets "invalid option -- '" ++ d :: ['\''])
              ++ c.complaint (octets "use -[v]S to pass options in shebang lines") ++ c.hint }
    | args => return (args, [])

/-! ## Running -/

/-- the files, with paths that start from another folder -/
def movedTo (c : Call) (wrong : Nat) (folder : Octets) : Running Files :=
  let refuse (e : FileError) : Running Files :=
    c.refuse wrong (octets "cannot change directory to " ++ inQuotes folder ++ octets ": " ++ briefCause e)
  match c.files.locate (pathOf folder) true with
  | .ok (.found names) => if c.files.isFolder (pathOf folder) then return { c.files with here := names } else refuse .notFolder
  | .ok (.slashed _) => refuse .notFolder
  | .ok (.absent ..) => refuse .notFound
  | .error e => refuse e

/-- runs a program in another environment, or shows the environment -/
def env (run : Runner) (c : Call) : Running UtilityRun := do
  let wrong : Nat := 125
  let room := c.args.foldl (fun n a => n + a.length + 2) 2
  let (args, notes) ← splitArguments c wrong room false c.args
  let (o, rest) ← { c with args }.parse
    { flags := "i0v", valued := "uCS", wrong, leading := true, optional := "DIB"
      words := [("ignore-environment", 'i'), ("unset", 'u'), ("null", '0'), ("chdir", 'C'), ("split-string", 'S'), ("debug", 'v'),
        ("default-signal", 'D'), ("ignore-signal", 'I'), ("block-signal", 'B'), ("list-signal-handling", 'L')] }
  let (bare, rest) := match rest with
    | ['-'] :: rest => (true, rest)
    | rest => (o.has 'i', rest)
  let tell (message : Octets) : Octets := if o.has 'v' then message ++ ['\n'] else []
  let withNotes (notes : Octets) (r : Running UtilityRun) : Running UtilityRun :=
    match r with
    | .ok r => .ok { r with err := notes ++ r.err }
    | .error r => .error { r with err := notes ++ r.err }
  let refusedName := if bare then none else (o.values 'u').find? fun n => n.isEmpty || n.contains '='
  match refusedName with
  | some name => withNotes notes (c.refuse wrong (octets "cannot unset " ++ inQuotes name ++ octets ": Invalid argument"))
  | none =>
  let kept := if bare then [] else c.environment.filter fun e => !(o.values 'u').contains e.1
  let notes := notes ++ (if bare then tell (octets "cleaning environ")
    else (o.values 'u').flatMap fun n => tell (octets "unset:    " ++ n))
  let assigns := rest.takeWhile fun a => a.contains '='
  let notes := notes ++ assigns.flatMap fun a => tell (octets "setenv:   " ++ a)
  let environment := assigns.foldl (fun found a =>
    let name := a.takeWhile (· != '=')
    withVariable found name (a.drop (name.length + 1))) kept
  withNotes notes (match rest.drop assigns.length with
    | [] =>
      if (o.value? 'C').isSome then c.misuse wrong (octets "must specify command with --chdir (-C)")
      else return c.done 0 (environment.flatMap fun (n, v) => n ++ '=' :: v ++ [if o.has '0' then Char.ofNat 0 else '\n'])
    | program :: args =>
      if o.has '0' then c.misuse wrong (octets "cannot specify --null (-0) with command")
      else do
        let (files, moved) ← match o.value? 'C' with
          | some folder => do pure (← movedTo c wrong folder, tell (octets "chdir:    " ++ inQuotes folder))
          | none => pure (c.files, [])
        let words := tell (octets "executing: " ++ program)
          ++ (program :: args).zipIdx.flatMap fun (a, i) => tell (octets "   arg[" ++ number i ++ octets "]= " ++ inQuotes a)
        let advice := if program.any betweenWords then c.complaint (octets "use -[v]S to pass options in shebang lines") else []
        withNotes (moved ++ words) (match runOrShell run program args c.stream files environment with
          | .ok r => return { r with files := { r.files with here := c.files.here } }
          | .error e =>
            let complaint := c.complaint (inQuotes program ++ octets ": " ++ briefCause e)
            let status := launchFailure e
            .error { c.done status [] with err := complaint ++ if status = 127 then advice else [] }))

end ScriptBridge.Shell
