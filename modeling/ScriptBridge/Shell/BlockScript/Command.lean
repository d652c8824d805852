/-
The command that runs a program: where the program comes from, the state that it starts in, and what its end means.
-/
import ScriptBridge.Shell.BlockScript.Failure
import ScriptBridge.Shell.BlockScript.Run

namespace ScriptBridge.Shell.BlockScript

/-- how many steps a program may lie in each other -/
def runLimit : Nat := 4000000

/-- a program: how its file is called, its text, the lines that can be shown, and its arguments -/
structure Start where
  file : Characters
  text : Characters
  shows : Bool
  args : List Characters

/-- the state that a program starts in -/
def World.start (c : Call) (s : Start) : World :=
  let stream (name mode : String) (n : Nat) : Thing := .file ⟨name.toList, mode, [], [], some n, false⟩
  let globals : List (String × Value) :=
    [("__name__", textValue "__main__"), ("__doc__", .none), ("__file__", .text s.file)]
  let environment := c.environment.map fun (n, v) => (Value.text (decode n), Value.text (decode v))
  let folder := decode (placeText c.files.here)
  let modules : List (String × Value) :=
    [("argv", .ref 4), ("stdin", .ref 1), ("stdout", .ref 2), ("stderr", .ref 3), ("__stdin__", .ref 1),
      ("__stdout__", .ref 2), ("__stderr__", .ref 3), ("path", .ref 8), ("modules", .ref 9)]
  { heap := #[.scope globals none [] false, stream "<stdin>" "r" 0, stream "<stdout>" "w" 1, stream "<stderr>" "w" 2,
      .list (s.args.map .text), .dict "dict" .none environment, .scope modules none [] false,
      .scope [("environ", .ref 5)] none [] false, .list [.text folder], .dict "dict" .none []]
    call := c
    input := c.input
    files := c.files
    out := []
    err := []
    flushed := 0
    lead := none
    path := folder
    lines := if s.shows then cutBy ['\n'] (s.text.length + 1) none s.text [] else []
    args := s.args
    frame := "<module>"
    depth := 0
    handled := none
    traces := []
    modules := [("sys", 6), ("os", 7)]
    yielded := [] }

/-- the status that a program ends with by itself, with what is said then -/
def endStatus (call : Caller) (e : Value) : Work (Nat × Characters) := do
  match ← exceptionArgs e with
  | [] => return (0, [])
  | [.none] => return (0, [])
  | [v] =>
    match int? v with
    | some n => return ((Int.fmod n 256).toNat, [])
    | none => do return (1, (← shown call v) ++ ['\n'])
  | several => do return (1, (← displayed call valueDepth (.tuple several)) ++ ['\n'])

/-- runs a program up to its end, and says what went wrong; the status is given, and whether held back output is kept -/
def runToEnd (s : Start) : Work (Nat × Bool) := do
  let call := callValue runLimit
  let w ← get
  match readProgram s.text with
  | .error fault => do
    -- what is found after all was read is shown with its line only where that can be looked up
    if fault.line = 0 then
      writeErr (encode (endFaultText s.file s.text fault))
      return (1, true)
    let lines := if fault.reached = 0 then w.lines else cutBy ['\n'] (s.text.length + 1) none s.text []
    writeErr (encode (faultText s.file lines fault))
    return (1, true)
  | .ok (body, odd) => do
    for (line, c) in odd do
      let warning := String.ofList s.file ++ s!":{line}: SyntaxWarning: invalid escape sequence '\\{c}'\n"
      let shown := match w.lines[line - 1]? with
        | some o => "  ".toList ++ dropStartWhile isSpaceChar (dropEndWhile isSpaceChar o) ++ ['\n']
        | none => []
      writeErr (encode (warning.toList ++ shown))
    tryCatch (do
      execAll runLimit 0 body
      return (0, true)) fun
      | .raised e trace => do
        if ← comesFrom (← classOf e) (.builtin "SystemExit") then
          let (status, message) ← endStatus call e
          if !message.isEmpty then writeErr (encode message)
          return (status, true)
        else do
          let globals ← match ← thingAt 0 with
            | .scope values _ _ _ => pure (values.map Prod.fst)
            | _ => pure []
          writeErr (encode (← failureText call s.file w.lines globals 50 e trace))
          return (1, true)
      | .halted status => return (status, false)
      | _ => return (0, true)

/-- how much of the input is taken in at once -/
def inputBlock : Nat := 8192

/-- runs a program; the input is taken in blocks -/
def Start.run (s : Start) (c : Call) : UtilityRun :=
  let start := World.start c s
  let (r, w) := (runToEnd s).run.run start
  let (status, complete) := match r with
    | .ok r => r
    | .error _ => (1, true)
  let out := w.out.reverse.flatten
  let out := if complete then out else out.take w.flushed
  let used := c.input.length - w.input.length
  let left := if used = 0 then c.input else c.input.drop ((used + inputBlock - 1) / inputBlock * inputBlock)
  ⟨status, out, w.err.reverse.flatten, w.lead, left, w.files⟩

/-- the version that is told -/
def versionText : String := "Python 3.12.3\n"

/-- how the command is used -/
def usageText (c : Call) : Octets :=
  octets "usage: " ++ c.name ++ octets " [option] ... [-c cmd | -m mod | file | -] [arg] ...\nTry \x60"
    ++ octets "python -h' for more information.\n"

/-- a program from the input -/
def fromInput (c : Call) (args : List Characters) : UtilityRun :=
  Start.run ⟨"<stdin>".toList, newLines (decode c.input), false, args⟩ { c with stream := { c.stream with rest := [] } }

/-- a program from a file -/
def fromFile (c : Call) (name : Octets) (args : List Octets) : UtilityRun :=
  let folder := placeText c.files.here
  let file := if name.head? == some '/' then name else if folder == ['/'] then '/' :: name else folder ++ '/' :: name
  let refuse (status : Nat) (message : Octets) : UtilityRun := { c.done status [] with err := c.complaint message }
  if c.files.isFolder (pathOf name) then
    { c.done 1 [] with err := octets "/usr/bin/python3: can't find '__main__' module in '" ++ file ++ octets "'\n" }
  else match c.files.read (pathOf name) with
    | .error e =>
      let (number, _, wording) := fileFailure e
      refuse 2 (octets "can't open file '" ++ file ++ octets s!"': [Errno {number}] {wording}")
    | .ok bytes =>
      let text := newLines (decode (ofBytes bytes))
      Start.run ⟨decode file, text, true, (name :: args).map decode⟩ c

/-- the module that shows data in lines -/
def dataTool (args : List Octets) : Characters :=
  let named := args.filterMap fun a => match String.ofList a with
    | "--sort-keys" => some "sort_keys=True"
    | "--no-ensure-ascii" => some "ensure_ascii=False"
    | "--compact" => some "separators=(',', ':')"
    | "--no-indent" => some "separators=(', ', ': ')"
    | "--tab" => some "indent='\\t'"
    | _ => none
  let shaped : Bool := named.any fun n => n.startsWith "separators" || n.startsWith "indent"
  let options := String.intercalate ", " (named ++ if shaped then [] else ["indent=4"])
  let file : String := match args.filter fun a => a.head? != some '-' with
    | name :: _ => "open(" ++ String.ofList (textRepr false (decode name)) ++ ")"
    | [] => "sys.stdin"
  ("import json, sys\ntry:\n    x = json.load(" ++ file ++ ")\nexcept ValueError as e:\n    raise SystemExit(e)\n"
    ++ "print(json.dumps(x, " ++ options ++ "))\n").toList

mutual

/-- runs the command with its arguments -/
def runArgs (c : Call) : Nat → List Octets → UtilityRun
  | 0, _ => c.done 2 []
  | fuel + 1, args =>
    match args with
    | [] => fromInput c [[]]
    | ['-'] :: rest => fromInput c (['-'] :: rest.map decode)
    | [['-', '-']] => fromInput c [[]]
    | ['-', '-'] :: name :: more => fromFile c name more
    | arg :: rest =>
      match String.ofList arg, arg with
      | "--version", _ => c.done 0 (octets versionText)
      | "--help", _ => c.done 0 (usageText c)
      | _, '-' :: letters => runFlags c fuel letters rest
      | _, name => fromFile c name rest

/-- takes the letters of an option -/
def runFlags (c : Call) : Nat → Octets → List Octets → UtilityRun
  | 0, _, _ => c.done 2 []
  | fuel + 1, letters, rest =>
    let value (more : Octets) : List Octets := if more.isEmpty then rest else more :: rest
    match letters with
    | [] => runArgs c fuel rest
    | 'V' :: _ => c.done 0 (octets versionText)
    | 'h' :: _ => c.done 0 (usageText c)
    | 'c' :: more =>
      match value more with
      | code :: args =>
        Start.run ⟨"<string>".toList, newLines (decode code) ++ ['\n'], false, ['-', 'c'] :: args.map decode⟩ c
      | [] => { c.done 2 [] with err := octets "Argument expected for the -c option\n" ++ usageText c }
    | 'm' :: more =>
      match value more with
      | name :: args =>
        if name == octets "json.tool" then
          Start.run ⟨"<string>".toList, dataTool args, false, name :: args.map decode⟩ c
        else { c.done 1 [] with err := octets "/usr/bin/python3: No module named " ++ name ++ ['\n'] }
      | [] => { c.done 2 [] with err := octets "Argument expected for the -m option\n" ++ usageText c }
    | 'W' :: more => runArgs c fuel ((value more).drop 1)
    | 'X' :: more => runArgs c fuel ((value more).drop 1)
    | letter :: more =>
      if !"bBdEiIOqsSuvxP".toList.contains letter then
        { c.done 2 [] with err := octets "Unknown option: -" ++ letter :: '\n' :: usageText c }
      else if more.isEmpty then runArgs c fuel rest
      else runFlags c fuel more rest

end

/-- runs the command -/
def command (c : Call) : Running UtilityRun := return runArgs c (c.args.foldl (fun n a => n + a.length + 2) 4) c.args

end ScriptBridge.Shell.BlockScript
