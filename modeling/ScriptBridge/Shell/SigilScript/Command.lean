/-
The command that runs a program: where the program comes from, the state that it starts in, the loop over the lines of its
files that may be put around it, and what its end means.
-/
import ScriptBridge.Shell.SigilScript.Statement

namespace ScriptBridge.Shell.SigilScript

/-- how deep the parts of a running program may lie in each other -/
def runLimit : Nat := 4000000

/-- how a program is run: the parts that were given as its text, whether it is run for each line and whether the line is
written then, whether lines are cut and where, how lines end, what is brought in, whether arguments set variables, and the
arguments -/
structure Start where
  parts : List Octets
  speaks : Bool
  loops : Bool
  writes : Bool
  cuts : Bool
  cutAt : Octets
  lines : Option Value
  input : Option (Option Nat)
  edits : Option Octets
  brought : List (String × Octets)
  checks : Bool
  options : Bool
  coded : Bool
  sets : Bool
  args : List Octets
deriving Inhabited

/-- a text that ends lines, as a number tells it -/
def endText (n : Nat) : Value :=
  if n = 0 then .text [Char.ofNat 0] else if 256 ≤ n then .undefined else .text [Char.ofNat n]

/-- how lines of the input end; two zeros stand for empty lines -/
def Start.lineMark (s : Start) : Value :=
  match s.input with
  | some (some 0) => .text []
  | some (some n) => endText n
  | some none => .text [Char.ofNat 0]
  | none => .text ['\n']

/-- the variables that arguments set in front of the others, if they may -/
def Start.settings (s : Start) : Start × List (String × Value) :=
  let rec go : List Octets → List (String × Value) → List Octets × List (String × Value)
    | ['-', '-'] :: rest, set => (rest, set)
    | ('-' :: c :: word) :: rest, set =>
      let text := c :: word
      let name := text.takeWhile (· != '=')
      let v : Value := if name.length < text.length then .text (text.drop (name.length + 1)) else .int 1
      go rest (set ++ [(String.ofList name, v)])
    | args, set => (args, set)
  if s.sets then
    let (args, set) := go s.args []
    ({ s with args }, set)
  else (s, [])

/-- the state that a program starts in -/
def World.start (c : Call) (run : Runner) (file : String) (s : Start) : World :=
  let (s, set) := s.settings
  let cells : List (String × Value) :=
    [("/", s.lineMark),
      ("\"", .text [' ']), (";", .text [Char.ofNat 28]), ("0", textValue file), ("@", .text []), ("]", textValue "5.038002"),
      ("^O", textValue "linux"), ("^W", .int 0), ("^X", textValue "/usr/bin/perl"), ("^V", textValue "v5.38.2"),
      ("^T", .int timeNow), ("|", .int 0), ("_", .undefined),
      ("\\", s.lines.getD .undefined)] ++ set
  let base : Nat := 6
  let named := cells.zipIdx.map fun ((name, _), i) => ("$main::" ++ name, base + i)
  let argsAt := base + cells.length
  let argv := s.args.zipIdx.map fun (_, i) => argsAt + i
  let environmentAt := argsAt + s.args.length
  let environment := c.environment.zipIdx.map fun ((name, _), i) => (name, environmentAt + i)
  let after := environmentAt + c.environment.length
  let natives := (moduleFunctions "utf8").map fun f => "utf8::" ++ f
  let natives := natives ++ ["UNIVERSAL::isa"]
  let standard : List Thing :=
    [.file (.ofStream "STDIN" 0), .file (.ofStream "STDOUT" 1), .file (.ofStream "STDERR" 2)]
  let heap : List Thing := [.cell .undefined, .scope [] none, .array #[]] ++ standard
    ++ cells.map (fun (_, v) => .cell v) ++ s.args.map (fun o => .cell (.text o))
    ++ c.environment.map (fun (_, v) => .cell (.text v)) ++ [.array argv.toArray, .table environment] ++ natives.map .native
  let globals : List (String × Nat) :=
    named ++ [("*main::STDIN", 3), ("*main::STDOUT", 4), ("*main::STDERR", 5), ("@main::ARGV", after), ("%main::ENV", after + 1)]
      ++ natives.zipIdx.map fun (n, i) => ("&" ++ n, after + 2 + i)
  { heap := heap.toArray
    blessed := {}
    globals := .ofList globals
    call := c
    run
    input := c.input
    files := c.files
    out := []
    err := []
    held := 0
    flushed := 0
    lead := none
    file
    line := 1
    package := "main"
    scope := 1
    args := 2
    want := .nothing
    found := none
    positions := []
    walks := []
    saved := []
    frames := []
    reading := none
    strict := false
    cause := 0
    child := 0
    compiled := {}
    seed := 42
    ends := []
    queue := none
    edits := s.edits
    selected := 4
    lasting := []
    texts := 0 }

/-- puts the loop over lines around a program, where it is asked for -/
def Start.around (s : Start) (body : List Stmt) : List Stmt :=
  if !s.loops then body
  else
    let first : Stmt → Bool := fun
      | .function "BEGIN" _ => true
      | .function "END" _ => true
      | .bring .. => true
      | _ => false
    let topic : Expr := .scalar "_"
    let chomp : List Stmt := if s.lines.isSome then [.expr 0 (.builtin "chomp" [])] else []
    let pattern : Expr := if s.cutAt.isEmpty then .literal (.text [' '])
      else if s.cutAt == [' '] then .literal (.text [' ']) else .search none false (.find [.plain s.cutAt] "")
    let cut : List Stmt := if s.cuts then
        [.expr 0 (.assign "" (.declare .everywhere [.array "F"] false) (.builtin "split" [pattern, topic]))]
      else []
    let test : Expr := .builtin "defined" [.assign "" topic (.readFrom (.handle ""))]
    let after : List Stmt := if s.writes then
        [.expr 0 (.either (.print "print" none []) (.builtin "die" [.literal (.text (octets "-p destination: $!\n"))]))]
      else []
    body.filter first ++ [.loop 0 "LINE" (some test) none (chomp ++ cut ++ body.filter fun b => !first b) after]

/-- what is said about a program that cannot be read -/
def faultText (file : String) (checks : Bool) (fault : Fault) (notes : List String) : Octets :=
  let last := if checks then s!"{file} had compilation errors.\n"
    else s!"Execution of {file} aborted due to compilation errors.\n"
  if fault.rows then octets (String.join notes ++ fault.message ++ last)
  else octets (String.join notes ++ fault.message ++ s!" at {file} line {fault.line}.\n")

/-- the status of a program that died -/
def diedStatus : Work Nat := do
  let w ← get
  if w.cause % 256 != 0 then return w.cause % 256
  else if w.child / 256 % 256 != 0 then return (w.child / 256 % 256).toNat
  else return 255

/-- runs something up to its end; the status is given -/
def toEnd (act : Work Unit) : Work Nat :=
  tryCatch (do
    act
    return 0) fun
    | .died v => do
      writeErr (← textOf v)
      diedStatus
    | .halted n => return n
    | .out label => loopless "last" label
    | .again label => loopless "next" label
    | .anew label => loopless "redo" label
    | _ => return 0
where
  /-- what it means to leave a loop where there is none -/
  loopless (word label : String) : Work Nat := do
    if label.isEmpty then writeErr (octets s!"Can't \"{word}\" outside a loop block" ++ (← placeWords))
    else writeErr (octets s!"Label not found for \"{word} {label}\"" ++ (← placeWords))
    diedStatus

/-- runs a program, and what is to be done at its end -/
def runToEnd (s : Start) (body : List Stmt) (data : Option Octets) : Work Nat := do
  let ev := evaluator runLimit
  match data with
  | some o => if (← get).file != "-e" then putHandle "DATA" ⟨"DATA", [], true, false, o, [], none, none, 0, false, false⟩
  | none => pure ()
  if s.coded then bring "open" [":std", "utf8"]
  let status ← toEnd do
    let _ ← hoist "main" body
    (s.around body).forM (runStmt ev)
  if (endingSignal? status).isSome then return status
  modify fun w => { w with child := status, scope := 1, saved := [], args := 2, frames := [] }
  let rec finish : Nat → Nat → Work Nat
    | 0, status => return status
    | fuel + 1, status => do
      match (← get).ends with
      | [] => return status
      | f :: rest => do
        modify fun w => { w with ends := rest, child := status }
        let r ← toEnd do
          let _ ← ev.apply f [] .nothing
        let after := (← get).child
        finish fuel (if r = 0 then (after % 256).toNat else r)
  let status ← finish 1000 status
  endEdit
  passOnAll
  return status

/-- how much of the input is taken in at once -/
def inputBlock : Nat := 8192

/-- what is said about a module that is not there -/
def missingText (name : String) : Octets :=
  octets ("Can't locate " ++ String.intercalate "/" (name.splitOn "::") ++ ".pm in @INC (you may need to install the " ++ name
    ++ " module) (@INC entries checked: " ++ String.intercalate " " builtinMany.searchedFolders
    ++ ").\nBEGIN failed--compilation aborted.\n")

/-- runs a program that was read; where its text came from the input, the input is what follows its end -/
def Start.run (s : Start) (c : Call) (run : Runner) (file : String) (text : Octets) (fromInput : Bool) : UtilityRun :=
  match s.brought.find? fun m => !knownModules.contains m.1 with
  | some m => { c.done 2 [] with err := missingText m.1 }
  | none =>
  match readProgram file ((s.brought.flatMap Prod.snd) ++ text) s.speaks with
  | .error fault => { c.done 255 [] with err := faultText file s.checks fault [] }
  | .ok (body, source) =>
    if !source.faults.isEmpty then
      { c.done 255 [] with err := faultText file s.checks ⟨"", 0, true⟩ source.faults }
    else if s.checks then { c.done 0 [] with err := octets s!"{file} syntax OK\n" }
    else
      let start := World.start c run file s
      let start := if fromInput then { start with input := source.data.getD [] } else start
      let (r, w) := (runToEnd s body source.data).run.run start
      let status := match r with
        | .ok status => status
        | .error _ => 255
      let used := c.input.length - w.input.length
      let taken := (used + inputBlock - 1) / inputBlock * inputBlock
      let left := if fromInput then w.input else c.input.drop taken
      let out := w.out.reverse.flatten
      let out := if (endingSignal? status).isSome then out.take w.flushed else out
      ⟨status, out, w.err.reverse.flatten, w.lead, left, w.files⟩

/-! ## Options -/

/-- the number that octal digits at the start of a text are, if there are some -/
def octalAt (o : Octets) : Option Nat × Octets :=
  let digits := (o.take 4).takeWhile fun c => (digitOf? 8 c).isSome
  (if digits.isEmpty then none else some (digitsIn 8 digits).1, o.drop digits.length)

/-- the version that is told -/
def versionText : String :=
  "\nThis is perl 5, version 38, subversion 2 (v5.38.2) built for x86_64-linux-gnu-thread-multi\n(with 51 registered patches, "
    ++ "see perl -V for more detail)\n"

/-- what reading the options comes to: the start, or what is done in its place -/
abbrev Opting := Except (Nat × Octets × Octets) (Start × List Octets)

/-- takes the letters of an option. `fromText` says that they stand in the first line of the program. -/
def takeLetters (fromText : Bool) : Nat → Octets → List Octets → Start → Opting
  | 0, _, rest, s => .ok (s, rest)
  | fuel + 1, letters, rest, s =>
    let plain (more : Octets) (s : Start) : Opting := takeLetters fromText fuel more rest s
    match letters with
    | [] => .ok (s, rest)
    | 'n' :: more => plain more { s with loops := true }
    | 'p' :: more => plain more { s with loops := true, writes := true }
    | 'a' :: more => plain more { s with cuts := true, loops := true }
    | 'w' :: more | 'W' :: more | 'X' :: more | 't' :: more | 'T' :: more | 'u' :: more | 'U' :: more | 'S' :: more
    | 'f' :: more => plain more s
    | 'c' :: more => plain more { s with checks := true }
    | 's' :: more => plain more { s with sets := true }
    | 'v' :: _ => .error (0, octets versionText, [])
    | 'g' :: more => plain more { s with input := some (some 511) }
    | 'l' :: more =>
      let (n, more) := octalAt more
      let mark := match n, s.input with
        | some n, _ => endText n
        | none, some (some 0) => .text ['\n', '\n']
        | none, _ => s.lineMark
      plain more { s with lines := some mark }
    | '0' :: 'x' :: more =>
      let digits := more.takeWhile fun c => (digitOf? 16 c).isSome
      plain (more.drop digits.length) { s with input := some (some (digitsIn 16 digits).1) }
    | '0' :: more =>
      let (n, more) := octalAt more
      plain more { s with input := some n }
    | 'i' :: more => .ok ({ s with edits := some more }, rest)
    | 'F' :: more =>
      let (text, rest) := if more.isEmpty then (rest.headD [], rest.drop 1) else (more, rest)
      let text := match text with
        | q :: inner =>
          if (q == '/' || q == '"' || q == '\'') && inner.getLast? == some q then inner.dropLast else text
        | [] => text
      .ok ({ s with cutAt := text, cuts := true, loops := true }, rest)
    | 'M' :: more | 'm' :: more =>
      let (name, rest) := if more.isEmpty then (rest.headD [], rest.drop 1) else (more, rest)
      let head := name.takeWhile (· != '=')
      let module := if head.head? == some '-' then octets "no " ++ head.drop 1 else octets "use " ++ head
      let names := (name.drop (head.length + 1)).map fun c => if c == ',' then ' ' else c
      let line := if head.length < name.length then module ++ octets " qw(" ++ names ++ octets ");" else module ++ [';']
      .ok ({ s with brought := s.brought ++ [(String.ofList (head.dropWhile (· == '-')), line)] }, rest)
    | 'I' :: more => .ok (s, if more.isEmpty then rest.drop 1 else rest)
    | 'C' :: more =>
      let digits := more.takeWhile fun c => c.isDigit || c.isAlpha
      plain (more.drop digits.length) { s with coded := true }
    | 'e' :: more | 'E' :: more =>
      if more.isEmpty then
        match rest with
        | text :: rest => .ok ({ s with parts := s.parts ++ [text], speaks := s.speaks || letters.head? == some 'E' }, rest)
        | [] => .error (29, [], octets "No code specified for -" ++ letters.take 1 ++ octets ".\n")
      else .ok ({ s with parts := s.parts ++ [more], speaks := s.speaks || letters.head? == some 'E' }, rest)
    | 'x' :: more => plain more s
    | '-' :: more => if more.isEmpty then .ok (s, rest) else plain more s
    | '\r' :: _ => .ok (s, rest)
    | _ :: _ =>
      if fromText then .ok (s, rest)
      else .error (29, [], octets "Unrecognized switch: -" ++ letters ++ octets "  (-h will show valid options).\n")

/-- takes options; what follows them is given -/
def takeSwitches : Nat → List Octets → Start → Opting
  | 0, args, s => .ok (s, args)
  | fuel + 1, args, s =>
    match args with
    | ['-', '-'] :: rest => .ok (s, rest)
    | ('-' :: c :: letters) :: rest =>
      match takeLetters false (letters.length + 2) (c :: letters) rest s with
      | .ok (s, rest) => takeSwitches fuel rest s
      | .error e => .error e
    | args => .ok (s, args)

/-- the options in the first line of a program -/
def lineSwitches (text : Octets) (s : Start) : Start :=
  let row := text.takeWhile (· != '\n')
  if !(['#', '!'].isPrefixOf row) then s
  else
    let words := (row.splitBy fun a b => isGap a == isGap b).filter fun w => !(w.head?.any isGap)
    let switches := (words.dropWhile fun w => w.head? != some '-')
    switches.foldl (fun s w =>
      match takeLetters true (w.length + 2) (w.drop 1) [] s with
      | .ok (s, _) => s
      | .error _ => s) s

/-- runs the command -/
def command (run : Runner) (c : Call) : Running UtilityRun :=
  let empty : Start := ⟨[], false, false, false, false, [], none, none, none, [], false, true, false, false, []⟩
  match takeSwitches (c.args.length + 1) c.args empty with
  | .error (status, out, err) => return { c.done status out with err }
  | .ok (s, rest) =>
    if !s.parts.isEmpty then
      let text := (s.parts.map fun p => p ++ ['\n']).flatten
      return { s with args := rest }.run c run "-e" text false
    else
      match rest with
      | [] | ['-'] :: _ =>
        let s := { lineSwitches c.input s with args := rest.drop 1 }
        return s.run c run "-" c.input true
      | file :: args =>
        let refuse (cause : String) : Running UtilityRun :=
          return { c.done 2 [] with err := octets "Can't open perl script \"" ++ file ++ octets ("\": " ++ cause ++ "\n") }
        if c.files.isFolder (pathOf file) then refuse "Is a directory"
        else match c.files.read (pathOf file) with
          | .error e => refuse (causeWords (causeNumber e))
          | .ok bytes =>
            let text := ofBytes bytes
            return { lineSwitches text s with args }.run c run (String.ofList file) text false

end ScriptBridge.Shell.SigilScript
