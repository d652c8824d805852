/-
Utilities that run other programs: `xargs`, `nice`, `nohup`, `timeout` and `stdbuf`. What they run answers
with its status and its output; a program that cannot be run has a status of its own.
-/
import ScriptBridge.Shell.Answers
import ScriptBridge.Shell.Signal

namespace ScriptBridge.Shell

/-- the status of a program that cannot be run -/
def launchFailure (e : FileError) : Nat :=
  match e with
  | .notFound => 127
  | .notFolder => 127
  | _ => 126

/-- runs a program; a script without an interpreter is one for the shell -/
def runOrShell (run : Runner) (program : Octets) (args : List Octets) (stream : Stream) (files : Files)
    (environment : List (Octets × Octets)) : Except FileError UtilityRun :=
  match run program args stream files environment with
  | .error .badFormat => run (octets "/bin/sh") (program :: args) stream files environment
  | result => result

/-- runs a program in place of the utility; `before` and `after` stand around its name in a complaint -/
def handOver (run : Runner) (c : Call) (before after : String) (environment : List (Octets × Octets)) (program : Octets)
    (args : List Octets) : Running UtilityRun :=
  match runOrShell run program args c.stream c.files environment with
  | .ok r => return r
  | .error e => c.refuse (launchFailure e) (octets before ++ program ++ octets after ++ briefCause e)

/-- puts a variable among others -/
def withVariable (environment : List (Octets × Octets)) (name value : Octets) : List (Octets × Octets) :=
  (Table.mk environment |>.put name value).entries

/-- runs a program with less weight, which makes no difference -/
def nice (run : Runner) (c : Call) : Running UtilityRun := do
  -- a number after a dash is an adjustment
  let args := match c.args with
    | ('-' :: word) :: rest =>
      let digits := match word with
        | '-' :: digits => digits
        | '+' :: digits => digits
        | digits => digits
      if digits.head?.any Char.isDigit then ['-', 'n'] :: word :: rest else c.args
    | args => args
  let (o, rest) ← { c with args }.parse
    { flags := "", valued := "n", words := [("adjustment", 'n')], wrong := 125, leading := true }
  match (o.value? 'n').bind fun text => if (readNumber? text).isSome then none else some text with
  | some text => c.refuse 125 (octets "invalid adjustment '" ++ text ++ ['\''])
  | none => pure ()
  match rest with
  | [] => if o.has 'n' then c.misuse 125 (octets "a command must be given with an adjustment") else return c.done 0 ['0', '\n']
  | program :: args => handOver run c "'" "': " c.environment program args

/-- runs a program that outlives its terminal -/
def nohup (run : Runner) (c : Call) : Running UtilityRun := do
  let (_, rest) ← c.parse { flags := "", valued := "", words := [], wrong := 125, leading := true }
  match rest with
  | [] => c.misuse 125 (octets "missing operand")
  | program :: args => handOver run c "failed to run command '" "': " c.environment program args

/-- runs a program with other buffers, which makes no difference -/
def stdbuf (run : Runner) (c : Call) : Running UtilityRun := do
  let (o, rest) ← c.parse
    { flags := "", valued := "ioe", words := [("input", 'i'), ("output", 'o'), ("error", 'e')], wrong := 125, leading := true }
  match rest with
  | [] => c.misuse 125 (octets "missing operand")
  | program :: args =>
    let isMode (mode : Octets) : Bool :=
      let digits := mode.takeWhile Char.isDigit
      mode == ['L'] || (!digits.isEmpty && (mode.drop digits.length).all fun d => "kKMGTPEZYBD".toList.contains d)
    if o.given.isEmpty then c.misuse 125 (octets "you must specify a buffering mode option")
    else if o.value? 'i' == some ['L'] then c.misuse 125 (octets "line buffering stdin is meaningless")
    else match o.given.find? fun g => !isMode g.2 with
    | some (_, mode) => c.refuse 125 (octets "invalid mode " ++ inQuotes mode)
    | none => handOver run c "failed to run command '" "': " c.environment program args

/-- runs a program for a time. Only a program that does nothing but wait takes any. -/
def timeout (run : Runner) (c : Call) : Running UtilityRun := do
  let (o, rest) ← c.parse
    { flags := "vfp", valued := "sk", wrong := 125, leading := true
      words := [("signal", 's'), ("kill-after", 'k'), ("verbose", 'v'), ("foreground", 'f'), ("preserve-status", 'p')] }
  let signal ← match o.value? 's' with
    | none => pure 15
    | some word =>
      match signalNumber? (if (octets "SIG").isPrefixOf word then word.drop 3 else word) with
      | some n => pure n
      | none => c.misuse 125 (inQuotes word ++ octets ": invalid signal")
  match rest with
  | limit :: program :: args =>
    match duration? limit with
    | none => c.misuse 125 (octets "invalid time interval '" ++ limit ++ ['\''])
    | some limit =>
      let waits := (args.map fun a => (duration? a).getD 0).foldl (· + ·) 0
      if lastPart program == "sleep".toList && limit != 0 && limit < waits then
        let status := if signal = 9 && !o.has 'f' then signalled 9
          else if signal = 9 || o.has 'p' then signalBase + signal else 124
        let note := octets "sending signal " ++ signalName signal ++ octets " to command " ++ inQuotes program
        return { c.done status [] with err := if o.has 'v' then c.complaint note else [] }
      else handOver run c "failed to run command '" "': " c.environment program args
  | _ => c.misuse 125 []

/-! ## Arguments from the input -/

/-- what is read of an input for arguments: the lines, each with its items; `left` is the quote that is left open -/
structure ReadItems where
  lines : List (List Octets)
  left : Option Char

/-- reads the items of an input. A blank ends an item, a line feed a line; quotes and backslashes keep them. With
`whole`, a line is one item without its leading blanks. A line that ends with a blank goes on. -/
def readItems (whole : Bool) : Nat → Option Octets → List Octets → List (List Octets) → Octets → ReadItems
  | 0, _, _, done, _ => ⟨done.reverse, none⟩
  | fuel + 1, item, line, done, o =>
    let close : List Octets := match item with
      | some i => i.reverse :: line
      | none => line
    let finished (line : List Octets) : List (List Octets) := if line.isEmpty then done else line.reverse :: done
    match o with
    | [] => ⟨(finished close).reverse, none⟩
    | '\n' :: rest => readItems whole fuel none [] (finished close) rest
    | '\\' :: c :: rest => readItems whole fuel (some (c :: item.getD [])) line done rest
    | c :: rest =>
      if c == '\'' || c == '"' then
        let quoted := rest.takeWhile fun d => d != c && d != '\n'
        if (rest.drop quoted.length).head? == some c then
          readItems whole fuel (some (quoted.reverse ++ item.getD [])) line done (rest.drop (quoted.length + 1))
        else ⟨(finished line).reverse, some c⟩
      else if (c == ' ' || c == '\t') && !(whole && item.isSome) then
        let rest' := rest.dropWhile fun d => d == ' ' || d == '\t'
        if !whole && rest'.head? == some '\n' && !close.isEmpty then readItems whole fuel none close done (rest'.drop 1)
        else readItems whole fuel none close done rest'
      else readItems whole fuel (some (c :: item.getD [])) line done rest

/-- lists of so many items -/
def inGroups {α : Type} (size : Nat) : Nat → List α → List (List α)
  | 0, _ => []
  | fuel + 1, items => if items.isEmpty then [] else items.take size :: inGroups size fuel (items.drop size)

/-- a text with each place of a mark replaced -/
def replaceMark (mark item : Octets) : Nat → Octets → Octets
  | 0, o => o
  | _, [] => []
  | fuel + 1, c :: rest =>
    if !mark.isEmpty && mark.isPrefixOf (c :: rest) then
      item ++ replaceMark mark item fuel ((c :: rest).drop mark.length)
    else c :: replaceMark mark item fuel rest

/-- what a utility makes of the status of a command that it ran: its own status, unless that stays, what it says of it,
and whether no further command is run -/
structure Verdict where
  status : Option Nat
  complaint : Octets
  stops : Bool

/-- what `xargs` makes of the status of a command -/
def itemVerdict (c : Call) (program : Octets) (status : Nat) : Verdict :=
  match endingSignal? status with
  | some n => ⟨some 125, c.complaint (program ++ octets ": terminated by signal " ++ number n), true⟩
  | none =>
    if status = 255 then ⟨some 124, c.complaint (program ++ octets ": exited with status 255; aborting"), true⟩
    else ⟨if status = 0 then none else some 123, [], false⟩

/-- runs commands one after the other, with nothing on their input -/
def runEachCommand (run : Runner) (c : Call) (shown : Bool) (verdict : Octets → Nat → Verdict)
    (commands : List (List Octets)) : UtilityRun :=
  let (r, _) := commands.foldl (fun (acc : UtilityRun × Bool) words =>
    let (r, stopped) := acc
    match stopped, words with
    | false, program :: args =>
      let r := if shown then { r with err := r.err ++ joinWith [' '] words ++ ['\n'] } else r
      match runOrShell run program args ⟨[], none⟩ r.files c.environment with
      | .ok next =>
        let v := verdict program next.status
        ({ r with
          status := v.status.getD r.status
          out := r.out ++ next.out
          err := r.err ++ next.err ++ v.complaint
          files := next.files }, v.stops)
      | .error e =>
        ({ r with status := launchFailure e, err := r.err ++ c.complaint (plainComplaint program e) }, true)
    | _, _ => acc) (c.done 0 [], false)
  r

/-- runs a program with the items of its input as arguments -/
def xargs (run : Runner) (c : Call) : Running UtilityRun := do
  let (o, command) ← c.parse
    { flags := "0rtxpio", valued := "InLPsdaE", wrong := 1, leading := true
      words := [("null", '0'), ("no-run-if-empty", 'r'), ("verbose", 't'), ("replace", 'I'), ("max-args", 'n'),
        ("max-lines", 'L'), ("max-procs", 'P'), ("delimiter", 'd'), ("arg-file", 'a'), ("exit", 'x')] }
  let numberFor (letter : Char) : Running (Option Nat) :=
    match o.value? letter with
    | none => pure none
    | some text => match readNumber? text with
      | some n =>
        if n < 1 && letter != 'P' then
          c.refuse 1 (octets "value " ++ text ++ octets " for -" ++ letter :: octets " option should be >= 1")
        else pure (some n.toNat)
      | none => c.misuse 1 (octets "invalid number \"" ++ text ++ octets "\" for -" ++ letter :: octets " option")
  let size? ← numberFor 'n'
  let lines? ← numberFor 'L'
  let room? ← numberFor 's'
  let _ ← numberFor 'P'
  let mark? := (o.value? 'I').orElse fun _ => if o.has 'i' then some ['{', '}'] else none
  let (input, left) ← match o.value? 'a' with
    | none => pure (c.input, [])
    | some name => match c.readFile name with
      | .ok content => pure (content, c.input)
      | .error e => c.refuse 1 (octets "Cannot open input file " ++ plainComplaint name e)
  let separator? : Option Char := if o.has '0' then some (Char.ofNat 0) else (o.value? 'd').bind fun text =>
    match text with
    | '\\' :: rest => ((escapedChar? rest).map Prod.fst).orElse fun _ => some '\\'
    | other => other.head?
  let items : ReadItems := match separator? with
    | some d =>
      let parts := cutAt d input
      ⟨(if parts.getLast? == some [] then parts.dropLast else parts).map fun i => [i], none⟩
    | none => readItems mark?.isSome (input.length + 1) none [] [] input
  let command := if command.isEmpty then ["echo".toList] else command
  let all := items.lines.flatten
  let commands := match mark? with
    | some mark => all.map fun item => command.map fun a => replaceMark mark item (a.length + 1) a
    | none =>
      let groups := match lines?, size? with
        | some n, _ => (inGroups n (items.lines.length + 1) items.lines).map List.flatten
        | none, some n => inGroups n (all.length + 1) all
        | none, none => match room? with
          | none => if all.isEmpty then [] else [all]
          | some room =>
            let length (words : List Octets) : Nat := words.foldl (fun n w => n + w.length + 1) 0
            (all.foldl (fun (groups : List (List Octets)) item =>
              match groups with
              | last :: before =>
                if length command + length (last ++ [item]) ≤ room then (last ++ [item]) :: before
                else [item] :: groups
              | [] => [[item]]) []).reverse
      let groups := if groups.isEmpty && !o.has 'r' && items.left.isNone then [[]] else groups
      groups.map fun g => command ++ g
  let r := { runEachCommand run c (o.has 't') (itemVerdict c) commands with input := left }
  match items.left with
  | none => return r
  | some quote =>
    let kind := if quote == '"' then "double" else "single"
    return { r with
      status := 1
      err := r.err ++ c.complaint (octets ("unmatched " ++ kind
        ++ " quote; by default quotes are special to xargs unless you use the -0 option")) }

end ScriptBridge.Shell
