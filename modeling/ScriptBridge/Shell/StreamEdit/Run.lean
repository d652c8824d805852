/-
Running the stream editor. Lines are taken one after the other into a space; the commands of the script are run on it,
and it is printed at the end of the script unless that is switched off. What is to be appended waits until the space is
left.

A line without a line feed at the end of the input is printed without one, unless something follows.
-/
import ScriptBridge.Shell.LineFilter
import ScriptBridge.Shell.StreamEdit.Script

namespace ScriptBridge.Shell.StreamEdit

/-- a line of the input: its text, whether it has an end, and the file that it is in -/
structure InputLine where
  text : Octets
  ended : Bool
  file : Octets

/-- what waits to be appended: a text, or the content of a file as it is -/
inductive Waiting where
  | line (o : Octets)
  | raw (o : Octets)

/-- where a run of the editor is. Output is kept in pieces, the last one first; `owes` says that a line end is missing
in it. `active` holds for each command whether its range is open, and where it ends if that is known. -/
structure State where
  space : Octets
  ended : Bool
  held : Octets
  rest : List InputLine
  file : Octets
  number : Nat
  out : List Octets
  owes : Bool
  waiting : List Waiting
  active : Array (Option (Option Nat))
  replaced : Bool
  last : Option Regex
  written : Table Octets (List Octets)
  sources : Table Octets (List Octets)

/-- how a script ends on a line: at its end, with the space left out, with the space kept for another round, or with
the whole run -/
inductive Ending where
  | finished
  | dropped
  | restarted
  | stopped (status : Nat) (shows : Bool)
  | failed (message : Octets)

/-- what a run is asked for -/
structure Plan where
  commands : Array Command
  silent : Bool
  width : Nat
  mark : Char

namespace State

/-- whether the line is the last one -/
def isLast (s : State) : Bool := s.rest.isEmpty

/-- prints a text as it is -/
def emit (s : State) (o : Octets) : State :=
  { s with out := (if s.owes then '\n' :: o else o) :: s.out, owes := false }

/-- prints a line; its end is left out where the input has none -/
def emitLine (p : Plan) (s : State) (o : Octets) : State :=
  if s.ended then s.emit (o ++ [p.mark]) else { s.emit o with owes := true }

/-- writes a line to a file, or prints it where the name says so -/
def writeLine (p : Plan) (s : State) (name o : Octets) : State :=
  if name == octets "/dev/stdout" then s.emitLine p o
  else { s with written := s.written.put name ((o ++ [p.mark]) :: (s.written.get? name).getD []) }

/-- prints what waits to be appended -/
def flush (s : State) : State :=
  { s.waiting.foldl (fun (s : State) w => match w with
      | .line o => s.emit o
      | .raw o => if o.isEmpty then s else s.emit o) s with waiting := [] }

/-- takes the next line into the space -/
def takeLine (s : State) : Option State :=
  match s.rest with
  | [] => none
  | l :: rest =>
    let s := s.flush
    some { s with space := l.text, ended := l.ended, rest, file := l.file, number := s.number + 1 }

/-- the part of the space up to its first line end -/
def firstLine (s : State) : Octets := s.space.takeWhile (· != '\n')

/-- the regular expression that is wanted -/
def regex? (s : State) (w : Wanted) : Option Regex := w.1.orElse fun _ => s.last

end State

/-- whether an address is that of the line; a missing regular expression is a fault -/
def holds (s : State) : Address → Option (Bool × State)
  | .line n => some (n = s.number, s)
  | .steps first step =>
    some (if step = 0 then s.number = first else first ≤ s.number && (s.number - first) % step = 0, s)
  | .last => some (s.isLast, s)
  | .matching w => (s.regex? w).map fun r => (r.found w.2 s.space, { s with last := some r })
  | .further _ => some (false, s)
  | .multiple n => some (n = 0 || s.number % n = 0, s)

/-- whether a command is for the line, and whether its range is open after it -/
def selected (s : State) (k : Nat) (c : Command) : Option (Bool × State) :=
  let setRange (s : State) (range : Option (Option Nat)) : State := { s with active := s.active.set! k range }
  match c.first, c.second with
  | none, _ => some (true, s)
  | some first, none => holds s first
  | some first, some second =>
    let enter (s : State) : Option (Bool × State) := do
      let (starts, s) ← holds s first
      if !starts then return (false, s)
      else
        let stop? : Option Nat := match second with
          | .line n => some n
          | .further n => some (s.number + n)
          | .multiple n => some (if n = 0 then s.number else (s.number + n - 1) / n * n)
          | _ => none
        match stop? with
        | some stop => return (true, if stop ≤ s.number then s else setRange s (some (some stop)))
        | none => return (true, if second matches .last && s.isLast then s else setRange s (some none))
    match (s.active[k]?).getD none with
    | none => enter s
    | some (some stop) =>
      if s.number < stop then some (true, s)
      else if s.number = stop then some (true, setRange s none)
      else enter (setRange s none)
    | some none => do
      let (stops, s) ← holds s second
      return (true, if stops then setRange s none else s)

/-! ## Substitution -/

/-- a replacement with a match put in, letters changed where that is asked for -/
def filled (parts : List FillPart) (whole : Octets) (groups : List (Nat × Octets)) : Octets :=
  (parts.foldl (fun (acc : List Octets × Option CaseChange × Option CaseChange) part =>
    let (done, mode, once) := acc
    let put (o : Octets) : List Octets × Option CaseChange × Option CaseChange :=
      let o := match mode with
        | some .upper => o.map Char.toUpper
        | some .lower => o.map Char.toLower
        | _ => o
      match once, o with
      | some change, c :: rest =>
        ((if change == .upperNext then c.toUpper :: rest else c.toLower :: rest) :: done, mode, none)
      | _, _ => (o :: done, mode, once)
    match part with
    | .text o => put o
    | .group 0 => put whole
    | .group n => put ((groups.lookup n).getD [])
    | .letters .over => (done, none, none)
    | .letters .upperNext => (done, mode, some .upperNext)
    | .letters .lowerNext => (done, mode, some .lowerNext)
    | .letters change => (done, some change, once)) ([], none, none)).1.reverse.flatten

/-- replaces matches from a place on. `count` is how many came before; `adjacent` says that a match has just ended,
after which an empty one does not count. Gives the pieces, the last one first, and whether anything was replaced. -/
def replaceFrom (sub : Substitution) (r : Regex) :
    Nat → Nat → Bool → Matching → List Octets → Bool → List Octets × Bool
  | 0, _, _, m, acc, changed => (m.rest :: acc, changed)
  | fuel + 1, count, adjacent, m, acc, changed =>
    match r.search sub.wanted.2 m with
    | none => (m.rest :: acc, changed)
    | some (start, stop) =>
      let skipped := start.since m
      let whole := stop.since start
      let stepped (count : Nat) (here : Matching) (acc : List Octets) (changed : Bool) : List Octets × Bool :=
        match here.rest with
        | [] => (acc, changed)
        | c :: rest => replaceFrom sub r fuel count false ⟨c :: here.before, here.place + 1, rest, []⟩ ([c] :: acc) changed
      if adjacent && skipped.isEmpty && whole.isEmpty then stepped count m acc changed
      else
        let count := count + 1
        let replaces := sub.nth ≤ count
        let acc := (if replaces then filled sub.fill whole stop.groups else whole) :: skipped :: acc
        if replaces && !sub.every then (stop.rest :: acc, true)
        else if whole.isEmpty then stepped count stop acc (changed || replaces)
        else replaceFrom sub r fuel count true { stop with groups := [] } acc (changed || replaces)

/-! ## Commands -/

/-- a character as `l` shows it -/
def listed (c : Char) : Octets :=
  match c with
  | '\\' => ['\\', '\\']
  | '\n' => ['\\', 'n']
  | '\t' => ['\\', 't']
  | '\r' => ['\\', 'r']
  | c =>
    if c.toNat = 7 then ['\\', 'a']
    else if c.toNat = 8 then ['\\', 'b']
    else if c.toNat = 12 then ['\\', 'f']
    else if c.toNat = 11 then ['\\', 'v']
    else if ' ' ≤ c && c ≤ '~' then [c]
    else
      let digits := Nat.toDigits 8 c.toNat
      '\\' :: List.replicate (3 - digits.length) '0' ++ digits

/-- a text with everything in it shown, in lines of a width -/
def listing (width : Nat) (o : Octets) : Octets :=
  let (done, _) := o.foldl (fun (acc : List Octets × Nat) c =>
    let shown := listed c
    if 0 < width && width - 1 < acc.2 + shown.length then (shown :: ['\\', '\n'] :: acc.1, shown.length)
    else (shown :: acc.1, acc.2 + shown.length)) ([], 0)
  done.reverse.flatten ++ ['$', '\n']

/-- runs commands from a place on; `files` are read from -/
def runCommands (p : Plan) (readFile : Octets → Option Octets) : Nat → Nat → State → State × Ending
  | 0, _, s => (s, .failed (octets "too many steps"))
  | fuel + 1, k, s =>
    match p.commands[k]? with
    | none => (s, .finished)
    | some c =>
      match selected s k c with
      | none => (s, .failed (octets "-e expression #1, char 0: no previous regular expression"))
      | some (chosen, s) =>
        let onward (s : State) : State × Ending := runCommands p readFile fuel (k + 1) s
        let jump (target : Option Nat) (s : State) : State × Ending :=
          runCommands p readFile fuel (target.getD p.commands.size) s
        let ifChosen := chosen != c.negated
        if !ifChosen then
          match c.action with
          | .block after => runCommands p readFile fuel after s
          | _ => onward s
        else match c.action with
          | .block _ => onward s
          | .close => onward s
          | .label _ => onward s
          | .nothing => onward s
          | .delete => (s, .dropped)
          | .deleteFirst =>
            if s.space.contains '\n' then
              ({ s with space := s.space.drop (s.firstLine.length + 1) }, .restarted)
            else (s, .dropped)
          | .print => onward (s.emitLine p s.space)
          | .printFirst => onward (s.emit (s.firstLine ++ ['\n']))
          | .next =>
            if s.isLast then (s, .finished)
            else
              let s := if p.silent then s else s.emitLine p s.space
              match s.takeLine with
              | some s => onward s
              | none => (s, .finished)
          | .nextAppended =>
            let before := s.space
            match s.takeLine with
            | some s => onward { s with space := before ++ '\n' :: s.space }
            | none => (s, .finished)
          | .hold => onward { s with held := s.space }
          | .holdAppended => onward { s with held := s.held ++ '\n' :: s.space }
          | .fetch => onward { s with space := s.held }
          | .fetchAppended => onward { s with space := s.space ++ '\n' :: s.held }
          | .swap => onward { s with space := s.held, held := s.space }
          | .empty => onward { s with space := [] }
          | .append o => onward { s with waiting := s.waiting ++ [.line o] }
          | .insert o => onward (s.emit o)
          | .change o =>
            let inRange := c.second.isSome && !c.negated && ((s.active[k]?).getD none).isSome
            (if inRange then s else s.emit o, .dropped)
          | .number => onward (s.emit (Shell.number s.number ++ ['\n']))
          | .fileName => onward (s.emit (s.file ++ ['\n']))
          | .list width => onward (s.emit (listing (width.getD p.width) s.space))
          | .quit status => (s, .stopped (status % 256) true)
          | .quitSilently status => (s, .stopped (status % 256) false)
          | .readFile name => onward { s with waiting := s.waiting ++ [.raw ((readFile name).getD [])] }
          | .readLine name =>
            let left := (s.sources.get? name).getD (lines ((readFile name).getD []))
            match left with
            | [] => onward s
            | l :: rest =>
              onward { s with waiting := s.waiting ++ [.line (l ++ ['\n'])], sources := s.sources.put name rest }
          | .write name => onward (s.writeLine p name s.space)
          | .writeFirst name => onward (s.writeLine p name s.firstLine)
          | .substitute sub =>
            match s.regex? sub.wanted with
            | none => (s, .failed (octets "-e expression #1, char 0: no previous regular expression"))
            | some r =>
              let s := { s with last := some r }
              let (pieces, changed) := replaceFrom sub r (2 * s.space.length + 4) 0 false (.atStart s.space) [] false
              if !changed then onward s
              else
                let s := { s with space := pieces.reverse.flatten, replaced := true }
                let s := if 0 < sub.prints then s.emitLine p s.space else s
                onward (match sub.target with
                  | some name => s.writeLine p name s.space
                  | none => s)
          | .exchange source target =>
            onward { s with space := s.space.map fun d => ((source.idxOf? d).bind (target[·]?)).getD d }
          | .branch _ target => jump target s
          | .branchIf _ target => if s.replaced then jump target { s with replaced := false } else onward s
          | .branchUnless _ target => if s.replaced then onward { s with replaced := false } else jump target s

/-- runs the script on what is left of the input; gives the status -/
def runLines (p : Plan) (readFile : Octets → Option Octets) : Nat → Bool → State → State × Nat × Octets
  | 0, _, s => (s, 0, [])
  | fuel + 1, keeps, s =>
    let started := if keeps then some s else s.takeLine.map fun s => { s with replaced := false }
    match started with
    | none => (s.flush, 0, [])
    | some s =>
      match runCommands p readFile 100000 0 s with
      | (s, .finished) =>
        runLines p readFile fuel false (if p.silent then s else s.emitLine p s.space).flush
      | (s, .dropped) => runLines p readFile fuel false s.flush
      | (s, .restarted) => runLines p readFile fuel true s.flush
      | (s, .stopped status shows) =>
        ((if p.silent || !shows then s else s.emitLine p s.space) |> fun s => if shows then s.flush else s, status, [])
      | (s, .failed message) => (s, 1, message)

/-- the lines of a file -/
def inputLines (mark : Char) (file o : Octets) : List InputLine :=
  let swapped := if mark == '\n' then o else o.map fun c => if c == mark then '\n' else if c == '\n' then mark else c
  (linesWithEnds swapped).map fun l =>
    let (body, ending) := lineAndEnd l
    ⟨if mark == '\n' then body else body.map fun c => if c == mark then '\n' else c, !ending.isEmpty, file⟩

/-! ## Calls -/

/-- arguments with the option for editing in place spelled so that its ending is a value; a mark stands for none -/
def spellInPlace (args : List Octets) : List Octets :=
  args.flatMap fun arg =>
    match arg with
    | '-' :: '-' :: _ =>
      let name := octets "--in-place"
      if arg == name then [['-', 'i', Char.ofNat 0]]
      else if (name ++ ['=']).isPrefixOf arg then ['-' :: 'i' :: arg.drop (name.length + 1)]
      else [arg]
    | '-' :: letters =>
      let before := letters.takeWhile fun c => "nErszu".toList.contains c
      match letters.drop before.length with
      | 'i' :: ending =>
        (if before.isEmpty then [] else ['-' :: before]) ++
          ['-' :: 'i' :: (if ending.isEmpty then [Char.ofNat 0] else ending)]
      | _ => [arg]
    | _ => [arg]

/-- the options of the stream editor -/
def known : Known :=
  { flags := "nErszu", valued := "efil", wrong := 1, leading := false
    words := [("quiet", 'n'), ("silent", 'n'), ("expression", 'e'), ("file", 'f'), ("regexp-extended", 'E'),
      ("separate", 's'), ("null-data", 'z'), ("unbuffered", 'u'), ("line-length", 'l'), ("posix", 'u')] }

/-- the names of files that a script writes to -/
def writtenNames (commands : List Command) : List Octets :=
  commands.filterMap fun c => match c.action with
    | .write name => some name
    | .writeFirst name => some name
    | .substitute s => s.target
    | _ => none

/-- what went wrong in a script, with the piece of it and the character -/
def scriptComplaint (pieces : List (Option Octets × Octets)) (f : Fault) : Octets :=
  let rec place (index : Nat) (left : Nat) : List (Option Octets × Octets) → Octets
    | [] => []
    | (file, text) :: rest =>
      if left ≤ text.length || rest.isEmpty then
        match file with
        | some name =>
          octets "file " ++ name ++ octets " line " ++ number (((text.take left).count '\n' + 1 : Nat)) ++ octets ": "
        | none => octets "-e expression #" ++ number index ++ octets ", char " ++ number left ++ octets ": "
      else place (if file.isNone then index + 1 else index) (left - text.length - 1) rest
  (f.place.elim [] fun n => place 1 n pieces) ++ f.message

/-- runs the stream editor -/
def sed (c : Call) : Running UtilityRun := do
  let (o, operands) ← { c with args := spellInPlace c.args }.parse known
  let pieces ← o.given.filterMapM fun (letter, value) => do
    if letter == 'e' then return some ((none : Option Octets), value)
    else if letter == 'f' then
      match (if namesInput value then .ok c.input else c.readFile value) with
      | .ok content => return some (some value, if content.getLast? == some '\n' then content.dropLast else content)
      | .error e => c.refuse 1 (octets "couldn't open file " ++ plainComplaint value e)
    else return none
  let (pieces, names) ← if pieces.isEmpty then
      match operands with
      | script :: names => pure ([(none, script)], names)
      | [] => c.misuse 1 []
    else pure (pieces, operands)
  let script := joinWith ['\n'] (pieces.map Prod.snd)
  let silent := o.has 'n' || (pieces.head?.map fun p => p.2.take 2 == ['#', 'n'] &&
    ((p.2.drop 2).head? == none || (p.2.drop 2).head? == some '\n')).getD false
  let commands ← match readScript (o.has 'E' || o.has 'r') script with
    | .ok commands => pure commands
    | .error f => c.refuse (if f.place.isSome then 1 else 4) (scriptComplaint pieces f)
  let commands ← match resolved commands with
    | .ok commands => pure commands
    | .error name => c.refuse 4 (octets "can't find label for jump to \x60" ++ name ++ ['\''])
  let mark := if o.has 'z' then Char.ofNat 0 else '\n'
  let plan : Plan :=
    { commands := commands.toArray, silent, mark
      width := (((o.value? 'l').bind count?).map fun n => if n = 1 then 0 else n).getD 70 }
  let start : State :=
    { space := [], ended := true, held := [], rest := [], file := ['-'], number := 0, out := [], owes := false
      waiting := [], active := Array.replicate commands.length none, replaced := false, last := none
      written := ⟨(writtenNames commands).map fun n => (n, [])⟩, sources := .empty }
  let start := { start with active := (commands.map fun c => match c.first with
    | some (.line 0) => some none
    | _ => none).toArray }
  let inPlace := o.value? 'i'
  let isFolder (name : Octets) : Bool := (c.readFile name).toOption.isNone && c.files.isFolder (pathOf name)
  let stop := if inPlace.isSome then none else names.find? isFolder
  let names := if inPlace.isSome then names else names.takeWhile fun name => !isFolder name
  let g := if names.isEmpty && stop.isSome then ⟨[], none, [], false, c.input⟩
    else c.gather names fun name e =>
      if e == .isFolder then octets "couldn't edit " ++ name ++ octets ": not a regular file"
      else octets "can't read " ++ plainComplaint name e
  let readFile (name : Octets) : Option Octets := (c.readFile name).toOption
  let bound (ls : List InputLine) : Nat := ls.foldl (fun n l => n + l.text.length + 2) 2
  let apart := o.has 's' || o.has 'i'
  let jobs : List (List (Octets × Octets)) := if apart then g.parts.map fun p => [p] else [g.parts]
  let (s, status, message, outputs) := jobs.foldl
    (fun (acc : State × Nat × Octets × List (Octets × Octets)) parts =>
      let (s, status, message, outputs) := acc
      if !message.isEmpty then acc
      else
        let ls := parts.flatMap fun (name, content) => inputLines mark name content
        let (s, status', message) := runLines plan readFile (bound ls) false
          { s with rest := ls, number := if o.has 'i' || apart then 0 else s.number, out := [] }
        (s, max status status', message, outputs ++ [((parts.head?.map Prod.fst).getD [], s.out.reverse.flatten)]))
    (start, 0, ([] : Octets), [])
  let files := s.written.entries.foldl (fun (files : Files) (name, pieces) =>
    if name == octets "/dev/stderr" then files
    else ((files.write (pathOf name) (toBytes pieces.reverse.flatten)).toOption).getD files) c.files
  let errors := ((s.written.get? (octets "/dev/stderr")).getD []).reverse.flatten
  let (status, message) := match stop with
    | some name =>
      if message.isEmpty then (4, octets "read error on " ++ plainComplaint name .isFolder) else (status, message)
    | none => (status, message)
  let files := match inPlace with
    | none => files
    | some ending => outputs.foldl (fun (files : Files) (name, content) =>
        let kept := if ending == [Char.ofNat 0] then files
          else
            let backup := if ending.contains '*' then ending.flatMap fun d => if d == '*' then lastPart name else [d]
              else name ++ ending
            match files.read (pathOf name) with
            | .ok before => ((files.write (pathOf backup) before).toOption).getD files
            | .error _ => files
        ((kept.write (pathOf name) (toBytes content)).toOption).getD kept) files
  let out := if inPlace.isSome then [] else outputs.flatMap Prod.snd
  let status := if message.isEmpty && g.failed then (if names.any isFolder then 4 else 2) else status
  return { status
           out
           err := g.err ++ errors ++ (if message.isEmpty then [] else c.complaint message)
           lead := some 0
           input := g.input
           files }

end ScriptBridge.Shell.StreamEdit
