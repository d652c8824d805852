/-
Finding files: `find` goes through folders and tries at each file a search, which is made of conditions on its name,
its kind and its size, and of deeds.
-/
import ScriptBridge.Shell.Launcher
import ScriptBridge.Shell.Listing
import ScriptBridge.Shell.Word

namespace ScriptBridge.Shell

/-- a condition or a deed of `find` -/
inductive FileSearch where
  | name (pattern : Octets) (folded : Bool)
  | path (pattern : Octets) (folded : Bool)
  | kind (letters : Octets)
  | empty
  | size (order : Ordering) (count unit : Nat)
  | runs
  | always (value : Bool)
  | print (mark : Char)
  | exec (words : List Octets) (gathered : Bool)
  | delete
  | prune
  | quit
  | not (s : FileSearch)
  | both (a b : FileSearch)
  | either (a b : FileSearch)

namespace FileSearch

/-- whether a search does anything but look -/
def acts : FileSearch → Bool
  | print _ => true
  | exec _ _ => true
  | delete => true
  | quit => true
  | not s => s.acts
  | both a b => a.acts || b.acts
  | either a b => a.acts || b.acts
  | _ => false

/-- whether a search removes files -/
def removes : FileSearch → Bool
  | delete => true
  | not s => s.removes
  | both a b => a.removes || b.removes
  | either a b => a.removes || b.removes
  | _ => false

/-- the commands that a search runs with all its files at once -/
def gathers : FileSearch → List (List Octets)
  | exec words true => [words]
  | not s => s.gathers
  | both a b => a.gathers ++ b.gathers
  | either a b => a.gathers ++ b.gathers
  | _ => []

/-- a text that a pattern matches -/
def fits (pattern : Octets) (folded : Bool) (o : Octets) : Bool :=
  let low (o : Octets) : Octets := if folded then o.map Char.toLower else o
  let rec field : Octets → Field
    | '\\' :: c :: rest => (c, true) :: field rest
    | c :: rest => (c, false) :: field rest
    | [] => []
  patternMatches (field (low pattern)) (low o)

end FileSearch

/-- what a search has come to -/
structure FoundSoFar where
  run : UtilityRun
  pruned : Bool
  ended : Bool
  gathered : List (List Octets × Octets)

/-- what is said of a program that a signal ended -/
def killedComplaint (c : Call) (program : Octets) (status : Nat) : Octets :=
  match endingSignal? status with
  | some n => c.complaint (inQuotes program ++ octets " terminated by signal " ++ number n)
  | none => []

/-- what a search makes of the status of a program that it ran on what was gathered -/
def foundVerdict (c : Call) (program : Octets) (status : Nat) : Verdict :=
  ⟨if status = 0 then none else some 1, killedComplaint c program status, false⟩

/-- tries a search at a file; gives whether it holds -/
def FileSearch.at (runner : Runner) (c : Call) (name : Octets) (n : Node) : FileSearch → FoundSoFar → Bool × FoundSoFar
  | .name p folded, s => (fits p folded (lastPart name), s)
  | .path p folded, s => (fits p folded name, s)
  | .kind letters, s =>
    (letters.any fun l => match n with
      | .folder _ => l == 'd'
      | .file _ _ => l == 'f'
      | .link _ => l == 'l'
      | .device _ => l == 'c', s)
  | .empty, s =>
    (match n with
      | .folder entries => entries.isEmpty
      | .file content _ => content.isEmpty
      | _ => false, s)
  | .size order count unit, s =>
    let size := match n with
      | .file content _ => content.length
      | .folder _ => 4096
      | .link target => target.utf8ByteSize
      | .device _ => 0
    (compare ((size + unit - 1) / unit) count == order, s)
  | .runs, s =>
    (match n with
      | .file _ executable => executable
      | _ => true, s)
  | .always value, s => (value, s)
  | .print mark, s => (true, { s with run := { s.run with out := s.run.out ++ name ++ [mark] } })
  | .exec words true, s => (true, { s with gathered := (words, name) :: s.gathered })
  | .exec words false, s =>
    match words.map fun w => replaceMark ['{', '}'] name (w.length + 1) w with
    | [] => (false, s)
    | program :: args =>
      match runOrShell runner program args ⟨s.run.input, none⟩ s.run.files c.environment with
      | .ok r =>
        let err := s.run.err ++ r.err ++ killedComplaint c program r.status
        (r.status = 0, { s with run := { r with status := s.run.status, out := s.run.out ++ r.out, err } })
      | .error e =>
        let complaint := c.complaint (inQuotes program ++ octets ": " ++ briefCause e)
        (false, { s with run := { s.run with err := s.run.err ++ complaint } })
  | .delete, s =>
    match nodeAt s.run.files false name with
    | .ok (.folder (_ :: _)) =>
      (false, { s with run := { s.run with
        status := 1
        err := s.run.err ++ c.complaint (octets "cannot delete " ++ inQuotes name ++ octets ": Directory not empty") } })
    | _ => (true, { s with run := { s.run with
      files := if name == ['.'] then s.run.files else s.run.files.remove (pathOf name) } })
  | .prune, s => (true, { s with pruned := true })
  | .quit, s => (true, { s with ended := true })
  | .not a, s =>
    let (v, s) := a.at runner c name n s
    (!v, s)
  | .both a b, s =>
    let (v, s) := a.at runner c name n s
    if v && !s.ended then b.at runner c name n s else (v, s)
  | .either a b, s =>
    let (v, s) := a.at runner c name n s
    if v || s.ended then (v, s) else b.at runner c name n s

/-- how far down a search goes -/
structure Depths where
  least : Nat
  most : Option Nat
  contentsFirst : Bool

/-- a reader of searches -/
abbrev FileSearchReader (α : Type) := StateT (List Octets × Depths) (Except Octets) α

namespace FileSearchReader

/-- the next word, which a primary needs -/
def argument (name : Octets) : FileSearchReader Octets := do
  let (words, d) ← get
  match words with
  | a :: rest => do
    set (rest, d)
    return a
  | [] => throw (octets "missing argument to \x60" ++ name ++ ['\''])

/-- a size with its unit -/
def sizeOf (o : Octets) : FileSearchReader FileSearch := do
  let (order, rest) := match o with
    | '+' :: rest => (Ordering.gt, rest)
    | '-' :: rest => (Ordering.lt, rest)
    | all => (Ordering.eq, all)
  let (n, length) := digitsIn 10 rest
  let unit? : Option Nat := match String.ofList (rest.drop length) with
    | "" | "b" => some 512
    | "c" => some 1
    | "w" => some 2
    | "k" => some 1024
    | "M" => some 1048576
    | "G" => some 1073741824
    | _ => none
  match (if length = 0 then none else unit?) with
  | some unit => return .size order n unit
  | none => throw (octets "Invalid argument \x60" ++ o ++ octets "' to -size")

/-- the words of a command up to its end -/
def command (name : Octets) : FileSearchReader FileSearch := do
  let (words, d) ← get
  let before := words.takeWhile fun w => w != [';']
  let plus := words.takeWhile fun w => w != ['+']
  if plus.length < before.length && plus.getLast? == some ['{', '}'] then
    set (words.drop (plus.length + 1), d)
    return .exec plus.dropLast true
  else if before.length < words.length && !before.isEmpty then
    set (words.drop (before.length + 1), d)
    return .exec before false
  else throw (octets "missing argument to \x60" ++ name ++ ['\''])

/-- one primary by its name -/
def primary (name : Octets) : FileSearchReader FileSearch := do
  let depth (f : Nat → Depths → Depths) : FileSearchReader FileSearch := do
    let a ← argument name
    match readNumber? a with
    | some n =>
      if n < 0 || !a.all Char.isDigit then
        throw (octets "Expected a positive decimal integer argument to " ++ name ++ octets ", but got " ++ inQuotes a)
      modify fun (words, d) => (words, f n.toNat d)
      return .always true
    | none => throw (octets "Expected a positive decimal integer argument to " ++ name ++ octets ", but got " ++ inQuotes a)
  match String.ofList name with
  | "-name" => do return .name (← argument name) false
  | "-iname" => do return .name (← argument name) true
  | "-path" | "-wholename" => do return .path (← argument name) false
  | "-ipath" => do return .path (← argument name) true
  | "-type" => do
    let a ← argument name
    match a.find? fun l => !"dflbcpsD,".toList.contains l with
    | some l => throw (octets "Unknown argument to -type: " ++ [l])
    | none => return .kind a
  | "-empty" => return .empty
  | "-size" => do sizeOf (← argument name)
  | "-executable" => return .runs
  | "-readable" | "-writable" | "-true" => return .always true
  | "-false" => return .always false
  | "-print" => return .print '\n'
  | "-print0" => return .print (Char.ofNat 0)
  | "-exec" | "-execdir" => command name
  | "-delete" => do
    modify fun (words, d) => (words, { d with contentsFirst := true })
    return .delete
  | "-prune" => return .prune
  | "-quit" => return .quit
  | "-maxdepth" => depth fun n d => { d with most := some n }
  | "-mindepth" => depth fun n d => { d with least := n }
  | "-depth" | "-d" => do
    modify fun (words, d) => (words, { d with contentsFirst := true })
    return .always true
  | "-mount" | "-xdev" | "-noleaf" | "-follow" | "-daystart" => return .always true
  | _ => throw (octets "unknown predicate \x60" ++ name ++ ['\''])

mutual

/-- searches with `-o` between them -/
def either : Nat → FileSearchReader FileSearch
  | 0 => throw (octets "too many words")
  | fuel + 1 => do
    let a ← both fuel
    let (words, d) ← get
    match words with
    | w :: rest =>
      if w == "-o".toList || w == "-or".toList then do
        set (rest, d)
        return .either a (← either fuel)
      else if w == [','] then do
        set (rest, d)
        return .either (.both a (.always false)) (← either fuel)
      else return a
    | [] => return a

/-- searches one after the other -/
def both : Nat → FileSearchReader FileSearch
  | 0 => throw (octets "too many words")
  | fuel + 1 => do
    let a ← one fuel
    let (words, d) ← get
    match words with
    | [] => return a
    | w :: rest =>
      if w == "-a".toList || w == "-and".toList then do
        set (rest, d)
        return .both a (← both fuel)
      else if w == "-o".toList || w == "-or".toList || w == [')'] || w == [','] then return a
      else return .both a (← both fuel)

/-- one search -/
def one : Nat → FileSearchReader FileSearch
  | 0 => throw (octets "too many words")
  | fuel + 1 => do
    let (words, d) ← get
    match words with
    | [] => throw (octets "expected an expression")
    | w :: rest =>
      set (rest, d)
      if w == ['!'] || w == "-not".toList then return .not (← one fuel)
      else if w == ['('] then do
        let s ← either fuel
        match ← get with
        | ([')'] :: rest, d) => do
          set (rest, d)
          return s
        | _ => throw (octets "invalid expression; I was expecting to find a ')' somewhere but did not see one.")
      else if w.head? == some '-' then primary w
      else throw (octets "paths must precede expression: \x60" ++ w ++ ['\''])

end

end FileSearchReader

/-- tries a search at a file and at all files below it -/
def searchBelow (runner : Runner) (c : Call) (d : Depths) (search : FileSearch) :
    Nat → Nat → Octets → FoundSoFar → FoundSoFar
  | 0, _, _, s => s
  | fuel + 1, depth, name, s =>
    if s.ended then s
    else match nodeAt s.run.files false name with
      | .error _ => s
      | .ok n =>
        let here (s : FoundSoFar) : FoundSoFar :=
          if depth < d.least then { s with pruned := false } else (search.at runner c name n { s with pruned := false }).2
        let below (s : FoundSoFar) : FoundSoFar :=
          if (d.most.map fun most => decide (most ≤ depth)).getD false then s
          else (entriesOf n).foldl (fun s e => searchBelow runner c d search fuel (depth + 1) (within name e.1) s) s
        if d.contentsFirst then here (below s)
        else
          let s := here s
          if s.pruned then s else below s

/-- finds files and does something with them -/
def find (runner : Runner) (c : Call) : Running UtilityRun := do
  let args := c.args.dropWhile fun a => a == ['-', 'L'] || a == ['-', 'H'] || a == ['-', 'P']
  let isStart (a : Octets) : Bool :=
    !(a.head? == some '-' && 1 < a.length) && a != ['!'] && a != ['('] && a != [')'] && a != [',']
  let starts := args.takeWhile isStart
  let words := args.drop starts.length
  let (search, d) ←
    if words.isEmpty then pure (FileSearch.print '\n', (⟨0, none, false⟩ : Depths))
    else match (FileSearchReader.either (4 * words.length + 8)).run (words, ⟨0, none, false⟩) with
      | .ok (s, ([], d)) => pure (if s.acts then s else FileSearch.both s (.print '\n'), d)
      | .ok (_, (w :: _, _)) => c.refuse 1 (if w == [')'] then
          octets "invalid expression; you have too many ')'" else octets "paths must precede expression: \x60" ++ w ++ ['\''])
      | .error message => c.refuse 1 message
  let s := (if starts.isEmpty then [['.']] else starts).foldl (fun (s : FoundSoFar) start =>
    match nodeAt s.run.files false start with
    | .error e => { s with run := { s.run with
      status := 1, err := s.run.err ++ c.complaint (inQuotes start ++ octets ": " ++ briefCause e) } }
    | .ok _ => searchBelow runner c d search 256 0 start s) ⟨c.done 0 [], false, false, []⟩
  let commands := search.gathers.filterMap fun words =>
    let names := (s.gathered.reverse.filter fun g => g.1 == words).map Prod.snd
    if names.isEmpty then none else some (words ++ names)
  let r := runEachCommand runner { c with files := s.run.files } false (foundVerdict c) commands
  return { s.run with
    status := if r.status != 0 then 1 else s.run.status
    out := s.run.out ++ r.out
    err := s.run.err ++ r.err
    files := r.files }

end ScriptBridge.Shell
