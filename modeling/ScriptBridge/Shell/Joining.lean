/-
Joining two sorted files by a field that their lines have in common. Both files are read in step: the file whose line
comes first goes on, and lines with the same field are paired, each of one file with each of the other one.
-/
import ScriptBridge.Shell.Utility

namespace ScriptBridge.Shell.Joining

/-- what is asked of a join. Fields count from zero; a field of the output is one of a file, or the common one. -/
structure Plan where
  fields : Nat × Nat
  separator : Option Char
  wholeLines : Bool
  caseless : Bool
  filler : Octets
  format : Option (List (Option (Bool × Nat)))
  counts : Option (Nat × Nat)
  pairs : Bool
  alone : Bool × Bool
  mark : Char

/-- a line with its fields -/
structure Row where
  text : Octets
  fields : List Octets

namespace Plan

/-- the fields of a line -/
def fieldsOf (p : Plan) (line : Octets) : List Octets :=
  if p.wholeLines then [line]
  else match p.separator with
    | some c => if line.isEmpty then [] else cutAt c line
    | none =>
      let isBlank (d : Char) : Bool := d == ' ' || d == '\t' || d == '\n'
      let rec split : Nat → Octets → List Octets
        | 0, _ => []
        | fuel + 1, o =>
          let field := o.takeWhile fun d => !isBlank d
          let rest := o.drop field.length
          field :: (if rest.isEmpty then [] else
            let after := rest.dropWhile isBlank
            if after.isEmpty then [[]] else split fuel after)
      let body := line.dropWhile isBlank
      if body.isEmpty then [] else split (body.length + 1) body

/-- a line as a row -/
def row (p : Plan) (line : Octets) : Row := ⟨line, p.fieldsOf line⟩

/-- the field of a row by which it is joined -/
def key (p : Plan) (second : Bool) (r : Row) : Octets :=
  let o := (r.fields[if second then p.fields.2 else p.fields.1]?).getD []
  if p.caseless then o.map Char.toUpper else o

/-- a field as it is shown -/
def shown (p : Plan) (r : Row) (n : Nat) : Octets :=
  match r.fields[n]? with
  | some o => if o.isEmpty then p.filler else o
  | none => p.filler

/-- the output for rows of both files, or for one alone -/
def output (p : Plan) (a b : Option Row) : Octets :=
  let empty : Row := ⟨[], []⟩
  let common : Octets := match a, b with
    | some a, _ => p.shown a p.fields.1
    | none, some b => p.shown b p.fields.2
    | none, none => p.filler
  let others (r : Option Row) (joined : Nat) (count : Option Nat) : List Octets :=
    let r := r.getD empty
    ((List.range (count.getD r.fields.length)).filter (· != joined)).map (p.shown r)
  let fields := match p.format with
    | some format => format.map fun
      | none => common
      | some (second, n) => p.shown ((if second then b else a).getD empty) n
    | none => common :: (others a p.fields.1 (p.counts.map Prod.fst) ++ others b p.fields.2 (p.counts.map Prod.snd))
  joinWith [p.separator.getD ' '] fields ++ [p.mark]

end Plan

/-- whether the order of lines is checked: when something was not paired, always, or never -/
inductive Checking where
  | usual
  | always
  | never
deriving DecidableEq

/-- one file that is being read: its name, the lines that are left, how many were read, the last one that was, and
whether it was complained of -/
structure Reading where
  name : Octets
  rest : List Row
  count : Nat
  last : Option Row
  complained : Bool

/-- what a join has come to -/
structure Progress where
  first : Reading
  second : Reading
  unpaired : Bool
  out : List Octets
  err : List Octets

variable (p : Plan) (checking : Checking)

/-- reads a line of one file; the order of lines is checked where that is asked for -/
def take (c : Call) (second : Bool) (s : Progress) : Option Row × Progress :=
  let r := if second then s.second else s.first
  match r.rest with
  | [] => (none, s)
  | line :: rest =>
    let count := r.count + 1
    let checks := checking == .always || (checking == .usual && s.unpaired)
    let wrong := checks && !r.complained &&
      (r.last.map fun before => !inOrder (p.key second before) (p.key second line)).getD false
    let after : Reading := { r with rest, count, last := some line, complained := r.complained || wrong }
    let err := if wrong then
        c.complaint (r.name ++ ':' :: number count ++ octets ": is not sorted: " ++ line.text) :: s.err
      else s.err
    (some line, if second then { s with second := after, err } else { s with first := after, err })

/-- reads lines of one file as long as they have a given field; gives them with the line after them -/
def takeWhileSame (c : Call) (second : Bool) (key : Octets) : Nat → Progress → (List Row × Option Row) × Progress
  | 0, s => (([], none), s)
  | fuel + 1, s =>
    match take p checking c second s with
    | (none, s) => (([], none), s)
    | (some r, s) =>
      if p.key second r == key then
        let ((rows, next), s) := takeWhileSame c second key fuel s
        ((r :: rows, next), s)
      else (([], some r), s)

/-- reads what is left of one file, each line for itself -/
def drain (c : Call) (second : Bool) : Nat → Progress → Progress
  | 0, s => s
  | fuel + 1, s =>
    match take p checking c second s with
    | (none, s) => s
    | (some r, s) =>
      let shown := if second then p.alone.2 else p.alone.1
      let s := if shown then { s with out := (if second then p.output none (some r) else p.output (some r) none) :: s.out } else s
      if (if second then s.second else s.first).complained && !shown then s else drain c second fuel s

/-- whether a run is to be ended because the order is wrong and always checked -/
def Progress.broken (s : Progress) : Bool := checking == .always && (s.first.complained || s.second.complained)

/-- goes through both files in step, from a line of each -/
def pair (c : Call) : Nat → Option Row → Option Row → Progress → Progress
  | 0, _, _, s => s
  | fuel + 1, some a, some b, s =>
    if s.broken checking then s
    else
      let x := p.key false a
      let y := p.key true b
      if x == y then
        let ((rows, a'), s) := takeWhileSame p checking c false x (s.first.rest.length + 1) s
        let ((others, b'), s) := takeWhileSame p checking c true y (s.second.rest.length + 1) s
        if s.broken checking then s else
        let out := if p.pairs then (a :: rows).flatMap fun r => (b :: others).map fun q => p.output (some r) (some q) else []
        pair c fuel a' b' { s with out := out.reverse ++ s.out }
      else if inOrder x y then
        let s := if p.alone.1 then { s with out := p.output (some a) none :: s.out } else s
        let (a, s) := take p checking c false s
        pair c fuel a (some b) { s with unpaired := true }
      else
        let s := if p.alone.2 then { s with out := p.output none (some b) :: s.out } else s
        let (b, s) := take p checking c true s
        pair c fuel (some a) b { s with unpaired := true }
  | _ + 1, a, b, s =>
    if s.broken checking then s
    else
      let finish (second shown : Bool) (r : Option Row) (s : Progress) : Progress :=
        match r with
        | none => s
        | some r =>
          let text := if second then p.output none (some r) else p.output (some r) none
          drain p checking c second ((if second then s.second else s.first).rest.length + 1)
            (if shown then { s with out := text :: s.out } else s)
      finish true p.alone.2 b (finish false p.alone.1 a s)

/-- the number of a field, counted from zero -/
def fieldNumber (c : Call) (o : Octets) : Running Nat :=
  let n := (digitsIn 10 o).1
  if o.isEmpty || !o.all Char.isDigit || n = 0 then c.refuse 1 (octets "invalid field number: " ++ inQuotes o) else return n - 1

/-- the fields of an output format -/
def formatOf (c : Call) (o : Octets) : Running (List (Option (Bool × Nat))) :=
  let words := ((cutAt ' ' (o.map fun d => if d == ',' || d == '\t' then ' ' else d)).filter fun w => !w.isEmpty)
  words.mapM fun w => match w with
    | ['0'] => return none
    | '0' :: _ => c.refuse 1 (octets "invalid field specifier: " ++ inQuotes w)
    | '1' :: '.' :: rest => do return some (false, ← fieldNumber c rest)
    | '2' :: '.' :: rest => do return some (true, ← fieldNumber c rest)
    | '1' :: _ => c.refuse 1 (octets "invalid field specifier: " ++ inQuotes w)
    | '2' :: _ => c.refuse 1 (octets "invalid field specifier: " ++ inQuotes w)
    | _ => c.refuse 1 (octets "invalid file number in field spec: " ++ inQuotes w)

/-- joins two files -/
def join (c : Call) : Running UtilityRun := do
  let (o, names) ← c.parse
    { flags := "iz", valued := "aejotv12", wrong := 1, leading := false
      words := [("check-order", '+'), ("header", 'h'), ("ignore-case", 'i'), ("nocheck-order", '-'), ("zero-terminated", 'z')] }
  let (first, second) ← match names with
    | [a, b] => pure (a, b)
    | [] => c.misuse 1 (octets "missing operand")
    | [a] => c.misuse 1 (octets "missing operand after " ++ inQuotes a)
    | _ :: _ :: extra :: _ => c.misuse 1 (octets "extra operand " ++ inQuotes extra)
  let side (text : Octets) : Running Bool := match text with
    | ['1'] => return false
    | ['2'] => return true
    | text => c.refuse 1 (octets "invalid field number: " ++ inQuotes text)
  let extra ← (o.values 'a').mapM side
  let only ← (o.values 'v').mapM side
  let field (letter : Char) : Running (Option Nat) := do
    let found ← (o.given.filterMap fun g => if g.1 == letter || g.1 == 'j' then some g.2 else none).mapM (fieldNumber c)
    match found with
    | n :: rest => match rest.find? (· != n) with
      | some m => c.refuse 1 (octets "incompatible join fields " ++ number n ++ octets ", " ++ number m)
      | none => return some n
    | [] => return none
  let a ← field '1'
  let b ← field '2'
  let mark := if o.has 'z' then Char.ofNat 0 else '\n'
  let separator? ← match o.value? 't' with
    | none => pure none
    | some [] => pure none
    | some [d] => pure (some d)
    | some ['\\', '0'] => pure (some (Char.ofNat 0))
    | some text => c.refuse 1 (octets "multi-character tab " ++ inQuotes text)
  if first == ['-'] && second == ['-'] then c.refuse 1 (octets "both files cannot be standard input")
  let g := c.gather [first, second] plainComplaint
  match g.parts with
  | [(_, x), (_, y)] =>
    let automatic := o.value? 'o' == some (octets "auto")
    let format ← match o.value? 'o' with
      | none => pure none
      | some text => if automatic then pure none else some <$> formatOf c text
    let p : Plan :=
      { fields := (a.getD 0, b.getD 0), separator := separator?, wholeLines := o.value? 't' == some [], caseless := o.has 'i'
        filler := (o.value? 'e').getD [], format, counts := none, pairs := only.isEmpty
        alone := ((extra ++ only).contains false, (extra ++ only).contains true), mark }
    let rows (text : Octets) : List Row :=
      let parts := cutAt mark text
      let parts := if parts.getLast? == some [] then parts.dropLast else parts
      (if o.has 'z' then parts else lines text).map p.row
    let (ours, theirs) := (rows x, rows y)
    let count (all : List Row) : Nat := (all.head?.map fun r => r.fields.length).getD 0
    let p := if automatic then { p with counts := some (count ours, count theirs) } else p
    let checking : Checking := match o.last? "+-" with
      | some '+' => .always
      | some _ => .never
      | none => .usual
    let start : Progress := ⟨⟨first, ours, 0, none, false⟩, ⟨second, theirs, 0, none, false⟩, false, [], []⟩
    let start := if o.has 'h' && !(ours.isEmpty && theirs.isEmpty) then
        { start with
          first := { start.first with rest := ours.drop 1, count := 1 }
          second := { start.second with rest := theirs.drop 1, count := 1 }
          out := [p.output (some ((ours.head?).getD ⟨[], []⟩)) (some ((theirs.head?).getD ⟨[], []⟩))] }
      else start
    let (a, s) := take p checking c false start
    let (b, s) := take p checking c true s
    let s := pair p checking c (ours.length + theirs.length + 2) a b s
    let wrong := s.first.complained || s.second.complained
    let last := if wrong && !s.broken checking then c.complaint (octets "input is not in sorted order") else []
    return { c.finish g 1 s.out.reverse.flatten with status := if wrong then 1 else 0, err := s.err.reverse.flatten ++ last }
  | _ => return c.finish { g with err := g.err.takeWhile (· != '\n') ++ ['\n'] } 1 []

end ScriptBridge.Shell.Joining
