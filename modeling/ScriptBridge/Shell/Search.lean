/-
Searching lines. Several patterns may be given; a line is selected if one of them matches it, or if none does when that
is asked for. Selected lines are shown, with lines around them, or counted, or only their files are named.
-/
import ScriptBridge.Shell.LineFilter

namespace ScriptBridge.Shell

/-- the pattern that texts are together; the kind is the letter of the way in which they are written -/
def searchPattern (o : Options) (kind : Option Char) (texts : List Octets) : Except RegexFault Regex := do
  let style : RegexStyle :=
    if kind == some 'P' then .withDigits else .searching (kind == some 'E')
  let regexes ← (texts.flatMap (cutAt '\n')).mapM fun text => do
    if kind == some 'F' then return Regex.sequence (text.map .one)
    else return (← Regex.read style text).1
  let whole := match regexes with
    | [] => Regex.choice (.edge .start) (.edge .start)
    | first :: rest => rest.foldl .choice first
  return if o.has 'x' then .sequence [.edge .start, whole, .edge .stop]
    else if o.has 'w' then .sequence [.edge .afterNoWord, whole, .edge .beforeNoWord]
    else whole

/-- complaints about repetitions in patterns that have nothing to repeat; they are no faults -/
def idleComplaints (texts : List Octets) : List Octets :=
  (texts.flatMap (cutAt '\n')).flatMap fun text =>
    match regexTokens (.searching true) (text.length + 1) .nothing 0 0 text with
    | .error _ => []
    | .ok tokens => (idleCounts true tokens).map fun sign =>
      octets "warning: " ++ (if sign == '\x7b' then octets "\x7b...\x7d" else [sign])
        ++ octets " at start of expression"

/-- the parts of a line that match and are not empty, with where they begin -/
def matchedParts (mode : RegexMode) (r : Regex) : Nat → Matching → List (Nat × Octets)
  | 0, _ => []
  | fuel + 1, m =>
    match r.search mode m with
    | none => []
    | some (start, stop) =>
      if stop.place = start.place then
        match Regex.stepOn stop with
        | some next => matchedParts mode r fuel next
        | none => []
      else (start.place, stop.since start) :: matchedParts mode r fuel stop

/-- what is asked of a search -/
structure SearchPlan where
  options : Options
  pattern : Option Regex
  mode : RegexMode
  named : Bool
  before : Nat
  after : Nat
  most : Option Nat

/-- a line with its number, where it begins, and whether it is selected -/
structure SearchedLine where
  text : Octets
  index : Nat
  offset : Nat
  selected : Bool

namespace SearchPlan

/-- whether a line is selected -/
def selects (p : SearchPlan) (l : Octets) : Bool :=
  ((p.pattern.map fun r => r.found p.mode l).getD false) != p.options.has 'v'

/-- the lines of a text, up to the last one that counts -/
def searched (p : SearchPlan) (o : Octets) : List SearchedLine :=
  let (found, _, _, _) := (lines o).foldl (fun (acc : List SearchedLine × Nat × Nat × Nat) l =>
    let (done, index, offset, count) := acc
    let full := (p.most.map fun n => decide (n ≤ count)).getD false
    let selected := !full && p.selects l
    (⟨l, index, offset, selected⟩ :: done, index + 1, offset + l.length + 1, if selected then count + 1 else count))
    ([], 1, 0, 0)
  found.reverse

/-- what stands in front of a line -/
def lead (p : SearchPlan) (name : Octets) (l : SearchedLine) (offset : Nat) (mark : Char) : Octets :=
  (if p.named then name ++ [mark] else []) ++ (if p.options.has 'n' then number l.index ++ [mark] else [])
    ++ (if p.options.has 'b' then number offset ++ [mark] else [])

/-- the lines that are shown -/
def shown (p : SearchPlan) (name : Octets) (all : List SearchedLine) : Octets :=
  let indices := (all.filter SearchedLine.selected).map SearchedLine.index
  let isNear (k : Nat) : Bool := indices.any fun i => i ≤ k + p.before && k ≤ i + p.after
  let kept := if p.before + p.after = 0 then all.filter SearchedLine.selected else all.filter fun l => isNear l.index
  (kept.foldl (fun (acc : List Octets × Option Nat) l =>
    let gap := (acc.2.map fun k => decide (k + 1 < l.index)).getD false && 0 < p.before + p.after
    let gap := gap && !p.options.has 'S'
    let text := if p.options.has 'o' then
        if l.selected && !p.options.has 'v' then
          ((p.pattern.map fun r => matchedParts p.mode r (2 * l.text.length + 2) (.atStart l.text)).getD []).flatMap
            fun (offset, part) => p.lead name l (l.offset + offset) ':' ++ part ++ ['\n']
        else []
      else p.lead name l l.offset (if l.selected then ':' else '-') ++ l.text ++ ['\n']
    ((if gap then octets "--\n" ++ text else text) :: acc.1, some l.index)) ([], none)).1.reverse.flatten

/-- what is shown of one file, and whether a line of it was selected -/
def report (p : SearchPlan) (name content : Octets) : Octets × Bool :=
  let all := p.searched content
  let count := (all.filter SearchedLine.selected).length
  let found := 0 < count
  let text :=
    if p.options.has 'q' then []
    else if p.options.has 'l' then if found then name ++ ['\n'] else []
    else if p.options.has 'L' then if found then [] else name ++ ['\n']
    else if p.options.has 'c' then (if p.named then name ++ [':'] else []) ++ number count ++ ['\n']
    else if content.contains (Char.ofNat 0) && !p.options.has 'a' then
      if found then octets "grep: " ++ name ++ octets ": binary file matches\n" else []
    else p.shown name all
  (text, found)

end SearchPlan

/-- the files below a folder, by their names -/
def filesBelow (files : Files) : Nat → Octets → List Octets
  | 0, _ => []
  | fuel + 1, folder =>
    ((listFolder files true (pathOf folder)).getD []).flatMap fun name =>
      let path := folder ++ '/' :: name
      if files.isFolder (pathOf path) then filesBelow files fuel path else [path]

/-- the options of searches -/
def searchOptions : Known :=
  { flags := "EFGPivwxclLoqsnbHhrRayzUTZSK", valued := "efmABCIXD", wrong := 2, leading := false
    words := [("extended-regexp", 'E'), ("fixed-strings", 'F'), ("basic-regexp", 'G'), ("regexp", 'e'), ("file", 'f'),
      ("ignore-case", 'i'), ("invert-match", 'v'), ("word-regexp", 'w'), ("line-regexp", 'x'), ("count", 'c'),
      ("files-with-matches", 'l'), ("files-without-match", 'L'), ("max-count", 'm'), ("only-matching", 'o'),
      ("quiet", 'q'), ("silent", 'q'), ("no-messages", 's'), ("line-number", 'n'), ("byte-offset", 'b'),
      ("with-filename", 'H'), ("no-filename", 'h'), ("recursive", 'r'), ("text", 'a'), ("after-context", 'A'),
      ("before-context", 'B'), ("context", 'C'), ("null", 'Z'), ("no-group-separator", 'S'), ("perl-regexp", 'P')] }

/-- lines that patterns match -/
def grep (c : Call) (given : List Octets) : Running UtilityRun := do
  let spelled := c.args.flatMap fun arg => match arg with
    | '-' :: d :: more => if (d :: more).all Char.isDigit then [['-', 'C'], d :: more] else [arg]
    | arg => [arg]
  let c := { c with name := octets "grep", args := given ++ spelled }
  let usage := octets "Usage: grep [OPTION]... PATTERNS [FILE]...\n"
  let (o, operands) ← (c.parse searchOptions).mapError fun run =>
    { run with err := run.err.take (run.err.length - c.hint.length) ++ usage ++ c.hint }
  let fromFiles ← (o.values 'f').mapM fun name =>
    if namesInput name then pure c.input
    else match c.readFile name with
      | .ok content => pure content
      | .error e => c.refuse 2 (plainComplaint name e)
  let listed := o.values 'e' ++ fromFiles.flatMap lines
  let isGiven := o.has 'e' || o.has 'f'
  if !isGiven && operands.isEmpty then .error { c.done 2 [] with err := usage ++ c.hint }
  let texts := if isGiven then listed else [operands.headD []]
  let names := if isGiven then operands else operands.drop 1
  let kind := o.last? "EFGP"
  let pattern ← match searchPattern o kind texts with
    | .ok r => pure (if texts.isEmpty then none else some r)
    | .error fault => c.refuse 2 (octets fault.message)
  let warnings := if kind == some 'E' then (idleComplaints texts).flatMap c.complaint else []
  let amount (letter : Char) : Running Nat :=
    match (o.value? letter).orElse fun _ => if letter == 'm' then none else o.value? 'C' with
    | none => return 0
    | some text => match count? text with
      | some n => return n
      | none => c.refuse 2 (if letter == 'm' then octets "invalid max count"
          else text ++ octets ": invalid context length argument")
  let before ← amount 'B'
  let after ← amount 'A'
  let most ← amount 'm'
  let recursive := o.has 'r' || o.has 'R'
  let names := if recursive then
      (if names.isEmpty then filesBelow c.files 100 ['.'] |>.map (·.drop 2)
        else names.flatMap fun name =>
          if c.files.isFolder (pathOf name) then filesBelow c.files 100 (withoutSlashes name) else [name])
    else names
  let named := match o.last? "Hh" with
    | some 'H' => true
    | some _ => false
    | none => recursive || 1 < names.length
  let plan : SearchPlan :=
    { options := o, pattern, mode := ⟨o.has 'i' || o.has 'y', false⟩, named, before, after
      most := if o.has 'm' then some most else none }
  let g := c.gather names plainComplaint
  let reports := g.parts.map fun (name, content) =>
    plan.report (if namesInput name then octets "(standard input)" else name) content
  let found := reports.any Prod.snd
  return { c.finish g 2 (reports.flatMap Prod.fst) with
    lead := if warnings.isEmpty then g.sound.map fun n => ((reports.take n).flatMap Prod.fst).length else some 0
    err := warnings ++ (if o.has 's' then [] else g.err)
    status := if found && (o.has 'q' || !g.failed) then 0 else if g.failed then 2 else 1 }

end ScriptBridge.Shell
