/-
Utilities that work on the lines of what they read: showing, choosing, joining and numbering them. A last line that has
no line feed is a line too; what keeps it unended and what ends it is said by each utility.
-/
import ScriptBridge.Shell.Regex
import ScriptBridge.Shell.Utility

namespace ScriptBridge.Shell

/-- the lines of a text, each with its line feed if it has one -/
def linesWithEnds (o : Octets) : List Octets :=
  let all := (lines o).map (· ++ ['\n'])
  if endsLine o then all
  else match all.reverse with
    | last :: rest => (last.dropLast :: rest).reverse
    | [] => []

/-- a line without its line feed, and the line feed -/
def lineAndEnd (l : Octets) : Octets × Octets :=
  if l.getLast? == some '\n' then (l.dropLast, ['\n']) else (l, [])

/-! ## Showing -/

/-- a character made visible -/
def visible (tabs : Bool) (c : Char) : Octets :=
  let low (n : Nat) : Octets := if n < 32 then ['^', Char.ofNat (n + 64)] else if n = 127 then ['^', '?'] else [Char.ofNat n]
  if c == '\t' && !tabs then [c]
  else if c.toNat < 128 then low c.toNat
  else 'M' :: '-' :: low (c.toNat - 128)

/-- shows files one after the other, with lines numbered and characters made visible where that is asked for -/
def cat (c : Call) : Running UtilityRun := do
  let (o, names) ← c.parse
    { flags := "AbeEnstTuv", valued := ""
      words := [("show-all", 'A'), ("number-nonblank", 'b'), ("show-ends", 'E'), ("number", 'n'),
        ("squeeze-blank", 's'), ("show-tabs", 'T'), ("show-nonprinting", 'v')]
      wrong := 1, leading := false }
  let ends := o.has 'A' || o.has 'e' || o.has 'E'
  let tabs := o.has 'A' || o.has 't' || o.has 'T'
  let hidden := o.has 'A' || o.has 'e' || o.has 't' || o.has 'v'
  let reveal (d : Char) : Octets :=
    if d == '\n' then [d] else if hidden || (tabs && d == '\t') then visible tabs d else [d]
  let plain := !ends && !tabs && !hidden && !o.has 'n' && !o.has 'b' && !o.has 's'
  return c.through names plainComplaint fun text =>
    if plain then text
    else
      let step (acc : List Octets × Nat × Bool) (l : Octets) : List Octets × Nat × Bool :=
        let (done, n, blank) := acc
        let (body, ending) := lineAndEnd l
        if body.isEmpty && blank && o.has 's' then acc
        else
          let numbered := if o.has 'b' then !body.isEmpty else o.has 'n'
          let lead := if numbered then padLeft 6 (number (n + 1)) ++ ['\t'] else []
          let shown := if hidden || tabs then body.flatMap reveal else body
          let shown := if ends && !hidden && body.getLast? == some '\r' && !ending.isEmpty then
              shown.dropLast ++ ['^', 'M'] else shown
          let ending := if ends && !ending.isEmpty then '$' :: ending else ending
          ((lead ++ shown ++ ending) :: done, if numbered then n + 1 else n, body.isEmpty)
      ((linesWithEnds text).foldl step ([], 0, false)).1.reverse.flatten

/-! ## Choosing -/

/-- how much of a text is chosen: so much, or all but so much -/
structure Amount where
  count : Nat
  allBut : Bool

/-- takes a number of lines or bytes from the start -/
def takeFirst (bytes : Bool) (a : Amount) (o : Octets) : Octets :=
  if bytes then o.take (if a.allBut then o.length - a.count else a.count)
  else
    let ls := linesWithEnds o
    (ls.take (if a.allBut then ls.length - a.count else a.count)).flatten

/-- takes a number of lines or bytes from the end; `allBut` leaves out all before that number, counted from one -/
def takeLast (bytes : Bool) (a : Amount) (o : Octets) : Octets :=
  if bytes then o.drop (if a.allBut then a.count - 1 else o.length - a.count)
  else
    let ls := linesWithEnds o
    (ls.drop (if a.allBut then a.count - 1 else ls.length - a.count)).flatten

/-- the parts of files, with the name of each over it if there are several -/
def withHeaders (shown : Bool) (parts : List (Octets × Octets)) : Octets :=
  if !shown then parts.flatMap Prod.snd
  else joinWith ['\n'] (parts.map fun (name, o) =>
    octets "==> " ++ (if name == ['-'] then octets "standard input" else name) ++ octets " <==\n" ++ o)

/-- the arguments with a count that stands alone, such as `-5`, as the value of an option -/
def spellCount (args : List Octets) : List Octets :=
  match args with
  | ('-' :: c :: more) :: rest =>
    if c.isDigit then
      let digits := (c :: more).takeWhile Char.isDigit
      let letters := (c :: more).drop digits.length
      (if letters.contains 'c' then ['-', 'c'] else ['-', 'n']) :: digits
        :: (if letters.contains 'q' then [['-', 'q']] else []) ++ rest
    else args
  | _ => args

/-- the options of `head` and `tail` -/
def endOptions : Known :=
  { flags := "qvzfF", valued := "nc", words := [("lines", 'n'), ("bytes", 'c'), ("quiet", 'q'), ("silent", 'q'),
      ("verbose", 'v'), ("follow", 'f')], wrong := 1, leading := false }

/-- the amount that options ask for, and whether it counts bytes -/
def amountOf (c : Call) (o : Options) (sign : Char) : Running (Amount × Bool) := do
  let bytes := o.last? "nc" == some 'c'
  match o.value? (if bytes then 'c' else 'n') with
  | none => return (⟨10, false⟩, false)
  | some text =>
    let marked := text.head? == some sign
    let digits := if marked || text.head? == some '-' || text.head? == some '+' then text.drop 1 else text
    match count? digits with
    | some n => return (⟨n, marked⟩, bytes)
    | none => c.refuse 1 (octets (if bytes then "invalid number of bytes: '" else "invalid number of lines: '")
        ++ text ++ ['\''])

/-- the complaint of `head` and its like -/
def readingComplaint : FileComplaint :=
  openComplaint "cannot open '" "' for reading: " "error reading '" "': "

/-- a part of each named file, with the name of each over it if there are several -/
def ends (c : Call) (o : Options) (names : List Octets) (part : Octets → Octets) : Gathered × UtilityRun :=
  let g := c.gatherFrom true names readingComplaint
  let shown (parts : List (Octets × Octets)) : Octets :=
    withHeaders (o.has 'v' || (1 < names.length && !o.has 'q')) (parts.map fun (name, text) => (name, part text))
  (g, { c.finish g 1 (shown g.parts) with lead := g.leadOf shown })

/-- the first lines or bytes. From a stream it takes whole blocks, from a file only what it shows. -/
def head (c : Call) : Running UtilityRun := do
  let c := { c with args := spellCount c.args }
  let (o, names) ← c.parse endOptions
  let (amount, bytes) ← amountOf c o '-'
  let (g, run) := ends c o names (takeFirst bytes amount)
  match g.parts.find? fun p => namesInput p.1 with
  | none => return run
  | some (_, text) =>
    let out := takeFirst bytes amount text
    let block := 8192
    let taken := if bytes || c.stream.size.isSome || (amount.count = 0 && !amount.allBut) then out.length
      else (out.length + (block - 1)) / block * block
    return { run with input := if amount.allBut then [] else c.input.drop taken }

/-- the last lines or bytes -/
def tail (c : Call) : Running UtilityRun := do
  let args := match c.args with
    | ('+' :: more) :: rest => if count? more |>.isSome then ['-', 'n'] :: ('+' :: more) :: rest else c.args
    | args => spellCount args
  let c := { c with args }
  let (o, names) ← c.parse endOptions
  let (amount, bytes) ← amountOf c o '+'
  return (ends c o names (takeLast bytes amount)).2

/-- options of a utility that has none -/
def noOptions : Known := { flags := "", valued := "", words := [], wrong := 1, leading := false }

/-- lines from the last to the first; a separator belongs to the line before it -/
def tac (c : Call) : Running UtilityRun := do
  let (o, names) ← c.parse
    { flags := "br", valued := "s", words := [("before", 'b'), ("regex", 'r'), ("separator", 's')], wrong := 1
      leading := false }
  let pieces (text : Octets) : List Octets :=
    match o.value? 's' with
    | some [mark] =>
      let cut := (cutAt mark text).map (· ++ [mark])
      (cut.dropLast ++ ((cut.getLast?.map List.dropLast).toList.filter fun p => !p.isEmpty))
    | _ => linesWithEnds text
  let g := c.gather names (openComplaint "failed to open '" "' for reading: " "" ": read error: ")
  return { c.finish g 1 (g.parts.flatMap fun (_, text) => (pieces text).reverse.flatten) with lead := some 0 }

/-- each line with its characters backwards -/
def rev (c : Call) : Running UtilityRun := do
  let (_, names) ← c.parse { noOptions with flags := "0" }
  let run := c.through names (openComplaint "cannot open " ": " "" ": ") fun text =>
    (linesWithEnds text).flatMap fun l => let (body, ending) := lineAndEnd l; body.reverse ++ ending
  return { run with lead := some 0 }

/-! ## Comparing neighbours -/

/-- a line without fields and characters at its start -/
def skipped (fields chars : Nat) (l : Octets) : Octets :=
  let rec go : Nat → Octets → Octets
    | 0, o => o
    | n + 1, o => go n ((o.dropWhile fun c => c == ' ' || c == '\t').dropWhile fun c => !(c == ' ' || c == '\t'))
  (go fields l).drop chars

/-- where groups of lines are set apart by an empty line -/
structure GroupGaps where
  before : Bool
  between : Bool
  after : Bool

/-- the gaps that a word asks for; of lines that are repeated only, no gaps may be asked for -/
def groupGaps? (repeatedOnly : Bool) (word : String) : Option GroupGaps :=
  match word, repeatedOnly with
  | "none", true => some ⟨false, false, false⟩
  | "prepend", _ => some ⟨true, true, false⟩
  | "separate", _ => some ⟨false, true, false⟩
  | "append", false => some ⟨false, true, true⟩
  | "both", false => some ⟨true, true, true⟩
  | _, _ => none

/-- neighbouring lines that are the same as one -/
def uniq (c : Call) : Running UtilityRun := do
  let args := c.args.map fun arg =>
    if arg == octets "--all-repeated" then octets "--all-repeated=none"
    else if arg == octets "--group" then octets "--group=separate"
    else match arg with
      | '-' :: digit :: more => if (digit :: more).all Char.isDigit then octets "-f" ++ digit :: more else arg
      | _ => arg
  let (o, names) ← { c with args }.parse
    { flags := "cdDiuz", valued := "fswAG"
      words := [("count", 'c'), ("repeated", 'd'), ("ignore-case", 'i'), ("unique", 'u'), ("skip-fields", 'f'),
        ("skip-chars", 's'), ("check-chars", 'w'), ("zero-terminated", 'z'), ("all-repeated", 'A'), ("group", 'G')]
      wrong := 1, leading := false }
  let amount (letter : Char) (what : String) : Running (Option Nat) :=
    match o.value? letter with
    | none => return none
    | some value =>
      if !value.isEmpty && value.all Char.isDigit then return some (digitsIn 10 value).1
      else c.refuse 1 (value ++ octets (": invalid number of " ++ what))
  let fields ← amount 'f' "fields to skip"
  let chars ← amount 's' "bytes to skip"
  let width ← amount 'w' "bytes to compare"
  let gapsOf (letter : Char) (long : String) : Running (Option GroupGaps) :=
    match o.value? letter with
    | none => return none
    | some word => match groupGaps? (letter == 'A') (text word) with
      | some gaps => return some gaps
      | none => c.misuse 1 (octets "invalid argument " ++ inQuotes word ++ octets (" for '--" ++ long ++ "'"))
  let repeated ← gapsOf 'A' "all-repeated"
  let grouped ← gapsOf 'G' "group"
  let all := o.has 'D' || repeated.isSome
  match names[2]? with
  | some extra => c.misuse 1 (octets "extra operand " ++ inQuotes extra)
  | none => pure ()
  if grouped.isSome && (all || o.has 'c' || o.has 'd' || o.has 'u') then
    c.misuse 1 (octets "--group is mutually exclusive with -c/-d/-D/-u")
  if all && o.has 'c' then c.misuse 1 (octets "printing all duplicated lines and repeat counts is meaningless")
  let ending := if o.has 'z' then Char.ofNat 0 else '\n'
  let key (l : Octets) : Octets :=
    let l := skipped (fields.getD 0) (chars.getD 0) l
    let l := match width with
      | some n => l.take n
      | none => l
    if o.has 'i' then l.map Char.toLower else l
  let g := c.gather (names.take 1) plainComplaint
  let pieces := (cutAt ending g.whole).reverse
  let pieces := (if pieces.head? == some [] then pieces.drop 1 else pieces).reverse
  let groups := pieces.splitBy fun a b => key a == key b
  let kept := groups.filter fun group =>
    (!(o.has 'd' || all) || 1 < group.length) && (!o.has 'u' || all || group.length = 1)
  let written (group : List Octets) : Octets := group.flatMap (· ++ [ending])
  let apart := if all then some (repeated.getD ⟨false, false, false⟩) else grouped
  let out := match apart with
    | some gaps =>
      let gap (wanted : Bool) : Octets := if wanted && !kept.isEmpty then [ending] else []
      let shown := kept.map fun group => written (if o.has 'u' then group.dropLast else group)
      gap gaps.before ++ (shown.intersperse (gap gaps.between)).flatten ++ gap gaps.after
    | none => kept.flatMap fun group =>
      (if o.has 'c' then padLeft 7 (number group.length) ++ [' '] else []) ++ written (group.take 1)
  match names[1]? with
  | none => return c.finish g 1 out
  | some target =>
    if target == ['-'] then return c.finish g 1 out
    match c.files.write (pathOf target) (toBytes out) with
    | .ok files => return { c.finish g 1 [] with files }
    | .error e => c.refuse 1 (plainComplaint target e)

/-- lines that only one of two files has, and lines that both have, in three columns -/
def comm (c : Call) : Running UtilityRun := do
  let (o, names) ← c.parse { noOptions with flags := "123" }
  match names with
  | [] => c.misuse 1 (octets "missing operand")
  | [a] => c.misuse 1 (octets "missing operand after '" ++ a ++ ['\''])
  | _ =>
    let g := c.gather names plainComplaint
    if g.failed then return c.finish g 1 []
    else
      let column (k : Nat) (l : Octets) : Octets :=
        let before := (if k > 1 && !o.has '1' then 1 else 0) + (if k > 2 && !o.has '2' then 1 else 0)
        if o.has (Char.ofNat (48 + k)) then [] else List.replicate before '\t' ++ l ++ ['\n']
      let rec merge : Nat → List Octets → List Octets → List Octets
        | 0, _, _ => []
        | _, [], [] => []
        | fuel + 1, a :: as, [] => column 1 a :: merge fuel as []
        | fuel + 1, [], b :: bs => column 2 b :: merge fuel [] bs
        | fuel + 1, a :: as, b :: bs =>
          if a == b then column 3 a :: merge fuel as bs
          else if inOrder a b then column 1 a :: merge fuel as (b :: bs)
          else column 2 b :: merge fuel (a :: as) bs
      let first := lines ((g.parts[0]?).map Prod.snd |>.getD [])
      let second := lines ((g.parts[1]?).map Prod.snd |>.getD [])
      return c.finish g 1 (merge (first.length + second.length + 1) first second).flatten

/-! ## Fields -/

/-- a range of positions counted from one; a range without an end goes to the end of the line -/
structure FieldRange where
  first : Nat
  last : Option Nat

/-- reads a list of ranges, or says what is wrong with it -/
def fieldRanges (noun : String) (o : Octets) : Except Octets (List FieldRange) :=
  (cutAt ',' (o.map fun c => if c == ' ' || c == '\t' then ',' else c)).mapM fun range => do
    let value (digits : Octets) (absent : Nat) : Except Octets Nat :=
      if digits.isEmpty then .ok absent
      else if digits.all Char.isDigit then .ok (digitsIn 10 digits).1
      else .error (octets ("invalid " ++ (if noun == "field" then "field value '" else "byte/character position '"))
        ++ digits ++ ['\''])
    let zero : Except Octets FieldRange := .error (octets
      (if noun == "field" then "fields are numbered from 1" else "byte/character positions are numbered from 1"))
    match cutAt '-' range with
    | [n] => do
      let n ← value n 0
      if n = 0 then zero else return ⟨n, some n⟩
    | [a, b] => do
      if a.isEmpty && b.isEmpty then .error (octets "invalid range with no endpoint: -")
      else
        let first ← value a 1
        let last ← value b 0
        if first = 0 then zero
        else if b.isEmpty then return ⟨first, none⟩
        else if last < first then .error (octets "invalid decreasing range")
        else return ⟨first, some last⟩
    | _ => .error (octets "invalid field range")

/-- whether ranges have a position -/
def inRanges (ranges : List FieldRange) (k : Nat) : Bool :=
  ranges.any fun r => r.first ≤ k && (r.last.map fun last => decide (k ≤ last)).getD true

/-- chosen fields or characters of each line -/
def cut (c : Call) : Running UtilityRun := do
  let (o, names) ← c.parse
    { flags := "nsz", valued := "bcdfO"
      words := [("bytes", 'b'), ("characters", 'c'), ("delimiter", 'd'), ("fields", 'f'), ("only-delimited", 's'),
        ("complement", 'n'), ("output-delimiter", 'O')]
      wrong := 1, leading := false }
  let lists := o.given.filter fun g => "bcf".toList.contains g.1
  let complement := o.has 'n'
  match lists with
  | [] => c.misuse 1 (octets "you must specify a list of bytes, characters, or fields")
  | [(letter, list)] =>
    match o.value? 'd' with
    | some d =>
      if 1 < d.length then c.misuse 1 (octets "the delimiter must be a single character")
      else if letter != 'f' then
        c.misuse 1 (octets "an input delimiter may be specified only when operating on fields")
      else pure ()
    | none => pure ()
    let ranges ← match fieldRanges (if letter == 'f' then "field" else "byte") list with
      | .ok ranges => pure ranges
      | .error e => c.misuse 1 e
    let mark := ((o.value? 'd').bind List.head?).getD '\t'
    let chosen {α : Type} (items : List α) : List (α × Nat) :=
      (items.zipIdx 1).filter fun (_, k) => inRanges ranges k != complement
    let piece (l : Octets) : Octets :=
      if letter == 'f' then
        if l.contains mark then
          joinWith ((o.value? 'O').getD [mark]) ((chosen (cutAt mark l)).map Prod.fst) ++ ['\n']
        else if o.has 's' then [] else l ++ ['\n']
      else
        let kept := chosen l
        match o.value? 'O' with
        | none => kept.map Prod.fst ++ ['\n']
        | some between =>
          let startsRange (k : Nat) : Bool := ranges.any fun r => r.first == k
          (kept.foldl (fun (acc : Octets × Option Nat) (d, k) =>
            (acc.1 ++ (match acc.2 with
              | some before => if before + 1 == k && !startsRange k then [d] else between ++ [d]
              | none => [d]), some k)) ([], none)).1 ++ ['\n']
    return c.through names plainComplaint fun text => (lines text).flatMap piece
  | _ => c.misuse 1 (octets "only one list may be specified")

/-- the characters that a list of separators names -/
def separatorList : Octets → List Octets
  | '\\' :: 'n' :: rest => ['\n'] :: separatorList rest
  | '\\' :: 't' :: rest => ['\t'] :: separatorList rest
  | '\\' :: '0' :: rest => [] :: separatorList rest
  | '\\' :: c :: rest => [c] :: separatorList rest
  | c :: rest => [c] :: separatorList rest
  | [] => []

/-- texts joined by separators in turn -/
def joinInTurn (separators : List Octets) (items : List Octets) : Octets :=
  (items.zipIdx.map fun (item, k) =>
    (if k = 0 then [] else (separators[(k - 1) % separators.length]?).getD []) ++ item).flatten

/-- lines of several files side by side, or the lines of each file in one line -/
def paste (c : Call) : Running UtilityRun := do
  let (o, names) ← c.parse
    { noOptions with flags := "sz", valued := "d", words := [("delimiters", 'd'), ("serial", 's')] }
  let separators := match separatorList ((o.value? 'd').getD ['\t']) with
    | [] => [[]]
    | list => list
  let names := if names.isEmpty then [['-']] else names
  let g := c.gather names plainComplaint
  if o.has 's' then
    return c.finish g 1 (ofLines (g.parts.map fun (_, text) => joinInTurn separators (lines text)))
  else if g.failed then return c.finish g 1 []
  else
    let shares := (names.filter namesInput).length
    let source : List Octets := lines c.input
    let columns := g.parts.zipIdx.map fun (((name, text), k) : (Octets × Octets) × Nat) =>
      if namesInput name then
        let before := ((names.take k).filter namesInput).length
        (source.zipIdx.filter fun (s : Octets × Nat) => s.2 % shares == before).map Prod.fst
      else lines text
    let rows := columns.foldl (fun n column => max n column.length) 0
    return c.finish g 1 (ofLines ((List.range rows).map fun row =>
      joinInTurn separators (columns.map fun column => (column[row]?).getD [])))

/-! ## Laying out -/

/-- which lines are numbered: all, those that are not empty, none, or those that a pattern matches -/
inductive Numbering where
  | every
  | filled
  | none
  | matching (r : Regex)

/-- whether a line is numbered -/
def Numbering.holds (n : Numbering) (l : Octets) : Bool :=
  match n with
  | every => true
  | filled => !l.isEmpty
  | none => false
  | matching r => r.found ⟨false, false⟩ l

/-- numbers lines; what is not numbered is set in -/
def nl (c : Call) : Running UtilityRun := do
  let (o, names) ← c.parse
    { noOptions with flags := "p", valued := "bdfhilnsvw", words := [("body-numbering", 'b'), ("header-numbering", 'h'),
        ("footer-numbering", 'f'), ("line-increment", 'i'), ("join-blank-lines", 'l'), ("number-format", 'n'),
        ("number-separator", 's'), ("starting-line-number", 'v'), ("number-width", 'w'), ("no-renumber", 'p')] }
  let amount (letter : Char) (usual : Nat) : Nat := ((o.value? letter).bind count?).getD usual
  let width := amount 'w' 6
  let between := (o.value? 's').getD ['\t']
  let style (letter : Char) (part : String) (usual : Numbering) : Running Numbering :=
    match o.value? letter with
    | none => return usual
    | some ('a' :: _) => return .every
    | some ('t' :: _) => return .filled
    | some ('n' :: _) => return .none
    | some ('p' :: pattern) =>
      match Regex.read .comparing pattern with
      | .ok (r, _) => return .matching r
      | .error fault => c.refuse 1 (octets fault.message)
    | some [] => return usual
    | some s => c.misuse 1 (octets ("invalid " ++ part ++ " numbering style: '") ++ s ++ ['\''])
  let body ← style 'b' "body" .filled
  let header ← style 'h' "header" .none
  let footer ← style 'f' "footer" .none
  let shown (n : Int) : Octets :=
    match (o.value? 'n').map String.ofList with
    | some "ln" => let d := number n; d ++ List.replicate (width - d.length) ' '
    | some "rz" => let d := number n; List.replicate (width - d.length) '0' ++ d
    | _ => padLeft width (number n)
  let first : Int := ((o.value? 'v').bind readNumber?).getD 1
  return c.through names plainComplaint fun text =>
    ((lines text).foldl (fun (acc : List Octets × Int × Numbering) l =>
      let (done, n, style) := acc
      let part? : Option Numbering := match String.ofList l with
        | "\\:\\:\\:" => some header
        | "\\:\\:" => some body
        | "\\:" => some footer
        | _ => none
      match part? with
      | some style => (['\n'] :: done, if o.has 'p' then n else first, style)
      | none =>
        if style.holds l then
          ((shown n ++ between ++ l ++ ['\n']) :: done, n + amount 'i' 1, style)
        else ((List.replicate (width + between.length) ' ' ++ l ++ ['\n']) :: done, n, style))
      ([], first, body)).1.reverse.flatten

/-- the column after a character -/
def columnAfter (column : Nat) (c : Char) : Nat :=
  if c == '\t' then (column / 8 + 1) * 8
  else if c == Char.ofNat 8 then column - 1
  else if c == '\r' then 0
  else column + 1

/-- breaks a line into pieces of a width, after blanks if that is asked for -/
def foldLine (bytes blanks : Bool) (width : Nat) : Nat → Octets → Octets
  | 0, o => o
  | fuel + 1, o =>
    let rec fit (column : Nat) (taken : Nat) : Octets → Nat
      | [] => taken
      | c :: rest =>
        let next := if bytes then column + 1 else columnAfter column c
        if width < next && taken != 0 then taken else fit next (taken + 1) rest
    let n := fit 0 0 o
    if o.length ≤ n then o
    else
      let piece := o.take n
      let atBlank := (piece.reverse.dropWhile fun c => !(c == ' ' || c == '\t')).reverse
      let piece := if blanks && !atBlank.isEmpty then atBlank else piece
      piece ++ '\n' :: foldLine bytes blanks width fuel (o.drop piece.length)

/-- breaks long lines -/
def fold (c : Call) : Running UtilityRun := do
  let c := { c with args := match c.args with
    | ('-' :: d :: more) :: rest => if d.isDigit then ['-', 'w'] :: (d :: more) :: rest else c.args
    | args => args }
  let (o, names) ← c.parse
    { noOptions with flags := "bs", valued := "w", words := [("bytes", 'b'), ("spaces", 's'), ("width", 'w')] }
  let width ← match o.value? 'w' with
    | none => pure 80
    | some w => match count? w with
      | some 0 => c.refuse 1 (octets "invalid number of columns: '0': Numerical result out of range")
      | some n => pure n
      | none => c.refuse 1 (octets "invalid number of columns: '" ++ w ++ ['\''])
  return c.through names plainComplaint fun text => (linesWithEnds text).flatMap fun l =>
    let (body, ending) := lineAndEnd l
    foldLine (o.has 'b') (o.has 's') width (body.length + 1) body ++ ending

/-- the columns at which tabs stop -/
inductive TabStops where
  | every (n : Nat)
  | listed (columns : List Nat)

/-- the stop after a column, if there is one -/
def TabStops.after? (t : TabStops) (column : Nat) : Option Nat :=
  match t with
  | every n => some ((column / n + 1) * n)
  | listed columns => columns.find? (column < ·)

/-- the stops that an option names -/
def tabStops (c : Call) (list : Option Octets) : Running TabStops := do
  match list with
  | none => return .every 8
  | some list =>
    let stops ← (cutAt ',' list).mapM fun s => match count? s with
      | some 0 => c.refuse 1 (octets "tab size cannot be 0")
      | some n => pure n
      | none => c.refuse 1 (octets "tab size contains invalid character(s): '" ++ s ++ ['\''])
    match stops with
    | [n] => return .every n
    | stops => return .listed stops

/-- blanks in place of tabs -/
def expand (c : Call) : Running UtilityRun := do
  let (o, names) ← c.parse { noOptions with flags := "i", valued := "t", words := [("initial", 'i'), ("tabs", 't')] }
  let stops ← tabStops c (o.value? 't')
  let next (column : Nat) : Nat := (stops.after? column).getD (column + 1)
  return c.through names plainComplaint fun text =>
    (text.foldl (fun (acc : List Octets × Nat × Bool) d =>
      let (done, column, leading) := acc
      if d == '\n' then (['\n'] :: done, 0, true)
      else if d == '\t' && (leading || !o.has 'i') then
        (List.replicate (next column - column) ' ' :: done, next column, leading)
      else ([d] :: done, if d == Char.ofNat 8 then column - 1 else column + 1, leading && d == ' '))
      ([], 0, true)).1.reverse.flatten

/-- a line whose blanks are being replaced: what is done, the last piece first, the column, blanks that may become a tab,
whether the first of them stands right before a stop, whether the last character was a blank, and whether blanks are
still replaced -/
structure Unexpanding where
  done : List Octets
  column : Nat
  pending : Octets
  atStop : Bool
  afterBlank : Bool
  converts : Bool

/-- takes the next character of a line -/
def Unexpanding.step (stops : TabStops) (whole : Bool) (u : Unexpanding) (c : Char) : Unexpanding :=
  if !u.converts then { u with done := [c] :: u.done }
  else
    let blank := c == ' ' || c == '\t'
    let close (u : Unexpanding) (c : Char) : Unexpanding :=
      let lead := if 1 < u.pending.length && u.atStop then '\t' :: u.pending.drop 1 else u.pending
      { u with
        done := [c] :: lead :: u.done
        pending := []
        atStop := if u.pending.isEmpty then u.atStop else false
        afterBlank := blank
        converts := whole || blank }
    match (if blank then stops.after? u.column else some 0) with
    | none => close { u with converts := false } c |> fun u => { u with converts := false }
    | some next =>
      if c == '\t' then
        close { u with column := next, pending := if u.atStop then ['\t'] else [] } c
      else if c == ' ' then
        let column := u.column + 1
        if u.afterBlank && column = next then
          close { u with column, pending := if u.atStop then ['\t'] else [] } '\t'
        else
          { u with column, pending := u.pending ++ [c], atStop := u.atStop || column = next, afterBlank := true }
      else close { u with column := if c == Char.ofNat 8 then u.column - 1 else u.column + 1 } c

/-- tabs in place of blanks -/
def unexpand (c : Call) : Running UtilityRun := do
  let args := c.args.map fun a => if a == octets "--first-only" then ['-', 'f'] else a
  let (o, names) ← { c with args }.parse
    { noOptions with flags := "af", valued := "t", words := [("all", 'a'), ("tabs", 't')] }
  let stops ← tabStops c (o.value? 't')
  let everywhere := (o.has 'a' || o.has 't') && !o.has 'f'
  return c.through names plainComplaint fun text => (linesWithEnds text).flatMap fun l =>
    let (body, ending) := lineAndEnd l
    let u := body.foldl (Unexpanding.step stops everywhere) ⟨[], 0, [], false, true, true⟩
    let lead := if 1 < u.pending.length && u.atStop then '\t' :: u.pending.drop 1 else u.pending
    u.done.reverse.flatten ++ lead ++ ending

end ScriptBridge.Shell
