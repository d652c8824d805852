/-
Laying text out on pages: in columns that are filled downwards or across, with several files side by side, with numbers,
margins and headers.

A row is written by a pen that holds blanks back until something follows them, so that no row ends with blanks; where
columns are kept, tabs stand for blanks wherever they fit.
-/
import ScriptBridge.Shell.Utility

namespace ScriptBridge.Shell.Pages

/-- how pages are laid out -/
structure Layout where
  columns : Nat
  across : Bool
  parallel : Bool
  separator : Octets
  separates : Bool
  cuts : Bool
  tabs : Bool
  columnWidth : Nat
  margin : Nat
  bodyLines : Nat
  framed : Bool
  double : Bool
  formFeed : Bool
  numbered : Option (Char × Nat)
  firstNumber : Nat
  width : Nat
  header : Octets
  date : Octets
  firstPage : Nat
  lastPage : Option Nat
  expandsInput : Option (Char × Nat)
  outputTab : Char × Nat
  visible : Option Bool
  breaks : Bool

/-- what a row has come to: its pieces, the last one first, the column that was reached, blanks that are held back, and
separators that are -/
structure Pen where
  out : List Octets
  place : Nat
  blanks : Nat
  separators : Nat

namespace Pen

/-- writes the blanks that were held back -/
def flush (l : Layout) (p : Pen) : Pen :=
  let (tab, size) := l.outputTab
  let goal := p.place + p.blanks
  let rec tabs : Nat → Nat → List Char → List Char × Nat
    | 0, place, done => (done, place)
    | fuel + 1, place, done =>
      let next := place + (size - place % size)
      if place + 1 < goal && next ≤ goal then tabs fuel next (tab :: done) else (done, place)
  let (done, place) := tabs p.blanks p.place []
  { p with out := (done ++ List.replicate (goal - place) ' ') :: p.out, place := goal, blanks := 0 }

/-- writes a character -/
def char (l : Layout) (p : Pen) (c : Char) : Pen :=
  if !l.tabs then { p with out := [c] :: p.out, place := p.place + 1 }
  else if c == ' ' then { p with blanks := p.blanks + 1 }
  else
    let p := if 0 < p.blanks then p.flush l else p
    { p with out := [c] :: p.out, place := if c.toNat < 32 || 126 < c.toNat then p.place else p.place + 1 }

/-- goes to a column -/
def goTo (l : Layout) (p : Pen) (place : Nat) : Pen :=
  if l.tabs then { p with blanks := place - p.place }
  else { p with out := List.replicate (place - p.place) ' ' :: p.out, place := max place p.place }

/-- writes the separators that were held back -/
def separate (l : Layout) (p : Pen) : Pen :=
  if p.separators = 0 then if 0 < p.blanks then p.flush l else p
  else
    let p := (List.replicate p.separators l.separator).flatten.foldl (fun (p : Pen) c =>
      if c == ' ' then { p with blanks := p.blanks + 1 }
      else
        let p := if 0 < p.blanks then p.flush l else p
        { p with out := [c] :: p.out, place := p.place + 1 }) p
    let p := if 0 < p.blanks then p.flush l else p
    { p with separators := 0 }

end Pen

namespace Layout

/-- the column that a column of text begins at -/
def start (l : Layout) (column : Nat) : Nat :=
  if column = 0 then l.margin
  else if !l.cuts then 0
  else
    let numbers := if l.parallel then (l.numbered.map fun n => if n.1 == '\t' then n.2 + (8 - n.2 % 8) else n.2 + 1).getD 0 else 0
    l.margin + numbers + column * (l.columnWidth + l.separator.length)

/-- the number of a line as it is shown -/
def numberText (l : Layout) (n : Nat) : Octets :=
  match l.numbered with
  | none => []
  | some (mark, digits) =>
    let text := number n
    let text := padLeft digits (text.drop (text.length - digits))
    if mark == '\t' && 1 < l.columns then text ++ List.replicate (8 - digits % 8) ' ' else text ++ [mark]

/-- a control character as it is shown, with its width -/
def control (l : Layout) (c : Char) : Octets × Nat :=
  let code : Octets × Nat := ('\\' :: padLeft 3 (Nat.toDigits 8 c.toNat) |>.map fun d => if d == ' ' then '0' else d, 4)
  match l.visible with
  | some true => code
  | some false => if c.toNat < 128 then (['^', Char.ofNat (c.toNat ^^^ 64)], 2) else code
  | none => ([c], 0)

/-- a line with its tabs and control characters as they are shown -/
def shown (l : Layout) (line : Octets) : Octets :=
  let (done, _) := line.foldl (fun (acc : List Octets × Nat) c =>
    let gap (size : Nat) : Octets × Nat := (List.replicate (size - acc.2 % size) ' ', size - acc.2 % size)
    let (text, wide) : Octets × Nat :=
      match l.expandsInput with
      | some (tab, size) => if c == tab then gap size else if c == '\t' then gap 8
        else if c.toNat < 32 || 126 < c.toNat then l.control c else ([c], 1)
      | none => if c == '\t' then ([c], 8 - acc.2 % 8) else if c.toNat < 32 || 126 < c.toNat then l.control c else ([c], 1)
    (text :: acc.1, acc.2 + wide)) ([], 0)
  done.reverse.flatten

/-- a cell as far as it fits its column -/
def cut (l : Layout) (cell : Octets) : Octets := if l.cuts then cell.take l.columnWidth else cell

/-- a row of cells, of which the last ones may be missing; each comes with the number of its line -/
def row (l : Layout) (cells : List (Option (Octets × Nat))) : Octets :=
  let pen := cells.zipIdx.foldl (fun (p : Pen) (cell, k) =>
    let p := match cell with
      | none => p
      | some (text, n) =>
        let start := l.start k
        let p := if k = 0 then (if 0 < start then p.goTo l start else p)
          else if l.separator.length < start then p.goTo l (start - l.separator.length)
          else p
        let p := if l.separates then p.separate l else p
        let lead := if l.parallel && k != 0 then [] else l.numberText n
        let body := l.shown text
        let body := if l.parallel then lead ++ l.cut body else l.cut (lead ++ body)
        body.foldl (Pen.char l) p
    if l.separates then { p with separators := p.separators + 1 } else p) ⟨[], 0, 0, 0⟩
  pen.out.reverse.flatten ++ ['\n']

/-- the lines of a page, out of those that are left; the numbers count from the first one -/
def rowsOf (l : Layout) (first : Nat) (lines : List Octets) : List Octets :=
  let items := lines.zipIdx.map fun (line, k) => (line, first + k)
  let total := items.length
  if l.columns = 1 then items.map fun item => l.row [some item]
  else if l.across then
    (List.range ((total + l.columns - 1) / l.columns)).map fun r =>
      l.row ((List.range l.columns).map fun k => items[r * l.columns + k]?)
  else
    let size (k : Nat) : Nat := total / l.columns + (if k < total % l.columns then 1 else 0)
    let base (k : Nat) : Nat := k * (total / l.columns) + min k (total % l.columns)
    (List.range (size 0)).map fun r =>
      l.row ((List.range l.columns).map fun k => if r < size k then items[base k + r]? else none)

/-- the rows of files side by side -/
def parallelRows (l : Layout) (files : List (List Octets)) : List Octets :=
  let most := files.foldl (fun n f => max n f.length) 0
  (List.range most).map fun r =>
    let cells := files.map fun f =>
      match f[r]? with
      | some line => some (line, l.firstNumber + r)
      | none => some ([], l.firstNumber + r)
    l.row cells

/-- the lines above a page -/
def heading (l : Layout) (page : Nat) : Octets :=
  let label := octets "Page " ++ number page
  let free := l.width - l.date.length - l.header.length - label.length
  let gap (n : Nat) : Octets := List.replicate (max 1 n) ' '
  octets "\n\n" ++ List.replicate l.margin ' ' ++ l.date ++ gap (free / 2) ++ l.header ++ gap (free - free / 2) ++ label
    ++ octets "\n\n\n"

/-- the pages that rows fill; `ends` says that the last row is not full -/
def pages (l : Layout) (ends : Bool) (rows : List (List Octets)) : Octets :=
  let shownPages := rows.zipIdx.filter fun (_, k) =>
    l.firstPage ≤ k + 1 && (l.lastPage.map fun n => decide (k + 1 ≤ n)).getD true
  shownPages.flatMap fun (page, k) =>
    let body := page.flatMap fun r => if l.double then r ++ ['\n'] else r
    let body := if l.double && !l.framed && 1 < l.columns && (!l.across || ends) then body.dropLast else body
    let used := if l.double then 2 * page.length else page.length
    let whole := if l.double then 2 * l.bodyLines else l.bodyLines
    if !l.framed then body
    else l.heading (k + 1) ++ body ++ (if l.formFeed then ['\x0c'] else List.replicate (whole - used + 5) '\n')

/-- cuts a list into parts of one length -/
def parts {α : Type} (size : Nat) : Nat → List α → List (List α)
  | 0, _ => []
  | fuel + 1, items => if items.isEmpty then [] else items.take size :: parts size fuel (items.drop size)

end Layout

/-- the number at the start of a value, with a character in front that is no digit -/
def markAndCount (mark : Char) (count : Nat) (value : Octets) : Option (Char × Nat) :=
  match value with
  | [] => some (mark, count)
  | c :: rest =>
    let (mark, digits) := if c.isDigit then (mark, value) else (c, rest)
    if digits.isEmpty then some (mark, count)
    else if digits.all Char.isDigit && 0 < (digitsIn 10 digits).1 then some (mark, (digitsIn 10 digits).1)
    else none

/-- letters of options taken apart; some have the rest as their value if they have one, and digits are a number of
columns -/
def apart : Nat → Octets → List Octets
  | 0, _ => []
  | _, [] => []
  | fuel + 1, d :: rest =>
    let long (name : String) : List Octets := [octets ("--" ++ name) ++ (if rest.isEmpty then [] else '=' :: rest)]
    if d.isDigit then
      let digits := (d :: rest).takeWhile Char.isDigit
      (octets "--columns=" ++ digits) :: apart fuel ((d :: rest).drop digits.length)
    else match d with
      | 's' => long "separator"
      | 'S' => long "sep-string"
      | 'n' => long "number-lines"
      | 'e' => long "expand-tabs"
      | 'i' => long "output-tabs"
      | d => if "DhlNowW".toList.contains d then ['-' :: d :: rest] else ['-', d] :: apart fuel rest

/-- lays text out on pages -/
def pr (c : Call) : Running UtilityRun := do
  let args := c.args.flatMap fun a => match a with
    | '-' :: d :: rest => if d == '-' then [a] else apart (rest.length + 2) (d :: rest)
    | '+' :: rest => if rest.head?.any Char.isDigit then [octets "--pages=" ++ rest] else [a]
    | a => [a]
  let (o, names) ← { c with args }.parse
    { flags := "acdfFJmrtTv", valued := "DhlNowW+#", wrong := 1, leading := false, optional := "seinS"
      words := [("across", 'a'), ("columns", '#'), ("date-format", 'D'), ("double-space", 'd'), ("expand-tabs", 'e'),
        ("first-line-number", 'N'), ("form-feed", 'f'), ("header", 'h'), ("indent", 'o'), ("join-lines", 'J'),
        ("length", 'l'), ("merge", 'm'), ("no-file-warnings", 'r'), ("number-lines", 'n'), ("omit-header", 't'),
        ("omit-pagination", 'T'), ("output-tabs", 'i'), ("page-width", 'W'), ("pages", '+'), ("sep-string", 'S'),
        ("separator", 's'), ("show-control-chars", 'c'), ("show-nonprinting", 'v'), ("width", 'w')] }
  let numeric (letter : Char) (usual : Nat) (what : String) : Running Nat :=
    match o.value? letter with
    | none => return usual
    | some text =>
      if text.isEmpty || !text.all Char.isDigit || (letter != 'o' && letter != 'N' && (digitsIn 10 text).1 = 0) then
        c.refuse 1 (octets what ++ octets ": " ++ inQuotes text
          ++ (if !text.isEmpty && text.all (· == '0') then octets ": Numerical result out of range" else []))
      else return (digitsIn 10 text).1
  let columns ← numeric '#' 1 "invalid number of columns"
  let length ← numeric 'l' 66 "'-l PAGE_LENGTH' invalid number of lines"
  let oldWidth ← numeric 'w' 72 "'-w PAGE_WIDTH' invalid number of characters"
  let width ← numeric 'W' oldWidth "'-W PAGE_WIDTH' invalid number of characters"
  let margin ← numeric 'o' 0 "'-o MARGIN' invalid line offset"
  let firstNumber ← numeric 'N' 1 "'-N NUMBER' invalid starting line number"
  let parallel := o.has 'm'
  if parallel && o.has '#' then c.refuse 1 (octets "cannot specify number of columns when printing in parallel")
  if parallel && o.has 'a' then c.refuse 1 (octets "cannot specify both printing across and printing in parallel")
  let names := if names.isEmpty then [['-']] else names
  let several := parallel || o.has '#'
  let columns := if parallel then names.length else columns
  let given : Octets := (o.value? 'S').getD ((o.value? 's').getD [])
  let oldSeparator := o.has 's' && !o.has 'S'
  let joins := o.has 'J' || (o.has 'w' && !several && !o.has 'W') || (oldSeparator && several && !o.has 'w' && !o.has 'W')
  let separates := o.has 'S' || (oldSeparator && several && (!joins || !given.isEmpty))
  let separator := if separates then given else if 1 < columns then (if joins then ['\t'] else [' ']) else []
  let separator := if 1 < columns && !joins && separator == ['\t'] then [' '] else separator
  let cuts := (1 < columns || o.has 'W') && !joins
  let framed := !o.has 't' && !o.has 'T' && 10 < length
  let formFeed := o.has 'f' || o.has 'F'
  let body := if framed then length - 10 else length
  let numbered ← match o.value? 'n' with
    | none => pure none
    | some value => match markAndCount '\t' 5 value with
      | some found => pure (some found)
      | none => c.refuse 1 (octets "'-n' extra characters or invalid number in the argument: " ++ inQuotes value)
  let tabOf (letter : Char) : Option (Char × Nat) := (o.value? letter).bind (markAndCount '\t' 8)
  let untabs := (1 < columns && separator != ['\t']) || o.has 'e'
  let numberWidth := (numbered.map fun n => if n.1 == '\t' then n.2 + (8 - n.2 % 8) else n.2 + 1).getD 0
  let free := width - (if parallel then numberWidth else 0) - (columns - 1) * separator.length
  if cuts && free / columns = 0 then c.refuse 1 (octets "page width too narrow")
  let pagesText := (o.value? '+').getD ['1']
  let firstText := pagesText.takeWhile (· != ':')
  let lastText := pagesText.drop (firstText.length + 1)
  let g := c.gather names plainComplaint
  let layout (header : Octets) : Layout :=
    { columns, across := o.has 'a', parallel, separator, separates := separates || 1 < columns, cuts
      tabs := 1 < columns || o.has 'i', columnWidth := free / max 1 columns, margin
      bodyLines := if o.has 'd' then body / 2 else body, framed, double := o.has 'd', formFeed, numbered, firstNumber, width
      header := (o.value? 'h').getD header, date := (o.value? 'D').getD (octets "1970-01-01 00:00")
      firstPage := (digitsIn 10 firstText).1, lastPage := if lastText.isEmpty then none else some (digitsIn 10 lastText).1
      expandsInput := if untabs then some ((tabOf 'e').getD ('\t', 8)) else none
      outputTab := (tabOf 'i').getD ('\t', 8), breaks := o.has 't'
      visible := if o.has 'v' then some true else if o.has 'c' then some false else none }
  let out :=
    if parallel then
      let l := layout []
      let rows := l.parallelRows (g.parts.map fun part => lines part.2)
      l.pages false (Layout.parts l.bodyLines (rows.length + 1) rows)
    else g.parts.flatMap fun (name, text) =>
      let l := layout (if namesInput name then [] else name)
      let perPage := l.bodyLines * l.columns
      let ends := (lines text).length % l.columns != 0
      let sheets := (cutAt '\x0c' text).map fun part =>
        let all := lines part
        (Layout.parts perPage (all.length + 1) all).foldl (fun (acc : List (List Octets) × Nat) chunk =>
          (l.rowsOf (l.firstNumber + acc.2) chunk :: acc.1, acc.2 + chunk.length)) ([], 0) |>.1.reverse
      if l.breaks then joinWith ['\x0c'] (sheets.map (l.pages ends)) else l.pages ends sheets.flatten
  return { c.finish g 1 out with err := if o.has 'r' then [] else g.err }

end ScriptBridge.Shell.Pages
