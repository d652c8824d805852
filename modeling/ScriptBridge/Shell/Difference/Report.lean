/-
Reports of differences: which lines are removed and added, alone or with lines around them, as commands that make one
text of the other, as two columns, or as one text with conditions.
-/
import ScriptBridge.Shell.Difference.Basic
import ScriptBridge.Shell.Regex
import ScriptBridge.Shell.Utility

namespace ScriptBridge.Shell.Difference

/-- the ways in which differences are reported -/
inductive Style where
  | plain
  | context
  | unified
  | commands
  | forwardCommands
  | counted
  | columns
  | conditions
deriving DecidableEq, Inhabited

/-- which blanks do not count: none of them, those at the ends of lines, how many there are, or any -/
inductive Blanks where
  | count
  | atEnds
  | amount
  | never
deriving DecidableEq, Inhabited

/-- what is asked of a comparison -/
structure Plan where
  style : Style
  around : Nat
  horizon : Nat
  blanks : Blanks
  caseless : Bool
  tabless : Bool
  dropReturns : Bool
  blankLines : Bool
  ignored : List Regex
  heading : Option Regex
  expands : Bool
  initialTab : Bool
  width : Nat
  leftColumn : Bool
  onlyChanged : Bool
  macroName : Octets

/-- a text that is compared: the name that it is shown with, its lines, and whether the last one has an end -/
structure Side where
  label : Octets
  lines : List Octets
  complete : Bool

/-- a text as a side -/
def Side.ofText (label text : Octets) (dropReturns : Bool) : Side :=
  ⟨label, (Shell.lines text).map fun l => if dropReturns && l.getLast? == some '\r' then l.dropLast else l, endsLine text⟩

/-- a text with blanks up to the next stop in place of tabs -/
def spread : Nat → Octets → Octets
  | _, [] => []
  | column, '\t' :: rest => List.replicate (8 - column % 8) ' ' ++ spread (column + (8 - column % 8)) rest
  | column, c :: rest => c :: spread (column + 1) rest

/-- a text with one blank in place of several -/
def squeezed : Octets → Octets
  | [] => []
  | c :: rest => if isGap c then
      match squeezed rest with
      | ' ' :: more => ' ' :: more
      | more => ' ' :: more
    else c :: squeezed rest

namespace Plan

/-- what of a line counts -/
def key (p : Plan) (line : Octets) : Octets :=
  let line := if p.tabless then spread 0 line else line
  let withoutEnd (o : Octets) : Octets := (o.reverse.dropWhile isGap).reverse
  let line := match p.blanks with
    | .count => line
    | .atEnds => withoutEnd line
    | .amount => squeezed (withoutEnd line)
    | .never => line.filter fun c => !isGap c
  if p.caseless then line.map Char.toLower else line

/-- whether an end of line that is missing counts -/
def minds (p : Plan) : Bool := p.style != .commands && p.style != .forwardCommands

/-- the lines of a side; where it counts, the last one differs from a line with an end -/
def marked (p : Plan) (s : Side) : List Octets :=
  if s.complete || !p.minds then s.lines
  else s.lines.dropLast ++ (s.lines.getLast?.map fun l => l ++ ['\n']).toList

/-- the changes between two sides -/
def changes (p : Plan) (left right : Side) : List Change :=
  let key (line : Octets) : Octets :=
    if p.blanks == .count then p.key line else p.key (line.filter (· != '\n'))
  changesOf key (max p.around p.horizon) (p.marked left) (p.marked right)

/-- whether a change does not count because of what its lines are -/
def passes (p : Plan) (left right : Side) (c : Change) : Bool :=
  if !p.blankLines && p.ignored.isEmpty then false
  else
    let lines := (left.lines.drop c.start).take c.removed ++ (right.lines.drop c.otherStart).take c.added
    lines.all fun l =>
      (p.blankLines && (if p.blanks == .count then l.isEmpty else l.all isGap))
        || p.ignored.any fun r => Regex.found ⟨false, false⟩ r l

/-- a line as it is shown after a mark -/
def shown (p : Plan) (mark line : Octets) : Octets :=
  let gap : Octets := if p.initialTab then (match mark.reverse with
    | ' ' :: rest => rest.reverse ++ ['\t']
    | _ => mark ++ ['\t']) else mark
  gap ++ (if p.expands then spread 0 line else line) ++ ['\n']

/-- lines of a side as they are shown after a mark -/
def block (p : Plan) (s : Side) (mark : Octets) (start count : Nat) : Octets :=
  let rows := ((s.lines.drop start).take count).flatMap (p.shown mark)
  let isOpen : Bool := !s.complete && 0 < count && start + count == s.lines.length && p.minds
  if isOpen then rows ++ octets "\\ No newline at end of file\n" else rows

end Plan

/-- the numbers of lines that are replaced, counted from one, or the line that they would follow -/
def span (start count : Nat) : Octets :=
  let last := number ((start + count : Nat) : Int)
  if count ≤ 1 then last else number ((start + 1 : Nat) : Int) ++ ',' :: last

/-- the changes that count, each alone -/
def plainReport (p : Plan) (left right : Side) (changes : List Change) : Octets :=
  changes.flatMap fun c =>
    let letter := if c.removed = 0 then 'a' else if c.added = 0 then 'd' else 'c'
    span c.start c.removed ++ letter :: span c.otherStart c.added ++ ['\n']
      ++ p.block left (octets "< ") c.start c.removed
      ++ (if letter == 'c' then octets "---\n" else [])
      ++ p.block right (octets "> ") c.otherStart c.added

/-! ## With lines around -/

/-- groups of changes that are near each other -/
def groups (p : Plan) : List Change → List (List Change)
  | [] => []
  | c :: rest =>
    match groups p rest with
    | (next :: more) :: others =>
      if next.start < c.start + c.removed + 2 * p.around + 1 then (c :: next :: more) :: others
      else [c] :: (next :: more) :: others
    | others => [c] :: others

/-- the lines that a group covers: where it begins and how many there are, on both sides -/
structure Cover where
  start : Nat
  count : Nat
  otherStart : Nat
  otherCount : Nat

/-- what a group covers with the lines around it -/
def coverOf (p : Plan) (left right : Side) (group : List Change) : Cover :=
  let first := group.headD default
  let last := group.getLastD default
  let start := first.start - p.around
  let otherStart := first.otherStart - p.around
  ⟨start, min (last.start + last.removed + p.around) left.lines.length - start, otherStart,
    min (last.otherStart + last.added + p.around) right.lines.length - otherStart⟩

/-- the line that names the part of a text before a place -/
def headingBefore (p : Plan) (left : Side) (place : Nat) : Octets :=
  match p.heading with
  | none => []
  | some r =>
    match (left.lines.take place).reverse.find? fun l => Regex.found ⟨false, false⟩ r l with
    | none => []
    | some line => ' ' :: (((line.dropWhile isGap).take 40).reverse.dropWhile isGap).reverse

/-- the changes with lines around them in one column -/
def unifiedReport (p : Plan) (left right : Side) (groups : List (List Change)) : Octets :=
  let range (start count : Nat) : Octets :=
    if count = 0 then number start ++ octets ",0"
    else if count = 1 then number ((start + 1 : Nat) : Int)
    else number ((start + 1 : Nat) : Int) ++ ',' :: number count
  octets "--- " ++ left.label ++ octets "\n+++ " ++ right.label ++ ['\n'] ++ groups.flatMap fun group =>
    let cover := coverOf p left right group
    let (body, reached) := group.foldl (fun (acc : List Octets × Nat) c =>
      ((p.block left [' '] acc.2 (c.start - acc.2) ++ p.block left ['-'] c.start c.removed
        ++ p.block right ['+'] c.otherStart c.added) :: acc.1, c.start + c.removed)) ([], cover.start)
    octets "@@ -" ++ range cover.start cover.count ++ octets " +" ++ range cover.otherStart cover.otherCount ++ octets " @@"
      ++ headingBefore p left cover.start ++ ['\n'] ++ body.reverse.flatten
      ++ p.block left [' '] reached (cover.start + cover.count - reached)

/-- the changes with lines around them, both sides one after the other -/
def contextReport (p : Plan) (left right : Side) (groups : List (List Change)) : Octets :=
  let range (start count : Nat) : Octets :=
    if count ≤ 1 then number ((start + count : Nat) : Int)
    else number ((start + 1 : Nat) : Int) ++ ',' :: number ((start + count : Nat) : Int)
  let half (s : Side) (mark : Char) (start count : Nat) (parts : List (Nat × Nat × Bool)) : Octets :=
    if parts.all fun part => part.2.1 = 0 then []
    else
      let (body, reached) := parts.foldl (fun (acc : List Octets × Nat) part =>
        ((p.block s (octets "  ") acc.2 (part.1 - acc.2)
          ++ p.block s [if part.2.2 then '!' else mark, ' '] part.1 part.2.1) :: acc.1, part.1 + part.2.1)) ([], start)
      body.reverse.flatten ++ p.block s (octets "  ") reached (start + count - reached)
  octets "*** " ++ left.label ++ octets "\n--- " ++ right.label ++ ['\n'] ++ groups.flatMap fun group =>
    let cover := coverOf p left right group
    octets "***************" ++ headingBefore p left cover.start ++ octets "\n*** " ++ range cover.start cover.count
      ++ octets " ****\n"
      ++ half left '-' cover.start cover.count (group.map fun c => (c.start, c.removed, c.added != 0))
      ++ octets "--- " ++ range cover.otherStart cover.otherCount ++ octets " ----\n"
      ++ half right '+' cover.otherStart cover.otherCount (group.map fun c => (c.otherStart, c.added, c.removed != 0))

/-! ## Other forms -/

/-- the changes as commands of a line editor, the last one first -/
def commandReport (p : Plan) (right : Side) (changes : List Change) : Octets :=
  changes.reverse.flatMap fun c =>
    let letter := if c.removed = 0 then 'a' else if c.added = 0 then 'd' else 'c'
    let lines := (right.lines.drop c.otherStart).take c.added
    let body := lines.flatMap fun l =>
      if l == ['.'] then octets "..\n.\ns/.//\na\n" else p.shown [] l
    let ended := lines.getLast? == some ['.']
    let body := if ended then body.take (body.length - 2) else body
    span c.start c.removed ++ letter :: '\n' :: body
      ++ (if c.added = 0 || ended then [] else octets ".\n")

/-- the changes as commands, the first one first -/
def forwardReport (p : Plan) (right : Side) (changes : List Change) : Octets :=
  changes.flatMap fun c =>
    let letter := if c.removed = 0 then 'a' else if c.added = 0 then 'd' else 'c'
    letter :: (span c.start c.removed).map (fun d => if d == ',' then ' ' else d) ++ ['\n']
      ++ p.block right [] c.otherStart c.added ++ (if c.added = 0 then [] else octets ".\n")

/-- the changes as commands with counts of lines -/
def countedReport (p : Plan) (right : Side) (changes : List Change) : Octets :=
  changes.flatMap fun c =>
    (if c.removed = 0 then []
      else 'd' :: number ((c.start + 1 : Nat) : Int) ++ ' ' :: number c.removed ++ ['\n'])
    ++ (if c.added = 0 then []
      else 'a' :: number ((c.start + c.removed : Nat) : Int) ++ ' ' :: number c.added ++ '\n' ::
        (let rows := p.block { right with complete := true } [] c.otherStart c.added
        if !right.complete && c.otherStart + c.added == right.lines.length then rows.dropLast else rows))

/-- both texts as one, with conditions around what differs -/
def conditionReport (p : Plan) (left right : Side) (changes : List Change) : Octets :=
  let (left, right) := ({ left with complete := true }, { right with complete := true })
  let (body, reached) := changes.foldl (fun (acc : List Octets × Nat) c =>
    let old := p.block left [] c.start c.removed
    let new := p.block right [] c.otherStart c.added
    let text :=
      if c.removed = 0 then octets "#ifdef " ++ p.macroName ++ '\n' :: new ++ octets "#endif /* " ++ p.macroName ++ octets " */\n"
      else if c.added = 0 then
        octets "#ifndef " ++ p.macroName ++ '\n' :: old ++ octets "#endif /* ! " ++ p.macroName ++ octets " */\n"
      else octets "#ifndef " ++ p.macroName ++ '\n' :: old ++ octets "#else /* " ++ p.macroName ++ octets " */\n" ++ new
        ++ octets "#endif /* " ++ p.macroName ++ octets " */\n"
    ((p.block left [] acc.2 (c.start - acc.2) ++ text) :: acc.1, c.start + c.removed)) ([], 0)
  body.reverse.flatten ++ p.block left [] reached (left.lines.length - reached)

/-! ## Two columns -/

/-- the width of a column, and where the second one begins -/
def columnsOf (p : Plan) : Nat × Nat :=
  let tab := if p.expands then 1 else 8
  let offset := p.width / 2 + (tab + 3) / 2 + (if p.width % 2 = 1 && (tab + 3) % 2 = 1 then 1 else 0)
  let offset := offset - offset % tab
  let half := if offset ≤ 3 || p.width ≤ offset then 0 else min (offset - 3) (p.width - offset)
  (half, if half = 0 then p.width else offset)

/-- blanks from one column to another; tabs where they fit -/
def gapTo (p : Plan) (start stop : Nat) : Octets :=
  if p.expands || stop / 8 ≤ start / 8 then List.replicate (stop - start) ' '
  else List.replicate (stop / 8 - start / 8) '\t' ++ List.replicate (stop % 8) ' '

/-- as much of a line as fits into a column, with the place that it reaches -/
def halfLine (p : Plan) (bound : Nat) : Nat → Nat → Octets → Octets × Nat
  | _, out, [] => ([], out)
  | place, out, '\t' :: rest =>
    let next := place + (8 - place % 8)
    if place != out then halfLine p bound next out rest
    else if p.expands then
      let stop := min bound next
      let (more, out) := halfLine p bound next (max out stop) rest
      (List.replicate (stop - place) ' ' ++ more, out)
    else if next < bound then
      let (more, out) := halfLine p bound next next rest
      ('\t' :: more, out)
    else halfLine p bound next out rest
  | place, out, c :: rest =>
    if c.toNat < 32 then
      let (more, out) := halfLine p bound place out rest
      (if place < bound then c :: more else more, out)
    else if place < bound then
      let (more, out) := halfLine p bound (place + 1) (place + 1) rest
      (c :: more, out)
    else halfLine p bound (place + 1) out rest

/-- a row of two columns; a line comes with whether it has an end -/
def columnRow (p : Plan) (left : Option (Octets × Bool)) (sign : Char) (right : Option (Octets × Bool)) : Octets :=
  let (half, second) := columnsOf p
  let (text, column) := match left with
    | some (line, _) => halfLine p half 0 0 line
    | none => ([], 0)
  let ended := (left.map Prod.snd).getD false
  let sign := if sign == '|' && (right.map Prod.snd).getD false != ended then (if ended then '/' else '\\') else sign
  let (text, column) :=
    if sign == ' ' then (text, column)
    else
      let place := (half + second - 1) / 2
      (text ++ gapTo p column place ++ [sign], place + 1)
  let text := match right with
    | some (line, _) => if line.isEmpty then text else text ++ gapTo p column second ++ (halfLine p half 0 0 line).1
    | none => text
  if ended || (right.map Prod.snd).getD false then text ++ ['\n'] else text

/-- both texts in two columns -/
def columnReport (p : Plan) (left right : Side) (changes : List Change) : Octets :=
  let line (s : Side) (i : Nat) : Option (Octets × Bool) := s.lines[i]?.map fun l => (l, s.complete || i + 1 < s.lines.length)
  let common (start stop other : Nat) : Octets :=
    if p.onlyChanged then []
    else (List.range (stop - start)).flatMap fun i =>
      if p.leftColumn then columnRow p (line left (start + i)) '(' none
      else columnRow p (line left (start + i)) ' ' (line right (other + i))
  let (body, reached, other) := changes.foldl (fun (acc : List Octets × Nat × Nat) c =>
    let paired := min c.removed c.added
    let rows := (List.range (max c.removed c.added)).flatMap fun i =>
      if i < paired then columnRow p (line left (c.start + i)) '|' (line right (c.otherStart + i))
      else if i < c.removed then columnRow p (line left (c.start + i)) '<' none
      else columnRow p none '>' (line right (c.otherStart + i))
    ((common acc.2.1 c.start acc.2.2 ++ rows) :: acc.1, c.start + c.removed, c.otherStart + c.added)) ([], 0, 0)
  body.reverse.flatten ++ common reached left.lines.length other

/-- the report of the differences between two sides; nothing when there are none that count -/
def report? (p : Plan) (left right : Side) : Option Octets :=
  let changes := p.changes left right
  let counting := changes.filter fun c => !p.passes left right c
  let near := (groups p changes).filter fun group => group.any fun c => !p.passes left right c
  let text := match p.style with
    | .plain => plainReport p left right counting
    | .context => contextReport p left right near
    | .unified => unifiedReport p left right near
    | .commands => commandReport p right counting
    | .forwardCommands => forwardReport p right counting
    | .counted => countedReport p right counting
    | .columns => columnReport p left right changes
    | .conditions => conditionReport p left right changes
  if counting.isEmpty then (if p.style == .columns || p.style == .conditions then some text else none) else some text

end ScriptBridge.Shell.Difference
