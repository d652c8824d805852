/-
Filling paragraphs. Lines are broken where that costs least: a line should be near its goal, lines should be of similar
length, and a break is better after a sentence and worse near one.

The costs are squares of how far something is from what is wanted, so they are kept as whole numbers.
-/
import ScriptBridge.Shell.Utility

namespace ScriptBridge.Shell.Paragraph

/-- a word of a paragraph: how many blanks follow it, and what its characters say about a break after or before it -/
structure Word where
  text : Octets
  space : Nat
  opens : Bool
  period : Bool
  punct : Bool
  final : Bool
deriving Inhabited

/-- how paragraphs are filled -/
structure Layout where
  width : Nat
  goal : Nat
  splitOnly : Bool
  uniform : Bool
  crown : Bool
  tagged : Bool
  lead : Octets

/-- the square of a number -/
def square (n : Int) : Int := n * n

/-- whether a character is a mark of punctuation -/
def isMark (c : Char) : Bool := ('!' ≤ c && c ≤ '/') || (':' ≤ c && c ≤ '@') || ('[' ≤ c && c ≤ '\x60') || ('\x7b' ≤ c && c ≤ '~')

/-- a word with what its characters say; `last` says that it ends its line, `gap` how many blanks follow it -/
def wordOf (l : Layout) (text : Octets) (last : Bool) (gap : Nat) : Word :=
  let end' := text.getLastD ' '
  let bare := match text.reverse.dropWhile fun c => ")]'\"".toList.contains c with
    | [] => text.headD ' '
    | c :: _ => c
  let period := ".?!".toList.contains bare
  let final := period && (last || 1 < gap)
  { text
    space := if last || l.uniform then (if final then 2 else 1) else gap
    opens := "(['\x60\"".toList.contains (text.headD ' ')
    period, final
    punct := isMark end' }

/-- the words of a line -/
def wordsOf (l : Layout) (line : Octets) : List Word :=
  let rec go : Nat → Octets → List Word
    | 0, _ => []
    | fuel + 1, o =>
      let text := o.takeWhile fun c => !isGap c
      if text.isEmpty then []
      else
        let rest := o.drop text.length
        let gap := rest.takeWhile isGap
        let more := rest.drop gap.length
        wordOf l text more.isEmpty gap.length :: go fuel more
  go (line.length + 1) (line.dropWhile isGap)

/-- what is known of a word once the words after it are laid out: what a line that begins with it and all after cost, how
many words are in the line, and how long it is -/
structure Plan where
  cost : Int
  count : Nat
  length : Nat
  last : Bool
deriving Inhabited

/-- what it costs that a line begins with a word -/
def startCost (words : Array Word) (i : Nat) : Int :=
  let this := words.getD i default
  let line := square 70
  let line := if i = 0 then line
    else
      let before := words.getD (i - 1) default
      if before.period then (if before.final then line - square 50 else line + square 600)
      else if before.punct then line - square 40
      else if 1 < i && (words.getD (i - 2) default).final then line + square 200 / (before.text.length + 2)
      else line
  if this.opens then line - square 40
  else if this.final then line + square 150 / (this.text.length + 2)
  else line

/-- what it costs that a line is so long, before the word `next` -/
def lineCost (l : Layout) (plans : Array Plan) (size next length : Nat) : Int :=
  if next = size then 0
  else
    let cost := square (((l.goal : Int) - length) * 10)
    let after := plans.getD next default
    if after.last then cost else cost + square (((length : Int) - after.length) * 10) / 2

/-- the best line that begins with a word: further words are taken while they fit -/
def bestLine (l : Layout) (words : Array Word) (plans : Array Plan) : Nat → Nat → Nat → Nat → Option Plan → Plan
  | 0, _, _, _, best => best.getD default
  | fuel + 1, i, next, length, best =>
    let size := words.size
    let cost := lineCost l plans size next length + (if next = size then 0 else (plans.getD next default).cost)
    let better := (best.map fun b => decide (cost < b.cost)).getD true
    let best := if better then some ⟨cost, next - i, length, next = size⟩ else best
    if next = size then best.getD default
    else
      let length := length + (words.getD (next - 1) default).space + (words.getD next default).text.length
      if length < l.width then bestLine l words plans fuel i (next + 1) length best else best.getD default

/-- the lines of a paragraph: the words of each with the gaps between them -/
def linesOf (l : Layout) (first other : Nat) (words : Array Word) : List Octets :=
  let size := words.size
  let plans := (List.range size).reverse.foldl (fun (plans : Array Plan) i =>
    let start := (if i = 0 then first else other) + (words.getD i default).text.length
    let p := bestLine l words plans (size + 1) i (i + 1) start none
    plans.set! i { p with cost := p.cost + startCost words i }) (Array.replicate size default)
  let rec emit : Nat → Nat → List Octets
    | 0, _ => []
    | fuel + 1, i =>
      if size ≤ i then []
      else
        let count := max 1 (plans.getD i default).count
        let line := (List.range count).flatMap fun k =>
          let w := words.getD (i + k) default
          w.text ++ (if k + 1 < count then List.replicate w.space ' ' else [])
        (List.replicate (if i = 0 then first else other) ' ' ++ line) :: emit fuel (i + count)
  emit (size + 1) 0

/-- the column that the text of a line begins at; a tab goes to the next stop -/
def indentOf (line : Octets) : Nat :=
  (line.takeWhile fun c => c == ' ' || c == '\t').foldl (fun n c => if c == '\t' then n + (8 - n % 8) else n + 1) 0

/-- a line with tabs in front in place of blanks where it had tabs -/
def tabbed (line : Octets) : Octets :=
  let blanks := (line.takeWhile (· == ' ')).length
  List.replicate (blanks / 8) '\t' ++ List.replicate (blanks % 8) ' ' ++ line.drop blanks

/-- fills the paragraphs of a text -/
def fill (l : Layout) (tabs : Bool) : Nat → List Octets → List Octets
  | 0, _ => []
  | _, [] => []
  | fuel + 1, line :: rest =>
    let bare (line : Octets) : Option Octets :=
      if l.lead.isEmpty then some line
      else
        let body := line.dropWhile isGap
        if l.lead.isPrefixOf body then some (body.drop l.lead.length) else none
    let isBlank (line : Octets) : Bool := line.all isGap
    match bare line with
    | none => line :: fill l tabs fuel rest
    | some body =>
      if isBlank body then (if l.lead.isEmpty then [] else line) :: fill l tabs fuel rest
      else
        let first := indentOf body
        let same (column : Nat) (line : Octets) : Bool := match bare line with
          | some b => !isBlank b && indentOf b == column
          | none => false
        let next? : Option Nat := match rest with
          | next :: _ => (bare next).bind fun b => if isBlank b then none else some (indentOf b)
          | [] => none
        let other := if l.crown || l.tagged then next?.getD first else first
        let joins := !l.splitOnly && !(l.tagged && other == first && next?.isSome && next? == some first)
        let more := if joins then rest.takeWhile (same other) else []
        let words := ((line :: more).flatMap fun line => wordsOf l ((bare line).getD line)).toArray
        let lead := if l.lead.isEmpty then [] else line.takeWhile isGap ++ l.lead
        let shown := (linesOf l first other words).map fun text => lead ++ (if tabs then tabbed text else text)
        shown ++ fill l tabs fuel (rest.drop more.length)

/-- fills paragraphs -/
def fmt (c : Call) : Running UtilityRun := do
  let args := c.args.map fun a => match a with
    | '-' :: d :: rest => if d.isDigit && rest.all Char.isDigit then '-' :: 'w' :: d :: rest else a
    | a => a
  let (o, names) ← { c with args }.parse
    { flags := "cstu", valued := "wgp", wrong := 1, leading := false
      words := [("crown-margin", 'c'), ("goal", 'g'), ("prefix", 'p'), ("split-only", 's'), ("tagged-paragraph", 't'),
        ("uniform-spacing", 'u'), ("width", 'w')] }
  let numeric (letter : Char) : Running (Option Nat) :=
    match o.value? letter with
    | none => return none
    | some text =>
      if text.isEmpty || !text.all Char.isDigit || 2500 < (digitsIn 10 text).1 then
        c.refuse 1 (octets "invalid width: " ++ inQuotes text)
      else return some (digitsIn 10 text).1
  let goal? ← numeric 'g'
  let width? ← numeric 'w'
  let width := width?.getD ((goal?.map (· + 10)).getD 75)
  let goal := goal?.getD (width * 187 / 200)
  let l : Layout := ⟨width, goal, o.has 's', o.has 'u', o.has 'c', o.has 't', (o.value? 'p').getD []⟩
  let g := c.gather names fun name e =>
    if e == .isFolder then octets "read error: Is a directory"
    else octets "cannot open " ++ inQuotes name ++ octets " for reading: " ++ briefCause e
  let out := g.parts.flatMap fun part =>
    let tabs := part.2.contains '\t'
    ofLines (fill l tabs ((lines part.2).length + 1) (lines part.2))
  return c.finish g 1 out

end ScriptBridge.Shell.Paragraph
