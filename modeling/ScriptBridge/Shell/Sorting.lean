/-
Putting lines in order. A line is compared by its keys, one after the other: parts of the line, each compared as bytes
or as numbers. Lines with equal keys are compared as a whole, unless that is not wanted.
-/
import ScriptBridge.Shell.LineFilter

namespace ScriptBridge.Shell

/-- how a key is compared -/
structure KeyOrder where
  blanksAtStart : Bool
  blanksAtEnd : Bool
  dictionary : Bool
  folded : Bool
  printable : Bool
  numeric : Bool
  general : Bool
  human : Bool
  month : Bool
  version : Bool
  reversed : Bool
deriving DecidableEq

/-- the order of bytes -/
def KeyOrder.plain : KeyOrder := ⟨false, false, false, false, false, false, false, false, false, false, false⟩

/-- an order with what a letter asks for; `atEnd` says that it stands after the end of a key -/
def KeyOrder.with? (k : KeyOrder) (atEnd : Bool) (c : Char) : Option KeyOrder :=
  match c with
  | 'b' => some (if atEnd then { k with blanksAtEnd := true } else { k with blanksAtStart := true })
  | 'd' => some { k with dictionary := true }
  | 'f' => some { k with folded := true }
  | 'i' => some { k with printable := true }
  | 'n' => some { k with numeric := true }
  | 'g' => some { k with general := true }
  | 'h' => some { k with human := true }
  | 'M' => some { k with month := true }
  | 'V' => some { k with version := true }
  | 'r' => some { k with reversed := true }
  | _ => none

/-- a key: from a character of a field up to a character of another one, or to the end of the line. Both count from
zero; a last character of zero stands for the whole field. -/
structure SortKey where
  field : Nat
  char : Nat
  last : Option (Nat × Nat)
  order : KeyOrder

/-- a line without its first fields -/
def afterFields (mark : Option Char) : Nat → Octets → Octets
  | 0, o => o
  | n + 1, o =>
    match mark with
    | some m => afterFields mark n ((o.dropWhile (· != m)).drop 1)
    | none =>
      let isGap (c : Char) := c == ' ' || c == '\t'
      afterFields mark n ((o.dropWhile isGap).dropWhile fun c => !isGap c)

/-- where a field ends, as what follows it -/
def afterLastField (mark : Option Char) (field : Nat) (o : Octets) : Octets :=
  match mark with
  | some m => (afterFields mark field o).dropWhile (· != m)
  | none => afterFields mark (field + 1) o

/-- the part of a line that a key is -/
def SortKey.part (k : SortKey) (mark : Option Char) (l : Octets) : Octets :=
  let isGap (c : Char) := c == ' ' || c == '\t'
  let start := afterFields mark k.field l
  let start := if k.order.blanksAtStart then start.dropWhile isGap else start
  let start := start.drop k.char
  match k.last with
  | none => start
  | some (field, 0) => start.take (start.length - (afterLastField mark field l).length)
  | some (field, char) =>
    let rest := afterFields mark field l
    let rest := if k.order.blanksAtEnd then rest.dropWhile isGap else rest
    start.take (start.length - (rest.drop char).length)

/-- a decimal number at the start of a text, as a whole number and how many of its digits stand after the point -/
def decimalAt (o : Octets) : Int × Nat :=
  let o := o.dropWhile fun c => c == ' ' || c == '\t'
  let (negative, o) := match o with
    | '-' :: rest => (true, rest)
    | rest => (false, rest)
  let whole := o.takeWhile Char.isDigit
  let fraction := match o.drop whole.length with
    | '.' :: rest => rest.takeWhile Char.isDigit
    | _ => []
  let n : Int := (digitsIn 10 (whole ++ fraction)).1
  (if negative then -n else n, fraction.length)

/-- the rank of the letter that follows a number, as in sizes -/
def sizeRank (o : Octets) : Nat :=
  let o := o.dropWhile fun c => c == ' ' || c == '\t' || c == '-'
  match (o.dropWhile fun c => c.isDigit || c == '.').head? with
  | some c => (("KMGTPEZY".toList.idxOf? c.toUpper).map (· + 1)).getD 0
  | none => 0

/-- the order of two numbers of decimals -/
def compareDecimals (a b : Int × Nat) : Ordering := compare (a.1 * Nat.pow 10 b.2) (b.1 * Nat.pow 10 a.2)

/-- the order of two texts -/
def compareOctets (a b : Octets) : Ordering := if a == b then .eq else if inOrder a b then .lt else .gt

/-- which month a text starts with, counted from one; zero where it starts with none -/
def monthAt (o : Octets) : Nat :=
  let name := ((o.dropWhile fun c => c == ' ' || c == '\t').take 3).map Char.toUpper
  ((["JAN", "FEB", "MAR", "APR", "MAY", "JUN", "JUL", "AUG", "SEP", "OCT", "NOV", "DEC"].map octets).idxOf? name).elim 0
    (· + 1)

/-- the rank of a character of a version: a tilde, the end of the text, the start of a number, letters, the rest -/
def versionRank (c : Option Char) : Nat :=
  match c with
  | some '~' => 0
  | none => 1
  | some c => if c.isDigit then 2 else if c.isAlpha then 3 + c.toNat else 259 + c.toNat

/-- the order of two texts in which numbers count by what they are worth -/
def comparePieces : Nat → Octets → Octets → Ordering
  | 0, _, _ => .eq
  | fuel + 1, a, b =>
    let isMark (o : Octets) : Bool := o.head?.any fun c => !c.isDigit
    if isMark a || isMark b then
      (compare (versionRank a.head?) (versionRank b.head?)).then (comparePieces fuel a.tail b.tail)
    else if a.isEmpty && b.isEmpty then .eq
    else
      let (x, lengthX) := digitsIn 10 a
      let (y, lengthY) := digitsIn 10 b
      (compare x y).then (comparePieces fuel (a.drop lengthX) (b.drop lengthY))

/-- a version without the endings that name kinds of files, such as those of packed ones -/
def withoutEndings (o : Octets) : Octets :=
  let isWord (c : Char) : Bool := c.isAlphanum || c == '~'
  let rec dropEndings : Nat → Octets → Octets
    | 0, o => o
    | fuel + 1, o =>
      let rest := o.dropWhile isWord
      let name := o.take (o.length - rest.length)
      match rest, name.getLast? with
      | '.' :: more, some c => if !c.isDigit && !more.isEmpty then dropEndings fuel more else o
      | _, _ => o
  (dropEndings o.length o.reverse).reverse

/-- the order of two versions: names that start with a point come first -/
def compareVersions (a b : Octets) : Ordering :=
  let place (o : Octets) : Nat :=
    if o.isEmpty then 0 else if o == ['.'] then 1 else if o == ['.', '.'] then 2
    else if o.head? == some '.' then 3 else 4
  let pieces (a b : Octets) : Ordering := comparePieces (a.length + b.length + 1) a b
  (compare (place a) (place b)).then ((pieces (withoutEndings a) (withoutEndings b)).then (pieces a b))

/-- the order of two keys -/
def KeyOrder.compare (k : KeyOrder) (a b : Octets) : Ordering :=
  let tidy (o : Octets) : Octets :=
    let o := if k.dictionary then o.filter fun c => c.isAlphanum || c == ' ' || c == '\t' else o
    let o := if k.printable then o.filter fun c => ' ' ≤ c && c ≤ '~' else o
    if k.folded then o.map Char.toUpper else o
  let ordered :=
    if k.numeric then compareDecimals (decimalAt a) (decimalAt b)
    else if k.general then
      let (x, restX) := realNumeral a
      let (y, restY) := realNumeral b
      let missing (o rest : Octets) : Bool := o.length == rest.length
      if missing a restX && missing b restY then .eq
      else if missing a restX then .lt
      else if missing b restY then .gt
      else (x.order? y).getD .eq
    else if k.human then
      let sign (o : Octets) : Int := (decimalAt o).1.sign
      let rank (o : Octets) : Int := sign o * sizeRank o
      (Ord.compare (sign a) (sign b)).then ((Ord.compare (rank a) (rank b)).then
        (compareDecimals (decimalAt a) (decimalAt b)))
    else if k.month then Ord.compare (monthAt a) (monthAt b)
    else if k.version then compareVersions a b
    else compareOctets (tidy a) (tidy b)
  if k.reversed then ordered.swap else ordered

/-- a position in a key: a count, a second count after a point, and letters -/
def keyPosition? (o : Octets) : Option (Nat × Option Nat × Octets) :=
  let (n, length) := digitsIn 10 o
  if length = 0 then none
  else match o.drop length with
    | '.' :: rest =>
      let (m, length) := digitsIn 10 rest
      if length = 0 then none else some (n, some m, rest.drop length)
    | rest => some (n, none, rest)

/-- reads a key, or says what is wrong with it -/
def readKey (shared : KeyOrder) (o : Octets) : Except Octets SortKey :=
  let spec (message : String) : Octets := octets message ++ octets ": invalid field specification '" ++ o ++ ['\'']
  let letters (atEnd : Bool) (k : KeyOrder) (cs : Octets) : Except Octets KeyOrder :=
    cs.foldlM (fun k c => match k.with? atEnd c with
      | some k => .ok k
      | none => .error (spec "stray character in field spec")) k
  let pieces := cutAt ',' o
  match pieces with
  | start :: rest =>
    match keyPosition? start with
    | none => .error (octets "invalid number at field start: invalid count at start of '" ++ start ++ ['\''])
    | some (field, char, marks) => do
      if field = 0 then .error (spec "field number is zero")
      else if char == some 0 then .error (spec "character offset is zero")
      else
        let order ← letters false KeyOrder.plain marks
        let (last, order) ← match rest with
          | [] => pure (none, order)
          | stop :: _ =>
            match keyPosition? stop with
            | none => .error (octets "invalid number after ',': invalid count at start of '" ++ stop ++ ['\''])
            | some (0, _, _) => .error (spec "field number is zero")
            | some (field, char, marks) => do
              pure (some (field - 1, char.getD 0), ← letters true order marks)
        return ⟨field - 1, char.getD 1 - 1, last, if order = KeyOrder.plain then shared else order⟩
  | [] => .error (spec "field number is zero")

/-- lines in order -/
def sort (c : Call) : Running UtilityRun := do
  let (o, names) ← c.parse
    { flags := "bcCdfghimMnrRsuVz", valued := "kotST"
      words := [("ignore-leading-blanks", 'b'), ("check", 'c'), ("dictionary-order", 'd'), ("ignore-case", 'f'),
        ("general-numeric-sort", 'g'), ("human-numeric-sort", 'h'), ("ignore-nonprinting", 'i'), ("key", 'k'),
        ("merge", 'm'), ("month-sort", 'M'), ("version-sort", 'V'), ("numeric-sort", 'n'), ("output", 'o'),
        ("reverse", 'r'), ("stable", 's'), ("field-separator", 't'), ("unique", 'u'), ("zero-terminated", 'z')]
      wrong := 2, leading := false }
  let shared := o.given.foldl (fun (k : KeyOrder) g => (k.with? false g.1).getD k) KeyOrder.plain
  let shared := { shared with blanksAtEnd := o.has 'b' }
  let mark ← match o.value? 't' with
    | none => pure none
    | some ['\\', '0'] => pure (some (Char.ofNat 0))
    | some [m] => pure (some m)
    | some [] => c.refuse 2 (octets "empty tab")
    | some t => c.refuse 2 (octets "multi-character tab '" ++ t ++ ['\''])
  let keys ← (o.values 'k').mapM fun k => match readKey shared k with
    | .ok key => pure key
    | .error e => c.refuse 2 e
  let keys := if keys.isEmpty then [⟨0, 0, none, shared⟩] else keys
  let byKeys (a b : Octets) : Ordering :=
    keys.foldl (fun found k => found.then (k.order.compare (k.part mark a) (k.part mark b))) .eq
  let whole (a b : Octets) : Ordering :=
    if o.has 's' || o.has 'u' then byKeys a b
    else (byKeys a b).then (if shared.reversed then (compareOctets a b).swap else compareOctets a b)
  let g := c.gather names (openComplaint "cannot read: " ": " "read failed: " ": ")
  let stop := if o.has 'z' then Char.ofNat 0 else '\n'
  let all :=
    let pieces := cutAt stop g.whole
    if pieces.getLast? == some [] then pieces.dropLast else pieces
  if g.failed then return c.finish g 2 []
  else if o.has 'c' || o.has 'C' then
    match ((all.zip (all.drop 1)).zipIdx 2).find? fun (p, _) =>
        let found := byKeys p.1 p.2
        found == .gt || (found == .eq && (o.has 'u' || whole p.1 p.2 == .gt)) with
    | none => return c.finish g 2 []
    | some (p, k) =>
      let place := names.headD ['-'] ++ ':' :: number k
      return { c.finish g 2 [] with
        status := 1
        err := if o.has 'C' then [] else c.complaint (place ++ octets ": disorder: " ++ p.2) }
  else
    let sorted := all.mergeSort fun a b => whole a b != .gt
    let kept := if o.has 'u' then
        (sorted.foldl (fun (kept : List Octets) l => match kept with
          | k :: _ => if byKeys k l == .eq then kept else l :: kept
          | [] => [l]) []).reverse
      else sorted
    let out := kept.flatMap (· ++ [stop])
    match o.value? 'o' with
    | none => return c.finish g 2 out
    | some target =>
      match c.files.write (pathOf target) (toBytes out) with
      | .ok files => return { c.finish g 2 [] with files }
      | .error e => c.refuse 2 (octets "open failed: " ++ plainComplaint target e)

/-! ## Order by pairs -/

/-- names with what comes right after each, and how many names come right before each -/
structure Precedence where
  after : List (Octets × List Octets)
  counts : List (Octets × Nat)

namespace Precedence

/-- a name among the others -/
def withItem (p : Precedence) (name : Octets) : Precedence :=
  if (p.counts.lookup name).isSome then p else { p with counts := p.counts ++ [(name, 0)] }

/-- notes that one name comes before another -/
def relate (p : Precedence) (a b : Octets) : Precedence :=
  let p := (p.withItem a).withItem b
  if a == b then p
  else
    { after := (a, b :: (p.after.lookup a).getD []) :: p.after.filter fun e => e.1 != a
      counts := p.counts.map fun e => if e.1 == b then (e.1, e.2 + 1) else e }

/-- takes names that nothing comes before any more, in the order in which they became so -/
def drain : Nat → List Octets → Precedence → List Octets × Precedence
  | 0, _, p => ([], p)
  | _, [], p => ([], p)
  | fuel + 1, name :: waiting, p =>
    let (counts, freed) := ((p.after.lookup name).getD []).foldl (fun (acc : List (Octets × Nat) × List Octets) next =>
      let counts := acc.1.map fun e => if e.1 == next then (e.1, e.2 - 1) else e
      (counts, if counts.lookup next == some 0 then acc.2 ++ [next] else acc.2)) (p.counts, [])
    let (rest, p) := drain fuel (waiting ++ freed) { p with counts := counts.filter fun e => e.1 != name }
    (name :: rest, p)

/-- names that come before each other in a circle, found by going back from a name -/
def circle (p : Precedence) : Nat → List Octets → Octets → List Octets
  | 0, seen, _ => seen
  | fuel + 1, seen, name =>
    if seen.contains name then (seen.takeWhile (· != name)) ++ [name]
    else
      let live (n : Octets) : Bool := (p.counts.lookup n).isSome
      match (p.after.filter fun e => live e.1 && e.2.contains name).map Prod.fst |>.mergeSort inOrder with
      | before :: _ => circle p fuel (name :: seen) before
      | [] => seen

/-- an order of all names, with the circles that had to be broken for it -/
def order : Nat → Precedence → List Octets × List (List Octets)
  | 0, _ => ([], [])
  | fuel + 1, p =>
    let ready := ((p.counts.filter fun e => e.2 = 0).map Prod.fst).mergeSort inOrder
    let (names, p) := drain (p.counts.length + 1) ready p
    match (p.counts.map Prod.fst).mergeSort inOrder with
    | [] => (names, [])
    | first :: _ =>
      let ring := p.circle (p.counts.length + 1) [] first
      let a := ring.getLastD []
      let b := ring.headD []
      let p : Precedence :=
        { after := p.after.map fun e => if e.1 == a then (e.1, e.2.erase b) else e
          counts := p.counts.map fun e => if e.1 == b then (e.1, e.2 - 1) else e }
      let (rest, rings) := order fuel p
      (names ++ rest, ring :: rings)

end Precedence

/-- orders names so that the first one of each pair comes before the second one -/
def tsort (c : Call) : Running UtilityRun := do
  let (_, names) ← c.parse { flags := "", valued := "", words := [], wrong := 1, leading := false }
  match names with
  | _ :: extra :: _ => c.misuse 1 (octets "extra operand " ++ inQuotes extra)
  | _ => pure ()
  let g := c.gather names plainComplaint
  let label := names.headD ['-']
  let words := (cutAt ' ' (g.whole.map fun d => if d == '\n' || d == '\t' then ' ' else d)).filter fun w => !w.isEmpty
  if words.length % 2 = 1 then c.refuse 1 (label ++ octets ": input contains an odd number of tokens")
  let rec pairs : Precedence → List Octets → Precedence
    | p, a :: b :: rest => pairs (p.relate a b) rest
    | p, _ => p
  let (ordered, rings) := (pairs ⟨[], []⟩ words).order (words.length * words.length + 1)
  let err := rings.flatMap fun ring =>
    c.complaint (label ++ octets ": input contains a loop:") ++ ring.flatMap fun name => c.complaint name
  let r := c.finish g 1 (ofLines ordered)
  return { r with status := if rings.isEmpty then r.status else 1, err := r.err ++ err }

/-- mixes lines; no chance is at work here, so they stay as they are -/
def shuf (c : Call) : Running UtilityRun := do
  let (o, operands) ← c.parse
    { flags := "erz", valued := "inos", wrong := 1, leading := false
      words := [("echo", 'e'), ("head-count", 'n'), ("input-range", 'i'), ("output", 'o'), ("random-source", 's'),
        ("repeat", 'r'), ("zero-terminated", 'z')] }
  let most ← match o.value? 'n' with
    | none => pure none
    | some text =>
      if text.isEmpty || !text.all Char.isDigit then c.refuse 1 (octets "invalid line count: " ++ inQuotes text)
      else pure (some (digitsIn 10 text).1)
  let range ← match o.value? 'i' with
    | none => pure none
    | some text =>
      let low := text.takeWhile Char.isDigit
      let high := text.drop (low.length + 1)
      let (a, b) := ((digitsIn 10 low).1, (digitsIn 10 high).1)
      if low.isEmpty || high.isEmpty || !high.all Char.isDigit || b + 1 < a then
        c.refuse 1 (octets "invalid input range: " ++ inQuotes text)
      else pure (some ((List.range (b + 1 - a)).map fun i => number ((a + i : Nat) : Int)))
  match operands, o.has 'e' || range.isSome with
  | _ :: extra :: _, false => c.misuse 1 (octets "extra operand " ++ inQuotes extra)
  | extra :: _, true => if range.isSome then c.misuse 1 (octets "extra operand " ++ inQuotes extra)
  | _, _ => pure ()
  let g := if o.has 'e' || range.isSome then (⟨[], none, [], false, c.input⟩ : Gathered) else c.gather operands plainComplaint
  let items := range.getD (if o.has 'e' then operands else lines g.whole)
  let items := match most with
    | some n => items.take n
    | none => items
  return c.finish g 1 (ofLines items)

end ScriptBridge.Shell
