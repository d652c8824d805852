/-
Counting what is in files, and counting up. Counts stand in columns that are wide enough for the largest one that the
sizes of the files allow. A row of numbers has as many places after the point as its start and its step.
-/
import ScriptBridge.Shell.LineFilter
import ScriptBridge.Shell.Printing

namespace ScriptBridge.Shell

/-! ## Counts -/

/-- line feeds, words, characters and bytes of a text, and the length of its longest line -/
structure Counts where
  lines : Nat
  words : Nat
  bytes : Nat
  longest : Nat

namespace Counts

/-- the counts of a text -/
def ofText (o : Octets) : Counts :=
  let (words, _) := o.foldl (fun (acc : Nat × Bool) c =>
    if isGap c then (acc.1, false) else (if acc.2 then acc.1 else acc.1 + 1, true)) (0, false)
  let length (l : Octets) : Nat := l.foldl (fun n c => if c == '\t' then (n / 8 + 1) * 8 else n + 1) 0
  ⟨o.count '\n', words, o.length, (Shell.lines o).foldl (fun n l => max n (length l)) 0⟩

/-- the counts of two texts together -/
def add (a b : Counts) : Counts :=
  ⟨a.lines + b.lines, a.words + b.words, a.bytes + b.bytes, max a.longest b.longest⟩

end Counts

/-- counts of lines, words and bytes -/
def wc (c : Call) : Running UtilityRun := do
  let (o, names) ← c.parse
    { flags := "clmwL", valued := "T", wrong := 1, leading := false
      words := [("bytes", 'c'), ("chars", 'm'), ("lines", 'l'), ("words", 'w'), ("max-line-length", 'L'), ("total", 'T')] }
  let usual := !(o.has 'c' || o.has 'l' || o.has 'm' || o.has 'w' || o.has 'L')
  let columns (n : Counts) : List Nat :=
    (if usual || o.has 'l' then [n.lines] else []) ++ (if usual || o.has 'w' then [n.words] else [])
      ++ (if o.has 'm' then [n.bytes] else []) ++ (if usual || o.has 'c' then [n.bytes] else [])
      ++ (if o.has 'L' then [n.longest] else [])
  let single := (columns ⟨0, 0, 0, 0⟩).length = 1
  let sizes := (if names.isEmpty then [['-']] else names).filterMap fun name =>
    if namesInput name then some c.stream.size
    else if c.files.isFolder (pathOf name) then some none
    else match c.readFile name with
      | .ok content => if (deviceAt? c.files name).isSome then some none else some (some content.length)
      | .error _ => none
  let total : Nat := sizes.foldl (fun n (s : Option Nat) => n + s.getD 0) 0
  let width :=
    if names.length ≤ 1 && (single || sizes.isEmpty) then 1
    else max (if sizes.any Option.isNone then 7 else 1) (number total).length
  let row (n : Counts) (name : Octets) : Octets :=
    joinWith [' '] ((columns n).map fun (k : Nat) => padLeft width (number k))
      ++ (if name.isEmpty then [] else ' ' :: name) ++ ['\n']
  let (rows, err, lead, input, sum) := (if names.isEmpty then [[]] else names).foldl
    (fun (rows, err, lead, input, sum) (name : Octets) =>
      let (content, problem) : Option Octets × Octets :=
        if name.isEmpty || namesInput name then (some input, [])
        else match c.readFile name with
          | .ok content => (some content, [])
          | .error e => (if e == .isFolder then some [] else none, c.complaint (plainComplaint name e))
      let input := if name.isEmpty || namesInput name then [] else input
      let lead : Option Nat := if problem.isEmpty then lead else lead.orElse fun _ => some rows.length
      match content with
      | some content =>
        let n := Counts.ofText content
        (rows ++ row n name, err ++ problem, lead, input, sum.add n)
      | none => (rows, err ++ problem, lead, input, sum))
    (([] : Octets), ([] : Octets), none, c.input, (⟨0, 0, 0, 0⟩ : Counts))
  let when := (o.value? 'T').getD (octets "auto")
  let totals := if when == octets "only" then row sum []
    else if when == octets "never" || (names.length ≤ 1 && when != octets "always") then []
    else row sum (octets "total")
  let out := (if when == octets "only" then [] else rows) ++ totals
  return ⟨if lead.isSome then 1 else 0, out, err, lead, input, c.files⟩

/-! ## Rows of numbers -/

/-- a decimal: a whole number of units, with how many places they stand after the point -/
structure PlacedNumber where
  units : Int
  places : Nat

/-- reads a decimal with an optional exponent -/
def placedNumber? (o : Octets) : Option PlacedNumber :=
  let (negative, body) := signOf o
  let whole := body.takeWhile Char.isDigit
  let rest := body.drop whole.length
  let (fraction, rest) := match rest with
    | '.' :: more => (more.takeWhile Char.isDigit, more.dropWhile Char.isDigit)
    | rest => ([], rest)
  let power : Option Int := match rest with
    | [] => some 0
    | 'e' :: digits => readNumber? digits
    | 'E' :: digits => readNumber? digits
    | _ => none
  match power with
  | none => none
  | some power =>
    if whole.isEmpty && fraction.isEmpty then none
    else
      let n : Int := (digitsIn 10 (whole ++ fraction)).1
      let places := (fraction.length : Int) - power
      some ⟨(if negative then -n else n) * Nat.pow 10 (-places).toNat, places.toNat⟩

/-- a decimal in smaller units -/
def PlacedNumber.inPlaces (p : PlacedNumber) (places : Nat) : Int := p.units * Nat.pow 10 (places - p.places)

/-- the text of units with a point -/
def placedText (units : Int) (places : Nat) : Octets :=
  (if units < 0 then ['-'] else []) ++ Double.withPoint (Nat.toDigits 10 units.natAbs) places false

/-- a text of digits with zeros in front, after its sign -/
def widened (width : Nat) (o : Octets) : Octets :=
  match o with
  | '-' :: digits => '-' :: List.replicate (width - 1 - digits.length) '0' ++ digits
  | digits => List.replicate (width - digits.length) '0' ++ digits

/-- the arguments before the first number, and the others; a number may have a sign -/
def beforeNumbers (args : List Octets) : List Octets × List Octets :=
  let isOption (o : Octets) : Bool := match o with
    | '-' :: d :: _ => !(d.isDigit || d == '.')
    | _ => false
  match args with
  | [] => ([], [])
  | arg :: rest =>
    if isOption arg then
      let takes := [['-', 's'], ['-', 'f'], octets "--separator", octets "--format"].contains arg
      let (options, numbers) := beforeNumbers (if takes then rest.drop 1 else rest)
      (arg :: (if takes then rest.take 1 else []) ++ options, numbers)
    else ([], arg :: rest)
termination_by args.length
decreasing_by split <;> simp only [List.length_cons, List.length_drop] <;> omega

/-- what follows the first percent sign that does not stand for itself -/
def afterDirectives : Octets → Octets
  | '%' :: '%' :: rest => afterDirectives rest
  | '%' :: rest => rest
  | _ :: rest => afterDirectives rest
  | [] => []

/-- numbers in a row -/
def seq (c : Call) : Running UtilityRun := do
  let (before, numbers) := beforeNumbers c.args
  let (o, rest) ← { c with args := before }.parse
    { flags := "w", valued := "fs", wrong := 1, leading := true
      words := [("equal-width", 'w'), ("format", 'f'), ("separator", 's')] }
  let numbers := rest ++ numbers
  let numbers := if numbers.head? == some ['-', '-'] then numbers.drop 1 else numbers
  match numbers[3]? with
  | some extra => c.misuse 1 (octets "extra operand '" ++ extra ++ ['\''])
  | none => pure ()
  c.needOperand numbers "operand"
  let values ← numbers.mapM fun text => match placedNumber? text with
    | some p => pure p
    | none => c.misuse 1 (octets "invalid floating point argument: '" ++ text ++ ['\''])
  let one : PlacedNumber := ⟨1, 0⟩
  let (first, step, last) := match values with
    | [first, step, last] => (first, step, last)
    | [first, last] => (first, one, last)
    | values => (one, one, values.headD one)
  if step.units = 0 then
    c.misuse 1 (octets "invalid Zero increment value: '" ++ (numbers[1]?).getD [] ++ ['\''])
  let shown := max first.places step.places
  let places := max shown last.places
  let start := first.inPlaces places
  let stride := step.inPlaces places
  let count := ((last.inPlaces places - start) / stride + 1).toNat
  let scale : Int := (Nat.pow 10 (places - shown) : Nat)
  let texts := (List.range count).map fun (k : Nat) => placedText ((start + stride * k) / scale) shown
  let texts ← match o.value? 'f' with
    | some format => do
      let spec := afterDirectives format
      let letter := (spec.dropWhile fun d => "-+ #0123456789.'".toList.contains d).head?
      match letter with
      | some d =>
        if "aAeEfFgG".toList.contains d then pure (texts.map fun t => (printfText true format [t]).1)
        else c.refuse 1 (octets "format '" ++ format ++ octets "' has unknown %" ++ d :: octets " directive")
      | none => c.refuse 1 (octets "format '" ++ format ++ octets "' has no % directive")
    | none =>
      let lastShown := placedText (last.inPlaces places / scale) shown
      let width := (texts.map List.length ++ [lastShown.length]).foldl max 0
      pure (if o.has 'w' then texts.map (widened width) else texts)
  let between := (o.value? 's').getD ['\n']
  return c.done 0 (if texts.isEmpty then [] else joinWith between texts ++ ['\n'])

end ScriptBridge.Shell
