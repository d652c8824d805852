/-
Utilities about numbers: factors, amounts written with letters for large units, and simple checksums.
-/
import ScriptBridge.Shell.Utility

namespace ScriptBridge.Shell.Figures

/-! ## Factors -/

/-- the prime factors of a number that are no smaller than a given number, the least one first -/
def factorsFrom : Nat → Nat → Nat → List Nat
  | 0, _, n => if 1 < n then [n] else []
  | fuel + 1, d, n =>
    if n < d * d then (if 1 < n then [n] else [])
    else if n % d = 0 then d :: factorsFrom fuel d (n / d)
    else factorsFrom fuel (if d = 2 then 3 else d + 2) n

/-- shows the prime factors of numbers -/
def factor (c : Call) : Running UtilityRun := do
  let (o, names) ← c.parse
    { flags := "h", valued := "", wrong := 1, leading := false, words := [("exponents", 'h')] }
  let words := if names.isEmpty then
      (cutAt ' ' (c.input.map fun d => if d == '\n' || d == '\t' then ' ' else d)).filter fun w => !w.isEmpty
    else names
  let grouped (factors : List Nat) : List Octets :=
    if o.has 'h' then (factors.splitBy (· == ·)).map fun same =>
      number (same.headD 0) ++ (if same.length = 1 then [] else '^' :: number same.length)
    else factors.map fun (n : Nat) => number n
  let (out, err) := words.foldl (fun (acc : List Octets × Octets) word =>
    let digits := (word.dropWhile isGap).dropWhile (· == '+')
    if digits.isEmpty || !digits.all Char.isDigit then
      (acc.1, acc.2 ++ c.complaint (inQuotes word ++ octets " is not a valid positive integer"))
    else
      let n := (digitsIn 10 digits).1
      ((number n ++ ':' :: (grouped (factorsFrom 200000 2 n)).flatMap fun f => ' ' :: f) :: acc.1, acc.2)) ([], [])
  return { c.done (if err.isEmpty then 0 else 1) (ofLines out.reverse) with
    err, input := if names.isEmpty then [] else c.input }

/-! ## Units -/

/-- the letters of units, each so many times the one before -/
def unitLetters : List Char := "KMGTPEZYRQ".toList

/-- how amounts are written: without units, with units of a thousand, of 1024, or of 1024 with a mark -/
inductive Scale where
  | plain
  | thousands
  | binary
  | marked
  | either
deriving DecidableEq

/-- the scale of a name -/
def scaleOf? (o : Octets) : Option Scale :=
  match String.ofList o with
  | "none" => some .plain
  | "si" => some .thousands
  | "iec" => some .binary
  | "iec-i" => some .marked
  | "auto" => some .either
  | _ => none

/-- a fraction of whole numbers -/
structure Amount where
  negative : Bool
  numerator : Nat
  denominator : Nat

/-- how an amount is brought to a whole number -/
inductive Rounding where
  | up
  | down
  | fromZero
  | towardsZero
  | nearest
deriving DecidableEq

/-- the whole number that an amount is brought to -/
def Amount.rounded (a : Amount) (r : Rounding) : Nat :=
  let low := a.numerator / a.denominator
  let exact := a.numerator % a.denominator = 0
  let away := match r with
    | .up => !a.negative
    | .down => a.negative
    | .fromZero => true
    | .towardsZero => false
    | .nearest => a.denominator ≤ 2 * (a.numerator % a.denominator)
  if !exact && away then low + 1 else low

/-- why a text is no amount -/
inductive AmountFault where
  | invalid
  | suffix
  | needsScale
  | marked

/-- the amount that a text is -/
def readAmount (scale : Scale) (o : Octets) : Except AmountFault (Amount × Nat) :=
  let (negative, body) := match o with
    | '-' :: rest => (true, rest)
    | rest => (false, rest)
  let whole := body.takeWhile Char.isDigit
  let rest := body.drop whole.length
  let fraction := match rest with
    | '.' :: more => more.takeWhile Char.isDigit
    | _ => []
  let rest := if fraction.isEmpty then rest else rest.drop (fraction.length + 1)
  if whole.isEmpty then .error .invalid
  else
    let numerator := (digitsIn 10 (whole ++ fraction)).1
    let denominator := Nat.pow 10 fraction.length
    match rest with
    | [] => .ok (⟨negative, numerator, denominator⟩, fraction.length)
    | letter :: more =>
      match unitLetters.idxOf? (if letter == 'k' then 'K' else letter) with
      | none => .error .suffix
      | some power =>
        if scale == .plain then .error .needsScale
        else
          let hasMark := more == ['i']
          if !more.isEmpty && !(hasMark && (scale == .either || scale == .marked)) then .error .suffix
          else if scale == .marked && !hasMark then .error .marked
          else
            let base := if scale == .thousands || (scale == .either && !hasMark) then 1000 else 1024
            .ok (⟨negative, numerator * Nat.pow base (power + 1), denominator⟩, 0)

/-- digits with a point in front of the last ones -/
def withPoint (places n : Nat) : Octets :=
  let digits := number n
  let digits := List.replicate (places + 1 - digits.length) '0' ++ digits
  if places = 0 then digits else digits.take (digits.length - places) ++ '.' :: digits.drop (digits.length - places)

/-- an amount with a unit; a small number of units has one place unless it is said how many there are -/
def showAmount (scale : Scale) (rounding : Rounding) (places : Option Nat) (read : Nat) (a : Amount) : Octets :=
  let sign : Octets := if a.negative && a.numerator != 0 then ['-'] else []
  let scaled (p : Nat) (denominator : Nat) : Nat := Amount.rounded ⟨a.negative, a.numerator * Nat.pow 10 p, denominator⟩ rounding
  if scale == .plain then
    let p := places.getD read
    sign ++ withPoint p (scaled p a.denominator)
  else
    let base := if scale == .thousands then 1000 else 1024
    let rec choose : Nat → Nat → Nat × Nat
      | 0, power => (power, 0)
      | fuel + 1, power =>
        let denominator := a.denominator * Nat.pow base power
        let p := if power = 0 then places.getD 0 else places.getD (if a.numerator < 10 * denominator then 1 else 0)
        let n := scaled p denominator
        -- ten units and more are rounded to whole ones
        let (p, n) := if power != 0 && places.isNone && p = 1 && 100 ≤ n then (0, scaled 0 denominator) else (p, n)
        if n < base * Nat.pow 10 p then (power, p) else choose fuel (power + 1)
    let (power, p) := choose 12 0
    let n := scaled p (a.denominator * Nat.pow base power)
    let unit : Octets := if power = 0 then [] else (unitLetters[power - 1]?).toList ++ (if scale == .marked then ['i'] else [])
    sign ++ withPoint p n ++ unit

/-- writes amounts with units, or without them -/
def numfmt (c : Call) : Running UtilityRun := do
  let (o, operands) ← c.parse
    { flags := "z", valued := "d", wrong := 1, leading := false, optional := "fghHiprstuvxy"
      words := [("delimiter", 'd'), ("field", 'f'), ("format", 'p'), ("from", 'r'), ("from-unit", 'u'), ("grouping", 'g'),
        ("header", 'h'), ("invalid", 'i'), ("padding", 'x'), ("round", 'y'), ("suffix", 's'), ("to", 't'), ("to-unit", 'v'),
        ("zero-terminated", 'z')] }
  let scale (letter : Char) (name : String) : Running Scale :=
    match o.value? letter with
    | none => return .plain
    | some text => match scaleOf? text with
      | some s => return s
      | none => c.misuse 1 (octets "invalid argument " ++ inQuotes text ++ octets (" for '--" ++ name ++ "'"))
  let source ← scale 'r' "from"
  let goal ← scale 't' "to"
  let rounding : Rounding := match (o.value? 'y').map String.ofList with
    | some "up" => .up
    | some "down" => .down
    | some "towards-zero" => .towardsZero
    | some "nearest" => .nearest
    | _ => .fromZero
  let format := (o.value? 'p').getD (octets "%f")
  let lead := format.takeWhile (· != '%')
  let spec := format.drop (lead.length + 1)
  let flags := spec.takeWhile fun d => d == '0' || d == '-' || d == '\''
  let widthDigits := (spec.drop flags.length).takeWhile Char.isDigit
  let rest := spec.drop (flags.length + widthDigits.length)
  let places := match rest with
    | '.' :: more => some (digitsIn 10 (more.takeWhile Char.isDigit)).1
    | _ => none
  let tail := (rest.dropWhile (· != 'f')).drop 1
  let padding : Int := match o.value? 'x' with
    | some text => (readNumber? text).getD 0
    | none =>
      let n : Int := ((digitsIn 10 widthDigits).1 : Nat)
      if flags.contains '-' then -n else n
  let suffix := (o.value? 's').getD []
  let convert (word : Octets) : Except Octets Octets :=
    let bare := if !suffix.isEmpty && suffix.reverse.isPrefixOf word.reverse then word.take (word.length - suffix.length)
      else word
    match readAmount source bare with
    | .error .invalid => .error (octets "invalid number: " ++ inQuotes word)
    | .error .suffix => .error (octets "invalid suffix in input: " ++ inQuotes word)
    | .error .needsScale => .error (octets "rejecting suffix in input: " ++ inQuotes word ++ octets " (consider using --from)")
    | .error .marked => .error (octets "missing 'i' suffix in input: " ++ inQuotes word ++ octets " (e.g Ki/Mi/Gi)")
    | .ok (a, read) =>
      let unit (letter : Char) : Nat := ((o.value? letter).bind count?).getD 1
      let a : Amount := { a with numerator := a.numerator * unit 'u', denominator := a.denominator * unit 'v' }
      let shown := showAmount goal rounding places read a ++ suffix
      let width := padding.natAbs
      let shown := if padding < 0 then shown ++ List.replicate (width - shown.length) ' '
        else if flags.contains '0' then List.replicate (width - shown.length) '0' ++ shown
        else padLeft width shown
      .ok (lead ++ shown ++ tail)
  let fields := (o.value? 'f').getD ['1']
  let isWanted (n : Nat) : Bool := fields == ['-'] || (cutAt ',' fields).any fun part =>
    let low := part.takeWhile Char.isDigit
    let high := (part.drop low.length).drop 1
    if low.length == part.length then (digitsIn 10 low).1 == n
    else (low.isEmpty || (digitsIn 10 low).1 ≤ n) && (high.isEmpty || n ≤ (digitsIn 10 high).1)
  let line (l : Octets) : Except Octets Octets :=
    match o.value? 'd' with
    | some mark => do
      let mark := mark.headD ','
      let parts ← (cutAt mark l).zipIdx.mapM fun (part, k) => if isWanted (k + 1) then convert part else .ok part
      return joinWith [mark] parts
    | none =>
      let rec walk : Nat → Nat → Octets → Except Octets Octets
        | 0, _, _ => .ok []
        | fuel + 1, n, rest =>
          let gap := rest.takeWhile fun d => d == ' ' || d == '\t'
          let word := (rest.drop gap.length).takeWhile fun d => d != ' ' && d != '\t'
          if word.isEmpty then .ok gap
          else do
            let shown ← if isWanted n then convert word else .ok word
            let lead := if isWanted n && n == 1 && gap.length ≤ 1 then [] else if isWanted n && !gap.isEmpty && padding = 0 then
                padLeft (gap.length + word.length - shown.length) [] else gap
            let more ← walk fuel (n + 1) (rest.drop (gap.length + word.length))
            return (if n = 1 then gap else lead.take (max 1 lead.length)) ++ shown ++ more
      walk (l.length + 1) 1 l
  let headers := match o.value? 'h' with
    | some text => if text.isEmpty then 1 else (digitsIn 10 text).1
    | none => 0
  let words := if operands.isEmpty then lines c.input else operands
  let done : UtilityRun := { c.done 0 [] with input := if operands.isEmpty then [] else c.input }
  words.zipIdx.foldlM (fun (r : UtilityRun) (word, k) =>
    if operands.isEmpty && k < headers then return { r with out := r.out ++ word ++ ['\n'] }
    else match line word with
      | .ok shown => return { r with out := r.out ++ shown ++ ['\n'] }
      | .error message =>
        match (o.value? 'i').map String.ofList with
        | some "fail" => return { r with status := 2, err := r.err ++ c.complaint message, out := r.out ++ word ++ ['\n'] }
        | some "warn" => return { r with err := r.err ++ c.complaint message, out := r.out ++ word ++ ['\n'] }
        | some "ignore" => return { r with out := r.out ++ word ++ ['\n'] }
        | _ => .error { r with status := 2, err := r.err ++ c.complaint message }) done

/-! ## Simple checksums -/

/-- the checksum that turns its bits with each byte -/
def turningSum (o : Octets) : Nat :=
  o.foldl (fun n d => ((n / 2 + n % 2 * 32768) + d.toNat) % 65536) 0

/-- the checksum that adds up the bytes -/
def addingSum (o : Octets) : Nat :=
  let total := (o.foldl (fun n d => n + d.toNat) 0) % 4294967296
  let once := total % 65536 + total / 65536
  once % 65536 + once / 65536

/-- shows simple checksums with numbers of blocks -/
def sum (c : Call) : Running UtilityRun := do
  let (o, names) ← c.parse
    { flags := "rs", valued := "", wrong := 1, leading := false, words := [("sysv", 's')] }
  let adds := (o.last? "rs") == some 's'
  let g := c.gather names plainComplaint
  let row (part : Octets × Octets) : Octets :=
    let (name, text) := part
    let shown := if names.isEmpty then [] else ' ' :: name
    if adds then number (addingSum text) ++ ' ' :: number ((text.length + 511) / 512 : Nat) ++ shown ++ ['\n']
    else
      let digits := number (turningSum text)
      List.replicate (5 - digits.length) '0' ++ digits ++ ' ' :: padLeft 5 (number ((text.length + 1023) / 1024 : Nat))
        ++ shown ++ ['\n']
  return { c.finish g 1 (g.parts.flatMap row) with lead := g.leadOf fun parts => parts.flatMap row }

end ScriptBridge.Shell.Figures
