/-
The shortest decimal text of a double. Of the decimals that read back as the double, those with the fewest digits are
taken, and of these the nearest one; a tie goes to the even last digit.

Which decimals read back is decided in whole numbers: a double `m · 2 ^ q` is read from every number between the
midpoints to its two neighbours, the midpoints included when `m` is even. `candidate?` tries one grid of decimals,
`shortest` the grids of 1, 2, … digits.
-/
import ScriptBridge.Number.Double

namespace ScriptBridge.Double

/-- the numbers that round to a double, as quotients over one denominator: lower end, the double itself, upper end -/
structure Interval where
  low : Nat
  value : Nat
  high : Nat
  den : Nat
  closed : Bool

/-- the interval of a positive double. Below a power of two the neighbour is half as far away. -/
def interval (d : Double) : Interval :=
  let lowGap := if d.mantissa = 4503599627370496 ∧ minExponent < d.exponent then 1 else 2
  let up := Nat.pow 2 d.exponent.toNat
  let down := Nat.pow 2 (-d.exponent).toNat
  { low := (4 * d.mantissa - lowGap) * up
    value := 4 * d.mantissa * up
    high := (4 * d.mantissa + 2) * up
    den := 4 * down
    closed := d.mantissa % 2 = 0 }

/-- whether `n · 10 ^ k` rounds to the double of the interval -/
def Interval.contains (i : Interval) (n : Nat) (k : Int) : Bool :=
  let num := n * Nat.pow 10 k.toNat * i.den
  let unit := Nat.pow 10 (-k).toNat
  if i.closed then i.low * unit ≤ num && num ≤ i.high * unit else i.low * unit < num && num < i.high * unit

/-- the decimal nearest to the value on the grid of multiples of `10 ^ k`, if it reads back -/
def Interval.candidate? (i : Interval) (k : Int) : Option Nat :=
  let num := i.value * Nat.pow 10 (-k).toNat
  let den := i.den * Nat.pow 10 k.toNat
  let below := num / den
  let nearest := roundDiv num den
  let other := if nearest = below then below + 1 else below
  if i.contains nearest k then some nearest
  else if i.contains other k then some other
  else none

/-- number of decimal digits before the point of a positive quotient, zero or less below one tenth: the `k` with
`10 ^ (k - 1) ≤ value < 10 ^ k`, found from an estimate that is at most one too large -/
def decimalTop (i : Interval) : Int :=
  let bits : Int := topBit i.value i.den
  let guess : Int := (bits + 1) * 30103 / 100000 + 1
  let reached (k : Int) : Bool := i.den * Nat.pow 10 k.toNat ≤ i.value * Nat.pow 10 (-k).toNat
  if reached (guess - 1) then guess else if reached (guess - 2) then guess - 1 else guess - 2

/-- tries grids with more and more digits -/
def shortestFrom (i : Interval) (top : Int) : Nat → Nat → Nat × Int
  | 0, digits => (i.value / i.den, top - digits)
  | tries + 1, digits =>
    match i.candidate? (top - digits) with
    | some n => (n, top - digits)
    | none => shortestFrom i top tries (digits + 1)

/-- removes the zeros at the end of a significand -/
def dropZeros : Nat → Nat → Int → Nat × Int
  | 0, n, k => (n, k)
  | fuel + 1, n, k => if n % 10 = 0 ∧ n ≠ 0 then dropZeros fuel (n / 10) (k + 1) else (n, k)

/-- digits and exponent of ten of the shortest decimal of a positive double; seventeen digits always suffice -/
def shortest (d : Double) : Nat × Int :=
  let i := d.interval
  let (n, k) := shortestFrom i (decimalTop i) 17 1
  dropZeros 20 n k

/-- the text of a double: positional from `10 ^ -5` up to `10 ^ 16`, always with a point there, and with an exponent and
its sign outside -/
def text (d : Double) : String :=
  let sign := if d.negative then "-" else ""
  if d.mantissa = 0 then sign ++ "0.0"
  else
    let (n, k) := d.shortest
    let digits := Nat.toDigits 10 n
    let length : Int := digits.length
    let point := length + k
    let body :=
      if 0 ≤ k ∧ point ≤ 16 then
        String.ofList digits ++ String.ofList (List.replicate k.toNat '0') ++ ".0"
      else if 0 < point ∧ point ≤ 16 then
        String.ofList (digits.take point.toNat) ++ "." ++ String.ofList (digits.drop point.toNat)
      else if -5 < point ∧ point ≤ 0 then
        "0." ++ String.ofList (List.replicate (-point).toNat '0') ++ String.ofList digits
      else
        let tail := if digits.length = 1 then "" else "." ++ String.ofList (digits.drop 1)
        String.ofList (digits.take 1) ++ tail ++ "e" ++ (if 0 < point then "+" else "") ++ toString (point - 1)
    sign ++ body

end ScriptBridge.Double
