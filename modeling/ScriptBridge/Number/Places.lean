/-
Texts of numbers with a chosen number of digits: so many after the point, so many with an exponent, or so many in all
without the zeros at the end. The digits are those of the exact value, rounded to nearest and a tie to the even digit.
-/
import ScriptBridge.Number.Extended
import ScriptBridge.Number.Shortest

namespace ScriptBridge

/-- how the digits of a number are shown -/
inductive Places where
  | fixed
  | exponent
  | general
deriving DecidableEq, Repr

namespace Double

/-- the value in units of `10 ^ -places`, rounded -/
def inUnits (d : Double) (places : Int) : Nat :=
  let (num, den) := d.ratio
  roundDiv (num * Nat.pow 10 places.toNat) (den * Nat.pow 10 (-places).toNat)

/-- digits with a point before the last ones of them -/
def withPoint (digits : List Char) (places : Nat) (point : Bool) : List Char :=
  let digits := List.replicate (places + 1 - digits.length) '0' ++ digits
  let whole := digits.take (digits.length - places)
  if places = 0 && !point then whole else whole ++ '.' :: digits.drop whole.length

/-- the text with so many digits after the point, without a sign -/
def fixedText (d : Double) (places : Nat) (point : Bool) : List Char :=
  withPoint (Nat.toDigits 10 (d.inUnits places)) places point

/-- the digits of a value, one before the point and so many after it, with the exponent of ten -/
def leading (d : Double) (places : Nat) : Nat × Int :=
  if d.mantissa = 0 then (0, 0)
  else
    let exponent := decimalTop d.interval - 1
    let n := d.inUnits (places - exponent)
    if n < Nat.pow 10 (places + 1) then (n, exponent) else (n / 10, exponent + 1)

/-- an exponent with its sign and two digits at least -/
def exponentText (upper : Bool) (e : Int) : List Char :=
  let digits := Nat.toDigits 10 e.natAbs
  (if upper then 'E' else 'e') :: (if e < 0 then '-' else '+') ::
    (List.replicate (2 - digits.length) '0' ++ digits)

/-- a text without the zeros after its point, and without the point if nothing is left there -/
def withoutZeros (text : List Char) : List Char :=
  if !text.contains '.' then text
  else
    let kept := (text.reverse.dropWhile (· == '0')).reverse
    if kept.getLast? == some '.' then kept.dropLast else kept

/-- the text of a double without its sign -/
def placesText (d : Double) (how : Places) (count : Nat) (upper point : Bool) : List Char :=
  match how with
  | .fixed => d.fixedText count point
  | .exponent =>
    let (n, e) := d.leading count
    withPoint (Nat.toDigits 10 n) count point ++ exponentText upper e
  | .general =>
    let count := max count 1
    let (n, e) := d.leading (count - 1)
    let tidy (text : List Char) : List Char := if point then text else withoutZeros text
    if -4 ≤ e ∧ e < count then tidy (d.fixedText (count - 1 - e).toNat point)
    else tidy (withPoint (Nat.toDigits 10 n) (count - 1) point) ++ exponentText upper e

end Double

namespace Extended

/-- the text of a number without its sign -/
def placesText (x : Extended) (how : Places) (count : Nat) (upper point : Bool) : List Char :=
  match x with
  | finite d => d.placesText how count upper point
  | infinite _ => if upper then ['I', 'N', 'F'] else ['i', 'n', 'f']
  | notANumber => if upper then ['N', 'A', 'N'] else ['n', 'a', 'n']

end Extended

end ScriptBridge
