/-
Arithmetic of doubles with infinities. Sums, products, quotients, remainders and whole powers are the exact value
rounded once; roots are rounded from exact ones, and the other functions are those of the machine's own doubles, to and
from whose bits `toFloat` and `ofFloat` lead.
-/
import ScriptBridge.Number.Double

namespace ScriptBridge.Extended

/-- zero -/
def zero : Extended := .finite (.zero false)

/-- the number nearest to a quotient; what is too large is infinite. `negative` is the sign of a zero. -/
def ofQuotient (negative : Bool) (num den : Nat) : Extended :=
  match Double.ofRatio negative num den with
  | some d => .finite d
  | none => .infinite negative

/-- the number nearest to a whole number -/
def ofInt (n : Int) : Extended := ofQuotient (n < 0) n.natAbs 1

/-- whether a number has a minus sign -/
def isNegative : Extended → Bool
  | .finite d => d.negative
  | .infinite n => n
  | .notANumber => false

/-- whether a number is zero -/
def isZero : Extended → Bool
  | .finite d => d.mantissa = 0
  | _ => false

/-- the number of the other sign -/
def neg : Extended → Extended
  | .finite d => .finite d.neg
  | .infinite n => .infinite !n
  | .notANumber => .notANumber

/-- a double as a signed quotient -/
def signedRatio (d : Double) : Int × Nat :=
  let (num, den) := d.ratio
  (if d.negative then -(num : Int) else num, den)

/-- the sum -/
def add : Extended → Extended → Extended
  | .finite a, .finite b =>
    let (n, d) := signedRatio a
    let (m, e) := signedRatio b
    let sum := n * e + m * d
    ofQuotient (if sum = 0 then a.negative && b.negative else sum < 0) sum.natAbs (d * e)
  | .infinite a, .infinite b => if a = b then .infinite a else .notANumber
  | .infinite a, .finite _ => .infinite a
  | .finite _, .infinite b => .infinite b
  | _, _ => .notANumber

/-- the difference -/
def sub (a b : Extended) : Extended := a.add b.neg

/-- the product -/
def mul : Extended → Extended → Extended
  | .finite a, .finite b =>
    ofQuotient (a.negative != b.negative) (a.ratio.1 * b.ratio.1) (a.ratio.2 * b.ratio.2)
  | .notANumber, _ => .notANumber
  | _, .notANumber => .notANumber
  | a, b => if a.isZero || b.isZero then .notANumber else .infinite (a.isNegative != b.isNegative)

/-- the quotient; a quotient by zero is infinite -/
def div : Extended → Extended → Extended
  | .finite a, .finite b =>
    let negative := a.negative != b.negative
    if b.mantissa = 0 then if a.mantissa = 0 then .notANumber else .infinite negative
    else ofQuotient negative (a.ratio.1 * b.ratio.2) (a.ratio.2 * b.ratio.1)
  | .infinite a, .finite b => .infinite (a != b.negative)
  | .finite a, .infinite b => .finite (.zero (a.negative != b))
  | _, _ => .notANumber

/-- the remainder of the division whose quotient is rounded towards zero -/
def rem : Extended → Extended → Extended
  | .finite a, .finite b =>
    if b.mantissa = 0 then .notANumber
    else ofQuotient a.negative (a.ratio.1 * b.ratio.2 % (b.ratio.1 * a.ratio.2)) (a.ratio.2 * b.ratio.2)
  | .finite a, .infinite _ => .finite a
  | _, _ => .notANumber

/-- the whole part -/
def truncate : Extended → Extended
  | .finite a => ofQuotient a.negative (a.ratio.1 / a.ratio.2) 1
  | x => x

/-- the whole number that a number is rounded to towards zero; `none` where there is no such -/
def toInt? : Extended → Option Int
  | .finite a =>
    let n := a.ratio.1 / a.ratio.2
    some (if a.negative then -(n : Int) else n)
  | _ => none

/-- the whole number that a number is, if it is one -/
def exactInt? (x : Extended) : Option Int :=
  match x with
  | .finite a => if a.ratio.1 % a.ratio.2 = 0 then x.toInt? else none
  | _ => none

/-- the order of two numbers; `none` where one is not a number -/
def order? : Extended → Extended → Option Ordering
  | .finite a, .finite b =>
    let (n, d) := signedRatio a
    let (m, e) := signedRatio b
    some (compare (n * e) (m * d))
  | .infinite a, .infinite b => some (if a = b then .eq else if a then .lt else .gt)
  | .infinite a, .finite _ => some (if a then .lt else .gt)
  | .finite _, .infinite b => some (if b then .gt else .lt)
  | _, _ => none

/-! ## The machine's doubles -/

/-- the machine's double of a number -/
def toFloat : Extended → Float
  | .finite d =>
    let bits := if d.mantissa < 4503599627370496 then d.mantissa
      else (d.exponent + 1075).toNat * 4503599627370496 + (d.mantissa - 4503599627370496)
    Float.ofBits (UInt64.ofNat (bits + if d.negative then 9223372036854775808 else 0))
  | .infinite n => Float.ofBits (UInt64.ofNat (9218868437227405312 + if n then 9223372036854775808 else 0))
  | .notANumber => Float.ofBits (UInt64.ofNat 9221120237041090560)

/-- the number of a machine's double -/
def ofFloat (x : Float) : Extended :=
  let bits := x.toBits.toNat
  let negative : Bool := 9223372036854775808 ≤ bits
  let exponent := bits / 4503599627370496 % 2048
  let fraction := bits % 4503599627370496
  if exponent = 2047 then if fraction = 0 then .infinite negative else .notANumber
  else if exponent = 0 then .finite ⟨negative, fraction, Double.minExponent⟩
  else .finite ⟨negative, fraction + 4503599627370496, (exponent : Int) - 1075⟩

/-- the root. Digits are added until the root of a whole number has enough of them to be rounded; a last digit stands
for what is cut off. -/
def root : Extended → Extended
  | .finite a =>
    if a.mantissa = 0 then .finite a
    else if a.negative then .notANumber
    else
      let (num, den) := a.ratio
      let scale := Nat.pow 4 (60 + den.log2)
      let n := num * scale / den
      let r := Nat.sqrt n
      let sticky := if r * r = n && num * scale % den = 0 then 0 else 1
      ofQuotient false (2 * r + sticky) (2 * Nat.pow 2 (60 + den.log2))
  | .infinite false => .infinite false
  | _ => .notANumber

/-- a power. Powers of whole exponents that are not too large are exact before they are rounded. -/
def pow (x y : Extended) : Extended :=
  match x, y.exactInt? with
  | .finite a, some n =>
    if n.natAbs ≤ 2000 then
      let negative := a.negative && n % 2 = 1
      let (num, den) := (Nat.pow a.ratio.1 n.natAbs, Nat.pow a.ratio.2 n.natAbs)
      if 0 ≤ n then ofQuotient negative num den
      else if num = 0 then .infinite negative
      else ofQuotient negative den num
    else ofFloat (Float.pow x.toFloat y.toFloat)
  | _, _ => ofFloat (Float.pow x.toFloat y.toFloat)

end ScriptBridge.Extended
