/-
Finite double-precision numbers, kept as the exact value they denote: a sign, a whole mantissa and a power of two.

`ofRatio` rounds a quotient of naturals to the nearest double, a tie to the even mantissa; every other way to make a
double (from a natural, a product, a quotient, a decimal) is that rounding of an exact value. A value too large for
every double has none.
-/

namespace ScriptBridge

/-- a finite double: the sign times `mantissa · 2 ^ exponent`, with the mantissa below `2 ^ 53` -/
structure Double where
  negative : Bool
  mantissa : Nat
  exponent : Int
deriving DecidableEq, Repr, Inhabited

namespace Double

/-- the least exponent of a double -/
def minExponent : Int := -1074

/-- the largest exponent of a finite double -/
def maxExponent : Int := 971

/-- zero of either sign -/
def zero (negative : Bool) : Double := ⟨negative, 0, minExponent⟩

/-- a quotient rounded to the nearest natural, a tie to the even one -/
def roundDiv (num den : Nat) : Nat :=
  let q := num / den
  let r := num % den
  if den < 2 * r ∨ (den = 2 * r ∧ q % 2 = 1) then q + 1 else q

/-- a quotient in units of `2 ^ e`, rounded to the nearest natural -/
def roundScaled (num den : Nat) (e : Int) : Nat :=
  if 0 ≤ e then roundDiv num (den * Nat.pow 2 e.toNat) else roundDiv (num * Nat.pow 2 (-e).toNat) den

/-- whether a positive quotient is at least `2 ^ e` -/
def reaches (num den : Nat) (e : Int) : Bool :=
  if 0 ≤ e then den * Nat.pow 2 e.toNat ≤ num else den ≤ num * Nat.pow 2 (-e).toNat

/-- the exponent of the highest binary digit of a positive quotient -/
def topBit (num den : Nat) : Int :=
  let guess : Int := num.log2 - den.log2
  if reaches num den guess then guess else guess - 1

/-- the double nearest to a quotient; `none` when it is too large for every double. A mantissa rounded up to `2 ^ 53`
is halved. -/
def ofRatio (negative : Bool) (num den : Nat) : Option Double :=
  if num = 0 ∨ den = 0 then some (zero negative)
  else
    let e := max (topBit num den - 52) minExponent
    let m := roundScaled num den e
    let (m, e) := if m = 9007199254740992 then (4503599627370496, e + 1) else (m, e)
    if maxExponent < e then none else some ⟨negative, m, e⟩

/-- the value as a quotient of naturals, without its sign -/
def ratio (d : Double) : Nat × Nat :=
  if 0 ≤ d.exponent then (d.mantissa * Nat.pow 2 d.exponent.toNat, 1) else (d.mantissa, Nat.pow 2 (-d.exponent).toNat)

/-- the double nearest to a natural -/
def ofNat (n : Nat) : Option Double := ofRatio false n 1

/-- the double nearest to a product -/
def mul (a b : Double) : Option Double :=
  ofRatio (a.negative != b.negative) (a.ratio.1 * b.ratio.1) (a.ratio.2 * b.ratio.2)

/-- the double nearest to a quotient -/
def div (a b : Double) : Option Double :=
  ofRatio (a.negative != b.negative) (a.ratio.1 * b.ratio.2) (a.ratio.2 * b.ratio.1)

/-- the double of the other sign -/
def neg (d : Double) : Double := { d with negative := !d.negative }

/-- digits a number is written with: `significand · 10 ^ exponent` -/
structure Decimal where
  negative : Bool
  significand : Nat
  exponent : Int
deriving DecidableEq, Repr

/-- the double nearest to a decimal. Far outside the range of doubles the powers of ten are not computed. -/
def ofDecimal (d : Decimal) : Option Double :=
  let digits : Int := (Nat.toDigits 10 d.significand).length
  if d.significand = 0 then some (zero d.negative)
  else if 400 < d.exponent + digits then none
  else if d.exponent + digits < -400 then some (zero d.negative)
  else if 0 ≤ d.exponent then ofRatio d.negative (d.significand * Nat.pow 10 d.exponent.toNat) 1
  else ofRatio d.negative d.significand (Nat.pow 10 (-d.exponent).toNat)

/-- the natural number that a double is, if it is one: no sign (zero apart) and no fraction -/
def toNat? (d : Double) : Option Nat :=
  let (num, den) := d.ratio
  if d.negative ∧ num ≠ 0 then none
  else if num % den = 0 then some (num / den) else none

end Double

/-- a double, an infinity, or not a number -/
inductive Extended where
  | finite (d : Double)
  | infinite (negative : Bool)
  | notANumber
deriving DecidableEq, Repr, Inhabited

end ScriptBridge
