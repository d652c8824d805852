/-
Numbers at the start of a text, as shells and utilities read them. Blanks and a sign may stand in front. A whole number
is hexadecimal after `0x`, octal after another zero and decimal otherwise; a real number may have a fraction and an
exponent. What follows the number is left; a text that does not start with a number is left whole.
-/
import ScriptBridge.Number.Places
import ScriptBridge.Shell.Octets

namespace ScriptBridge.Shell

/-- whether a character is a blank -/
def isGap (c : Char) : Bool := c == ' ' || ('\t' ≤ c && c ≤ '\r')

/-- the value of a digit in bases up to sixteen -/
def digitOf? (base : Nat) (c : Char) : Option Nat :=
  let n :=
    if c.isDigit then c.toNat - 48
    else if 'a' ≤ c && c ≤ 'f' then c.toNat - 87
    else if 'A' ≤ c && c ≤ 'F' then c.toNat - 55
    else 16
  if n < base then some n else none

/-- the number that the digits at the start of a text are, and how many they are -/
def digitsIn (base : Nat) (o : Octets) : Nat × Nat :=
  let digits := o.takeWhile fun c => (digitOf? base c).isSome
  (digits.foldl (fun n c => n * base + (digitOf? base c).getD 0) 0, digits.length)

/-- the sign at the start of a text, and the rest -/
def signOf (o : Octets) : Bool × Octets :=
  match o with
  | '-' :: rest => (true, rest)
  | '+' :: rest => (false, rest)
  | rest => (false, rest)

/-- the whole number at the start of a text -/
def wholeNumeral (o : Octets) : Int × Octets :=
  let (negative, body) := signOf (o.dropWhile isGap)
  let signed (n : Nat) : Int := if negative then -(n : Int) else n
  let decimal : Int × Octets :=
    let (n, count) := digitsIn (if body.head? == some '0' then 8 else 10) body
    if count = 0 then (0, o) else (signed n, body.drop count)
  match body with
  | '0' :: x :: rest =>
    let (n, count) := digitsIn 16 rest
    if (x == 'x' || x == 'X') && 0 < count then (signed n, rest.drop count) else decimal
  | _ => decimal

/-- a whole number within bounds; `true` says that it was brought there -/
def bounded (low high n : Int) : Int × Bool :=
  if n < low then (low, true) else if high < n then (high, true) else (n, false)

/-- the bounds of signed numbers of 64 bits -/
def leastWord : Int := -9223372036854775808

def greatestWord : Int := 9223372036854775807

/-- whether a text starts with a word, whatever the case of its letters -/
def startsWith (word : String) (o : Octets) : Bool := (o.take word.length).map Char.toLower == word.toList

/-- the decimal number at the start of a text, without its sign -/
def decimalNumeral? (negative : Bool) (o : Octets) : Option (Extended × Octets) :=
  let whole := o.takeWhile Char.isDigit
  let rest := o.drop whole.length
  let fraction := match rest with
    | '.' :: more => more.takeWhile Char.isDigit
    | _ => []
  let rest := match rest with
    | '.' :: more => if whole.isEmpty && fraction.isEmpty then rest else more.drop fraction.length
    | _ => rest
  if whole.isEmpty && fraction.isEmpty then none
  else
    let (power, rest) := match rest with
      | e :: more =>
        let (minus, digits) := signOf more
        let (n, count) := digitsIn 10 digits
        if (e == 'e' || e == 'E') && 0 < count then ((if minus then -(n : Int) else n), digits.drop count)
        else (0, rest)
      | [] => (0, rest)
    let significand := (digitsIn 10 (whole ++ fraction)).1
    match Double.ofDecimal ⟨negative, significand, power - fraction.length⟩ with
    | some d => some (.finite d, rest)
    | none => some (.infinite negative, rest)

/-- the real number at the start of a text -/
def realNumeral (o : Octets) : Extended × Octets :=
  let (negative, body) := signOf (o.dropWhile isGap)
  if startsWith "infinity" body then (.infinite negative, body.drop 8)
  else if startsWith "inf" body then (.infinite negative, body.drop 3)
  else if startsWith "nan" body then (.notANumber, body.drop 3)
  else
    let hexadecimal : Option (Extended × Octets) := match body with
      | '0' :: x :: rest =>
        let (n, count) := digitsIn 16 rest
        if (x == 'x' || x == 'X') && 0 < count then
          (Double.ofRatio negative n 1).map fun d => (.finite d, rest.drop count)
        else none
      | _ => none
    match hexadecimal.orElse fun _ => decimalNumeral? negative body with
    | some found => found
    | none => (.finite (.zero false), o)

end ScriptBridge.Shell
