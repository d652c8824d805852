/-
Numbers, dates and times of TOML.

A number takes all characters that could belong to one and has to be well formed as a whole: digits with single
underscores between them, no zero in front, a sign only in front of decimal numbers, whole numbers within 64 bits. A
float too large for a double is refused, unless it is negative, which makes it minus infinity.

A date needs a day that its month has; a time follows it after a `T` or one blank, and only then an offset.
-/
import ScriptBridge.Toml.Text
import ScriptBridge.Toml.Value

namespace ScriptBridge.Toml

/-- the digits of a text in a base, where single underscores may stand between digits -/
def digitsWithBars? (base : Nat) (text : List Char) : Option (List Nat) :=
  let rec go (afterDigit : Bool) : List Char → Option (List Nat)
    | [] => if afterDigit then some [] else none
    | c :: rest =>
      if c = '_' then if afterDigit then go false rest else none
      else match digitValue? base c with
        | some d => (go true rest).map (d :: ·)
        | none => none
  go false text

/-- the number that digits denote -/
def valueIn (base : Nat) (digits : List Nat) : Nat := digits.foldl (fun n d => n * base + d) 0

/-- the digits of a decimal number without a zero in front -/
def wholeDigits? (text : List Char) : Option (List Nat) :=
  match text with
  | '0' :: _ :: _ => none
  | _ => digitsWithBars? 10 text

/-- a whole number of 64 bits, from `-2 ^ 63` up to `2 ^ 63 - 1` -/
def bounded (negative : Bool) (n : Nat) : Option Int :=
  if negative then if n ≤ 9223372036854775808 then some (-(n : Int)) else none
  else if n < 9223372036854775808 then some n else none

/-- sign and rest of a number -/
def takeSign : List Char → Bool × List Char
  | '-' :: rest => (true, rest)
  | '+' :: rest => (false, rest)
  | text => (false, text)

/-- a whole number -/
def integer? (text : List Char) : Option Int :=
  match text with
  | '0' :: 'x' :: rest => (digitsWithBars? 16 rest).bind fun ds => bounded false (valueIn 16 ds)
  | '0' :: 'o' :: rest => (digitsWithBars? 8 rest).bind fun ds => bounded false (valueIn 8 ds)
  | '0' :: 'b' :: rest => (digitsWithBars? 2 rest).bind fun ds => bounded false (valueIn 2 ds)
  | _ =>
    let (negative, rest) := takeSign text
    (wholeDigits? rest).bind fun ds => bounded negative (valueIn 10 ds)

/-- the parts of a text around the first character with a property; the second is `none` when there is no such
character -/
def cutAt (p : Char → Bool) (text : List Char) : List Char × Option (List Char) :=
  match text.dropWhile fun c => !p c with
  | [] => (text, none)
  | _ :: rest => (text.takeWhile fun c => !p c, some rest)

/-- a float -/
def float? (text : List Char) : Option Extended := do
  let (negative, body) := takeSign text
  if body = ['i', 'n', 'f'] then some (.infinite negative)
  else if body = ['n', 'a', 'n'] then some .notANumber
  else
    let (mantissa, power) := cutAt (fun c => c = 'e' || c = 'E') body
    let (whole, fraction) := cutAt (· == '.') mantissa
    if fraction.isNone && power.isNone then none
    else
      let wholeDigits ← wholeDigits? whole
      let fractionDigits ← match fraction with
        | some f => digitsWithBars? 10 f
        | none => some []
      let exponent : Int ← match power with
        | some p => do
          let (minus, digits) := takeSign p
          let n : Nat := valueIn 10 (← digitsWithBars? 10 digits)
          some (if minus then -(n : Int) else n)
        | none => some 0
      let significand := valueIn 10 (wholeDigits ++ fractionDigits)
      match Double.ofDecimal ⟨negative, significand, exponent - fractionDigits.length⟩ with
      | some d => some (.finite d)
      | none => if negative then some (.infinite true) else none

/-- a character that may belong to a number -/
def isNumberChar (c : Char) : Bool := c.isAlphanum || c = '_' || c = '+' || c = '-' || c = '.'

/-- a number -/
def readNumber (text : List Char) : Option (Toml × List Char) :=
  let token := text.takeWhile isNumberChar
  let rest := text.dropWhile isNumberChar
  match integer? token with
  | some n => some (.integer n, rest)
  | none => (float? token).map fun f => (.float f, rest)

/-- a number of exactly so many decimal digits within bounds -/
def readFixed (width low high : Nat) (text : List Char) : Option (Nat × List Char) := do
  let digits ← (text.take width).mapM (digitValue? 10)
  let n := valueIn 10 digits
  if digits.length = width ∧ low ≤ n ∧ n ≤ high then some (n, text.drop width) else none

/-- what follows a character -/
def after? (c : Char) : List Char → Option (List Char)
  | d :: rest => if c = d then some rest else none
  | [] => none

/-- number of days of a month -/
def daysIn (year month : Nat) : Nat :=
  if month = 2 then if year % 4 = 0 ∧ (year % 100 ≠ 0 ∨ year % 400 = 0) then 29 else 28
  else if month = 4 ∨ month = 6 ∨ month = 9 ∨ month = 11 then 30
  else 31

/-- a date -/
def readDate (text : List Char) : Option (TomlDate × List Char) := do
  let (year, rest) ← readFixed 4 0 9999 text
  let (month, rest) ← readFixed 2 1 12 (← after? '-' rest)
  let (day, rest) ← readFixed 2 1 (daysIn year month) (← after? '-' rest)
  return (⟨year, month, day⟩, rest)

/-- the fraction of a second in nanoseconds; further digits are dropped -/
def readFraction (text : List Char) : Option (Nat × List Char) :=
  match text with
  | '.' :: rest =>
    let digits := rest.takeWhile Char.isDigit
    if digits.isEmpty then none
    else
      let kept := digits.take 9
      let n := kept.foldl (fun n c => n * 10 + (c.toNat - 48)) 0
      some (n * Nat.pow 10 (9 - kept.length), rest.drop digits.length)
  | _ => some (0, text)

/-- a time of day -/
def readTime (text : List Char) : Option (TomlTime × List Char) := do
  let (hour, rest) ← readFixed 2 0 23 text
  let (minute, rest) ← readFixed 2 0 59 (← after? ':' rest)
  let (second, rest) ← readFixed 2 0 60 (← after? ':' rest)
  let (nanosecond, rest) ← readFraction rest
  return (⟨hour, minute, second, nanosecond⟩, rest)

/-- an offset, if one follows -/
def readOffset (text : List Char) : Option (Option TomlOffset × List Char) :=
  match text with
  | [] => some (none, text)
  | c :: rest =>
    if c = 'Z' ∨ c = 'z' then some (some .universal, rest)
    else if c = '+' ∨ c = '-' then do
      let (hour, rest) ← readFixed 2 0 23 rest
      let (minute, rest) ← readFixed 2 0 59 (← after? ':' rest)
      let minutes : Int := hour * 60 + minute
      return (some (.minutes (if c = '-' then -minutes else minutes)), rest)
    else some (none, text)

/-- a date with the time that may follow it -/
def readDateTime (text : List Char) : Option (TomlMoment × List Char) := do
  let (date, rest) ← readDate text
  let alone : Option (TomlMoment × List Char) := some (⟨some date, none, none⟩, rest)
  match rest with
  | c :: more =>
    if c = 'T' ∨ c = 't' ∨ c = ' ' then
      match readTime more with
      | some (time, more) =>
        let (offset, more) ← readOffset more
        return (⟨some date, some time, offset⟩, more)
      | none => alone
    else alone
  | [] => alone

/-- whether a text starts like a date: four digits and a dash -/
def startsDate (text : List Char) : Bool :=
  (text.take 4).length = 4 && (text.take 4).all Char.isDigit && text[4]? == some '-'

/-- whether a text starts like a time: two digits and a colon -/
def startsTime (text : List Char) : Bool :=
  (text.take 2).length = 2 && (text.take 2).all Char.isDigit && text[2]? == some ':'

/-- a number, a date or a time -/
def readScalar (text : List Char) : Option (Toml × List Char) :=
  if startsDate text then (readDateTime text).map fun (m, rest) => (.moment m, rest)
  else if startsTime text then (readTime text).map fun (t, rest) => (.moment ⟨none, some t, none⟩, rest)
  else readNumber text

end ScriptBridge.Toml
