/-
JSON text read as values. Each reader takes the rest of a text and gives what it read with what follows; `none` says
that the text is not JSON.

The readers of values call each other on a shorter rest; the number of nested calls is bounded by the length of the
text, and `parse?` starts with that bound.

Digits without a point or an exponent are a whole number when it fits 64 bits, signed or unsigned; a negative zero and
everything else is a double. A double is read in two roundings: the leading digits that fit 64 bits make a double, and
that is multiplied or divided by the double nearest to a power of ten, in steps of at most `10 ^ 308`.
-/
import ScriptBridge.Json.Value

/-! ## The digits of a number -/

namespace ScriptBridge.JsonNumber

/-- the digits of a number as it is written -/
structure Written where
  negative : Bool
  whole : List Nat
  fraction : List Nat
  exponent : Int
  /-- written with a point or an exponent -/
  inexact : Bool

/-- the largest whole number of 64 bits, `2 ^ 64 - 1` -/
def maxWord : Nat := 18446744073709551615

/-- adds digits to a number while it fits 64 bits; the rest are the digits that did not fit -/
def addDigits (n : Nat) : List Nat → Nat × List Nat
  | [] => (n, [])
  | d :: rest => if n * 10 + d ≤ maxWord then addDigits (n * 10 + d) rest else (n, d :: rest)

/-- the double nearest to a power of ten up to `10 ^ 308` -/
def powerOfTen (n : Nat) : Option Double := Double.ofNat (Nat.pow 10 n)

/-- divides a double by a power of ten, in steps of `10 ^ 308`; twice is enough to reach zero -/
def scaleDown : Nat → Double → Nat → Option Double
  | 0, d, _ => some (Double.zero d.negative)
  | steps + 1, d, n =>
    if d.mantissa = 0 then some d
    else if n ≤ 308 then (powerOfTen n).bind d.div
    else (powerOfTen 308).bind fun p => (d.div p).bind fun q => scaleDown steps q (n - 308)

/-- a double times a power of ten; `none` when it is too large -/
def scale (d : Double) (exponent : Int) : Option Double :=
  if d.mantissa = 0 then some d
  else if exponent < 0 then scaleDown 4 d exponent.natAbs
  else if exponent ≤ 308 then (powerOfTen exponent.toNat).bind d.mul
  else none

/-- the value of a written number; `none` when it is too large for a double. A negative number down to `-2 ^ 63` stays
whole. -/
def ofWritten (w : Written) : Option JsonNumber :=
  let (n, dropped) := addDigits 0 w.whole
  if !w.inexact && dropped.isEmpty && !(w.negative && (n = 0 || 9223372036854775808 < n)) then
    some (.int (if w.negative then -(n : Int) else n))
  else
    let (m, ignored) := addDigits n w.fraction
    let exponent : Int := w.exponent + dropped.length - (w.fraction.length - ignored.length : Nat)
    let value := (Double.ofNat m).bind fun d => scale d exponent
    value.map fun d => .double (if w.negative then d.neg else d)

end ScriptBridge.JsonNumber

/-! ## Values -/

namespace ScriptBridge.Json

/-- the value of a hexadecimal digit -/
def hexDigit? (c : Char) : Option Nat :=
  if '0' ≤ c ∧ c ≤ '9' then some (c.toNat - 48)
  else if 'a' ≤ c ∧ c ≤ 'f' then some (c.toNat - 87)
  else if 'A' ≤ c ∧ c ≤ 'F' then some (c.toNat - 55)
  else none

/-- the value of four hexadecimal digits -/
def hex4? (a b c d : Char) : Option Nat := do
  return (((← hexDigit? a) * 16 + (← hexDigit? b)) * 16 + (← hexDigit? c)) * 16 + (← hexDigit? d)

/-- the character of an escape of one letter -/
def shortEscape? (c : Char) : Option Char :=
  match c with
  | '"' => some '"'
  | '\\' => some '\\'
  | '/' => some '/'
  | 'b' => some (Char.ofNat 8)
  | 'f' => some (Char.ofNat 12)
  | 'n' => some '\n'
  | 'r' => some '\r'
  | 't' => some '\t'
  | _ => none

/-- the rest of a string after its opening quote. Two escaped surrogates make one character; one alone is refused. -/
def readString (read : List Char) : List Char → Option (String × List Char)
  | [] => none
  | '"' :: rest => some (String.ofList read.reverse, rest)
  | '\\' :: 'u' :: a :: b :: c :: d :: '\\' :: 'u' :: e :: f :: g :: h :: rest =>
    match hex4? a b c d, hex4? e f g h with
    | some high, some low =>
      if 0xD800 ≤ high ∧ high < 0xDC00 then
        if 0xDC00 ≤ low ∧ low < 0xE000 then
          readString (Char.ofNat (0x10000 + (high - 0xD800) * 0x400 + (low - 0xDC00)) :: read) rest
        else none
      else if 0xDC00 ≤ high ∧ high < 0xE000 then none
      else readString (Char.ofNat high :: read) ('\\' :: 'u' :: e :: f :: g :: h :: rest)
    | _, _ => none
  | '\\' :: 'u' :: a :: b :: c :: d :: rest =>
    match hex4? a b c d with
    | some n => if 0xD800 ≤ n ∧ n < 0xE000 then none else readString (Char.ofNat n :: read) rest
    | none => none
  | '\\' :: c :: rest =>
    match shortEscape? c with
    | some e => readString (e :: read) rest
    | none => none
  | c :: rest => if c.toNat < 0x20 then none else readString (c :: read) rest
termination_by text => text.length

/-- the digits at the start of a text -/
def digits (text : List Char) : List Nat × List Char :=
  ((text.takeWhile Char.isDigit).map fun c => c.toNat - 48, text.dropWhile Char.isDigit)

/-- a number -/
def readNumber (text : List Char) : Option (JsonNumber × List Char) :=
  let (negative, text) := match text with
    | '-' :: rest => (true, rest)
    | _ => (false, text)
  let (whole, text) := digits text
  let (fraction, hasPoint, text) := match text with
    | '.' :: rest => ((digits rest).1, true, (digits rest).2)
    | _ => ([], false, text)
  let (power, text) : Option Int × List Char := match text with
    | c :: rest =>
      if c = 'e' ∨ c = 'E' then
        let (minus, rest) := match rest with
          | '-' :: rest => (true, rest)
          | '+' :: rest => (false, rest)
          | _ => (false, rest)
        let (ds, rest) := digits rest
        let n : Nat := ds.foldl (fun n d => n * 10 + d) 0
        if ds.isEmpty then (none, c :: rest) else (some (if minus then -(n : Int) else n), rest)
      else (none, text)
    | [] => (none, text)
  let wellFormed := !whole.isEmpty && (whole.length == 1 || whole.head? != some 0) && !(hasPoint && fraction.isEmpty)
  if wellFormed then
    (JsonNumber.ofWritten ⟨negative, whole, fraction, power.getD 0, hasPoint || power.isSome⟩).map fun n => (n, text)
  else none

/-- a text without the white space of JSON at its start -/
def skipSpace (text : List Char) : List Char :=
  text.dropWhile fun c => c = ' ' || c = '\n' || c = '\t' || c = '\r'

mutual

/-- a value, after white space -/
def readValue : Nat → List Char → Option (Json × List Char)
  | 0, _ => none
  | fuel + 1, text =>
    match skipSpace text with
    | 'n' :: 'u' :: 'l' :: 'l' :: rest => some (.null, rest)
    | 't' :: 'r' :: 'u' :: 'e' :: rest => some (.bool true, rest)
    | 'f' :: 'a' :: 'l' :: 's' :: 'e' :: rest => some (.bool false, rest)
    | '"' :: rest => (readString [] rest).map fun (s, rest) => (.string s, rest)
    | '[' :: rest =>
      match skipSpace rest with
      | ']' :: rest => some (.array [], rest)
      | _ => readItems fuel [] rest
    | '\x7b' :: rest =>
      match skipSpace rest with
      | '\x7d' :: rest => some (.object [], rest)
      | _ => readFields fuel [] rest
    | rest => (readNumber rest).map fun (n, rest) => (.number n, rest)

/-- the items of an array, up to its end -/
def readItems : Nat → List Json → List Char → Option (Json × List Char)
  | 0, _, _ => none
  | fuel + 1, read, text =>
    match readValue fuel text with
    | none => none
    | some (item, rest) =>
      match skipSpace rest with
      | ',' :: rest => readItems fuel (item :: read) rest
      | ']' :: rest => some (.array (item :: read).reverse, rest)
      | _ => none

/-- the fields of an object, up to its end; of two fields with one key the later one counts -/
def readFields : Nat → List (String × Json) → List Char → Option (Json × List Char)
  | 0, _, _ => none
  | fuel + 1, read, text =>
    match skipSpace text with
    | '"' :: rest =>
      match readString [] rest with
      | none => none
      | some (key, rest) =>
        match skipSpace rest with
        | ':' :: rest =>
          match readValue fuel rest with
          | none => none
          | some (value, rest) =>
            match skipSpace rest with
            | ',' :: rest => readFields fuel (putField key value read) rest
            | '\x7d' :: rest => some (.object (putField key value read), rest)
            | _ => none
        | _ => none
    | _ => none

end

/-- the value that a whole text is -/
def parse? (text : String) : Option Json :=
  let chars := text.toList
  match readValue (2 * chars.length + 2) chars with
  | some (value, rest) => if (skipSpace rest).isEmpty then some value else none
  | none => none

end ScriptBridge.Json
