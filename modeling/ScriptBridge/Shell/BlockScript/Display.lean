/-
Texts of values: as they are written in a program, and in a form that is asked for. A form says how a value fills its
field, and how the digits of a number are shown.
-/
import ScriptBridge.Number.Places
import ScriptBridge.Shell.BlockScript.Value

namespace ScriptBridge.Shell.BlockScript

/-! ## As in a program -/

/-- so many digits in hexadecimal -/
def hexDigits (size n : Nat) : Characters :=
  let digits := Nat.toDigits 16 n
  List.replicate (size - digits.length) '0' ++ digits

/-- whether a character is shown as it is -/
def isShown (c : Char) : Bool :=
  let n := c.toNat
  if n < 128 then 32 ≤ n && n < 127
  else !(n < 0xA1 || n = 0xAD || (Text.isBlank c) || (0x200B ≤ n && n ≤ 0x200F) || (0x2028 ≤ n && n ≤ 0x202E)
    || (0x2060 ≤ n && n ≤ 0x206F) || (0xE000 ≤ n && n ≤ 0xF8FF) || n = 0xFEFF || 0xE0000 ≤ n)

/-- the quote for a text: a single one, unless only those occur in it -/
def quoteFor (o : Characters) : Char := if o.contains '\'' && !o.contains '"' then '"' else '\''

/-- a text as it is written in a program; `ascii` says that only characters of ASCII are shown -/
def textRepr (ascii : Bool) (o : Characters) : Characters :=
  let q := quoteFor o
  q :: o.flatMap (fun c =>
    let n := c.toNat
    if c == q || c == '\\' then ['\\', c]
    else if c == '\n' then ['\\', 'n']
    else if c == '\r' then ['\\', 'r']
    else if c == '\t' then ['\\', 't']
    else if 0x10FF80 ≤ n then "\\udc".toList ++ hexDigits 2 (n - 0x10FF00)
    else if isShown c && (!ascii || n < 128) then [c]
    else if n < 256 then '\\' :: 'x' :: hexDigits 2 n
    else if n < 65536 then '\\' :: 'u' :: hexDigits 4 n
    else '\\' :: 'U' :: hexDigits 8 n) ++ [q]

/-- bytes as they are written in a program -/
def bytesRepr (o : Octets) : Characters :=
  let q := quoteFor o
  'b' :: q :: o.flatMap (fun c =>
    let n := c.toNat
    if c == q || c == '\\' then ['\\', c]
    else if c == '\n' then ['\\', 'n']
    else if c == '\r' then ['\\', 'r']
    else if c == '\t' then ['\\', 't']
    else if 32 ≤ n && n < 127 then [c]
    else '\\' :: 'x' :: hexDigits 2 n) ++ [q]

/-- an exponent with its sign and two digits at least -/
def exponentPart (e : Int) : Characters :=
  let digits := Nat.toDigits 10 e.natAbs
  'e' :: (if e < 0 then '-' else '+') :: (List.replicate (2 - digits.length) '0' ++ digits)

/-- a real number as it is written in a program: with as many digits as tell it from others -/
def realRepr (x : Extended) : Characters :=
  match x with
  | .notANumber => "nan".toList
  | .infinite n => if n then "-inf".toList else "inf".toList
  | .finite d =>
    let sign := if d.negative then ['-'] else []
    if d.mantissa = 0 then sign ++ "0.0".toList
    else
      let (n, k) := d.shortest
      let digits := Nat.toDigits 10 n
      let point : Int := digits.length + k
      let body :=
        if 0 ≤ k && point ≤ 16 then digits ++ List.replicate k.toNat '0' ++ ['.', '0']
        else if 0 < point && point ≤ 16 then digits.take point.toNat ++ '.' :: digits.drop point.toNat
        else if -4 < point && point ≤ 0 then "0.".toList ++ List.replicate (-point).toNat '0' ++ digits
        else
          let tail := if digits.length = 1 then [] else '.' :: digits.drop 1
          digits.take 1 ++ tail ++ exponentPart (point - 1)
      sign ++ body

/-! ## In a form that is asked for -/

/-- the form of a value -/
structure Form where
  fill : Char
  align : Option Char
  sign : Char
  alternate : Bool
  zeros : Bool
  width : Nat
  grouping : Option Char
  precision : Option Nat
  letter : Option Char
deriving Inhabited

/-- reads a form; `none` where it is none -/
def Form.read? (o : Characters) : Option Form :=
  let isAlign (c : Char) : Bool := "<>=^".toList.contains c
  let (fill, align, o) : Char × Option Char × Characters := match o with
    | c :: a :: rest => if isAlign a then (c, some a, rest) else if isAlign c then (' ', some c, a :: rest) else (' ', none, o)
    | [c] => if isAlign c then (' ', some c, []) else (' ', none, o)
    | [] => (' ', none, [])
  let (sign, o) : Char × Characters := match o with
    | c :: rest => if c == '+' || c == '-' || c == ' ' then (c, rest) else ('-', o)
    | [] => ('-', [])
  let o := if o.head? == some 'z' then o.drop 1 else o
  let alternate : Bool := o.head? == some '#'
  let o := if alternate then o.drop 1 else o
  let zeros : Bool := o.head? == some '0'
  let o := if zeros then o.drop 1 else o
  let (width, count) := digitsIn 10 o
  let o := o.drop count
  let (grouping, o) : Option Char × Characters := match o with
    | c :: rest => if c == ',' || c == '_' then (some c, rest) else (none, o)
    | [] => (none, [])
  let (precision, o) : Option Nat × Characters := match o with
    | '.' :: rest =>
      let (n, count) := digitsIn 10 rest
      (if count = 0 then none else some n, rest.drop count)
    | _ => (none, o)
  let form (letter : Option Char) : Form := ⟨fill, align, sign, alternate, zeros, width, grouping, precision, letter⟩
  match o with
  | [] => some (form none)
  | [c] => some (form (some c))
  | _ => none

/-- a text in a field; `usual` says where it stands if nothing is said -/
def Form.padded (f : Form) (usual : Char) (sign body : Characters) : Characters :=
  let align := f.align.getD (if f.zeros && usual == '>' then '=' else usual)
  let fill := if f.zeros && f.align.isNone then '0' else f.fill
  let gap := f.width - sign.length - body.length
  match align with
  | '<' => sign ++ body ++ List.replicate gap fill
  | '^' => List.replicate (gap / 2) fill ++ sign ++ body ++ List.replicate (gap - gap / 2) fill
  | '=' => sign ++ List.replicate gap fill ++ body
  | _ => List.replicate gap fill ++ sign ++ body

/-- digits with marks between groups of them, from the right -/
def groupedDigits (mark : Char) (size : Nat) (digits : Characters) : Characters :=
  let rec go : Nat → Characters → Characters
    | 0, o => o
    | fuel + 1, o => if o.length ≤ size then o else o.take size ++ mark :: go fuel (o.drop size)
  (go digits.length digits.reverse).reverse

/-- the digits of a number with marks between groups of them; zeros that fill the field are grouped too -/
def Form.grouped (f : Form) (size signs : Nat) (digits rest : Characters) : Characters :=
  match f.grouping with
  | none => digits ++ rest
  | some mark =>
    let fills : Bool := f.zeros && f.align.isNone
    let wanted := f.width - signs - rest.length
    let rec widen : Nat → Characters → Characters
      | 0, o => o
      | fuel + 1, o => if (groupedDigits mark size o).length < wanted then widen fuel ('0' :: o) else o
    let digits := if fills then widen f.width digits else digits
    let shown := groupedDigits mark size digits
    let shown := if fills && wanted < shown.length && shown.head? == some mark then shown.drop 1 else shown
    shown ++ rest

/-- the sign of a number -/
def Form.signOf (f : Form) (negative : Bool) : Characters :=
  if negative then ['-'] else if f.sign == '+' then ['+'] else if f.sign == ' ' then [' '] else []

/-- a whole number in a form; an error where the form is none for it -/
def Form.ofInt (f : Form) (n : Int) : Except String Characters :=
  let sign := f.signOf (n < 0)
  let based (base size : Nat) (lead : String) (upper : Bool) : Characters :=
    let digits := Nat.toDigits base n.natAbs
    let digits := if upper then digits.map Char.toUpper else digits
    let sign := sign ++ if f.alternate then lead.toList else []
    f.padded '>' sign (f.grouped size sign.length digits [])
  if f.precision.isSome then .error "Precision not allowed in integer format specifier"
  else match f.letter with
    | none => .ok (based 10 3 "" false)
    | some 'd' => .ok (based 10 3 "" false)
    | some 'n' => .ok (based 10 3 "" false)
    | some 'b' => .ok (based 2 4 "0b" false)
    | some 'o' => .ok (based 8 4 "0o" false)
    | some 'x' => .ok (based 16 4 "0x" false)
    | some 'X' => .ok (based 16 4 "0X" true)
    | some 'c' => .ok (f.padded '<' [] [charOf n.toNat])
    | some c => .error s!"Unknown format code '{c}' for object of type 'int'"
where
  charOf (n : Nat) : Char := Char.ofNat n

/-- the digits of a number with so many of them, one after the point at least -/
def briefDigits (d : Double) (count : Nat) : Characters :=
  let (n, e) := d.leading (max count 1 - 1)
  if -4 ≤ e && e < count then
    let o := Double.withoutZeros (d.fixedText (count - 1 - e).toNat true)
    if o.contains '.' then o else o ++ ['.', '0']
  else Double.withoutZeros (Double.withPoint (Nat.toDigits 10 n) (max count 1 - 1) false) ++ exponentPart e

/-- a real number in a form; an error where the form is none for it -/
def Form.ofReal (f : Form) (x : Extended) : Except String Characters :=
  let sign := f.signOf x.isNegative
  let put (body : Characters) (tail : Characters) : Characters :=
    let whole := body.takeWhile Char.isDigit
    let rest := body.drop whole.length ++ tail
    if whole.isEmpty then f.padded '>' sign (body ++ tail)
    else f.padded '>' sign (f.grouped 3 sign.length whole rest)
  let places (how : Places) (upper : Bool) : Characters := x.placesText how (f.precision.getD 6) upper f.alternate
  match f.letter with
  | some 'f' => .ok (put (places .fixed false) [])
  | some 'F' => .ok (put (places .fixed true) [])
  | some 'e' => .ok (put (places .exponent false) [])
  | some 'E' => .ok (put (places .exponent true) [])
  | some 'g' => .ok (put (places .general false) [])
  | some 'n' => .ok (put (places .general false) [])
  | some 'G' => .ok (put (places .general true) [])
  | some '%' =>
    let scaled := x.mul (.ofInt 100)
    .ok (put (scaled.placesText .fixed (f.precision.getD 6) false f.alternate) ['%'])
  | none =>
    match x, f.precision with
    | .finite d, some p => .ok (put (briefDigits { d with negative := false } p) [])
    | x, _ =>
      let o := realRepr x
      .ok (put (if o.head? == some '-' then o.drop 1 else o) [])
  | some c => .error s!"Unknown format code '{c}' for object of type 'float'"

/-- a text in a form; an error where the form is none for it -/
def Form.ofText (f : Form) (o : Characters) : Except String Characters :=
  let o := match f.precision with
    | some p => o.take p
    | none => o
  if f.letter.isSome && f.letter != some 's' then
    let c := f.letter.getD 's'
    .error s!"Unknown format code '{c}' for object of type 'str'"
  else if f.align == some '=' then .error "'=' alignment not allowed in string format specifier"
  else .ok (f.padded '<' [] o)

end ScriptBridge.Shell.BlockScript
