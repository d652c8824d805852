/-
Operators on values. Whole numbers are exact up to the words of the machine and become real beyond them; texts are
numbers as far as their start is one; and a text of letters and digits has a next one.
-/
import ScriptBridge.Shell.SigilScript.Value

namespace ScriptBridge.Shell.SigilScript

/-! ## Numbers -/

/-- how many different words there are -/
def wordCount : Int := 18446744073709551616

/-- whether a whole number is a word -/
def isWord (n : Int) : Bool := -9223372036854775808 ≤ n && n < wordCount

/-- applies an operation that is exact on whole numbers as far as they are words -/
def exactly (onInts : Int → Int → Int) (onReals : Extended → Extended → Extended) (a b : Value) : Value :=
  match settled a, settled b with
  | .int m, .int n =>
    let r := onInts m n
    if isWord r then .int r else .real (onReals (.ofInt m) (.ofInt n))
  | a, b => .real (onReals (realOf a) (realOf b))

/-- a quotient -/
def quotient (a b : Value) : Work Value := do
  match settled a, settled b with
  | .int m, .int n =>
    if n = 0 then die "Illegal division by zero"
    else if m % n = 0 then return .int (m / n)
    else return .real ((Extended.ofInt m).div (.ofInt n))
  | a, b =>
    if (realOf b).isZero then die "Illegal division by zero" else return .real ((realOf a).div (realOf b))

/-- a remainder; it has the sign of the second number -/
def remainder (a b : Value) : Work Value := do
  let whole (v : Value) : Int := match v with
    | .int n => n
    | .real x => (x.truncate.toInt?).getD 0
    | _ => 0
  let (m, n) := (whole a, whole b)
  if n = 0 then die "Illegal modulus zero" else return wholeValue (Int.fmod m n)

/-- how many binary digits a number has -/
def bitCount (n : Nat) : Nat := if n = 0 then 0 else n.log2 + 1

/-- a power; it is exact where the digits of the base say that it is a word -/
def power (a b : Value) : Value :=
  match settled a, settled b with
  | .int m, .int n =>
    let bits := bitCount m.natAbs
    let oneBit : Bool := m.natAbs = Nat.pow 2 (bits - 1)
    if 0 ≤ n && n ≤ 64 && bits * n.toNat ≤ 64 && !oneBit && m != 0 then wholeValue (Int.pow m n.toNat)
    else settled (.real ((Extended.ofInt m).pow (.ofInt n)))
  | a, b => .real ((realOf a).pow (realOf b))

/-- the order of two numbers -/
def numberOrder? (a b : Value) : Option Ordering :=
  match a, b with
  | .int m, .int n => some (compare m n)
  | a, b => (realOf a).order? (realOf b)

/-- a whole number as a word without a sign -/
def wordOf (n : Int) : Nat := (if n < 0 then n % wordCount else if n < wordCount then n else wordCount - 1).toNat

/-- the number of the other sign; a text keeps its letters -/
def negative (v : Value) : Work Value := do
  match v with
  | .text o =>
    match o with
    | '-' :: rest =>
      if rest.head?.any Reading.startsName then return .text ('+' :: rest) else return opposite (numberIn o).1
    | '+' :: rest =>
      if rest.head?.any Reading.startsName then return .text ('-' :: rest) else return opposite (numberIn o).1
    | c :: _ => if Reading.startsName c then return .text ('-' :: o) else return opposite (numberIn o).1
    | [] => return .int 0
  | v => return opposite (← numberOf v)
where
  /-- the number of the other sign -/
  opposite (v : Value) : Value :=
    match v with
    | .int n => if isWord (-n) then .int (-n) else .real (.ofInt (-n))
    | .real x => .real x.neg
    | v => v

/-! ## Texts -/

/-- the order of two texts -/
def textOrder : Octets → Octets → Ordering
  | [], [] => .eq
  | [], _ :: _ => .lt
  | _ :: _, [] => .gt
  | a :: as, b :: bs => if a < b then .lt else if b < a then .gt else textOrder as bs

/-- the text that follows a text of letters and then digits -/
def following (o : Octets) : Octets :=
  let (carry, done, last) := o.reverse.foldl (fun (carry, done, last) c =>
    if !carry then (false, c :: done, last)
    else if c == 'z' then (true, 'a' :: done, c)
    else if c == 'Z' then (true, 'A' :: done, c)
    else if c == '9' then (true, '0' :: done, c)
    else (false, Char.ofNat (c.toNat + 1) :: done, c)) (true, ([] : Octets), '0')
  if carry then (if last == 'z' then 'a' else if last == 'Z' then 'A' else '1') :: done else done

/-- whether a text is made of letters and then digits -/
def hasFollowing (o : Octets) : Bool :=
  !o.isEmpty && (o.dropWhile Char.isAlpha).all Char.isDigit && o.head?.any Char.isAlpha

/-- the value that follows a value -/
def increased (v : Value) : Work Value := do
  match v with
  | .text o => if hasFollowing o then return .text (following o) else return exactly (· + ·) .add (numberIn o).1 (.int 1)
  | v => return exactly (· + ·) .add (← numberOf v) (.int 1)

/-- the value before a value -/
def decreased (v : Value) : Work Value := do return exactly (· - ·) .sub (← numberOf v) (.int 1)

/-- a text, so many times -/
def repeated (n : Nat) (o : Octets) : Octets := (List.replicate n o).flatten

/-- the letter with its other case -/
def raised (c : Char) : Char := if c.toNat < 256 then c.toUpper else capitalLetter c

/-- the letter in lower case -/
def lowered (c : Char) : Char := if c.toNat < 256 then c.toLower else smallLetter c

/-- a text with each mark escaped -/
def escaped (o : Octets) : Octets :=
  o.flatMap fun c => if Reading.inName c || 128 ≤ c.toNat then [c] else ['\\', c]

/-- a text with its case changed -/
def recased (casing : Casing) (o : Octets) : Octets :=
  match casing with
  | .upper => o.map raised
  | .lower => o.map lowered
  | .fold => o.map lowered
  | .firstUpper => match o with
    | c :: rest => raised c :: rest
    | [] => []
  | .firstLower => match o with
    | c :: rest => lowered c :: rest
    | [] => []
  | .quoted => escaped o

/-- joins the bytes of two texts one by one -/
def bytewise (f : Nat → Nat → Nat) (long : Bool) (a b : Octets) : Octets :=
  let both := (a.zip b).map fun (c, d) => Char.ofNat (f c.toNat d.toNat)
  if long then both ++ a.drop b.length ++ b.drop a.length else both

/-- the values from one to another one -/
def rangeValues (a b : Value) : Work (List Value) := do
  let looksWhole (v : Value) : Bool := match v with
    | .text o => o.isEmpty || (numberIn o).2 && !(o.head? == some '0' && 1 < o.length)
    | _ => true
  match a, b with
  | .text first, _ =>
    if looksWhole a && !first.isEmpty then numbers
    else if first.isEmpty then return [.text []]
    else do
      let last ← textOf b
      let rec go : Nat → Octets → List Value
        | 0, _ => []
        | fuel + 1, o =>
          if last.length < o.length then []
          else .text o :: (if o == last then [] else go fuel (following o))
      return go 1000000 first
  | _, _ => numbers
where
  /-- the whole numbers between two -/
  numbers : Work (List Value) := do
    let m ← intOf a
    let n ← intOf b
    return (List.range (n - m + 1).toNat).map fun (i : Nat) => .int (m + i)

/-- applies an operator to two values -/
def applyBinary (op : String) (a b : Value) : Work Value := do
  let numbers (f : Value → Value → Value) : Work Value := do return f (← numberOf a) (← numberOf b)
  let ordered (test : Ordering → Bool) : Work Value := do
    let r := numberOrder? (← numberOf a) (← numberOf b)
    return truthValue ((r.map test).getD false)
  let texts (test : Ordering → Bool) : Work Value := do
    return truthValue (test (textOrder (← textOf a) (← textOf b)))
  let bits (f : Nat → Nat → Nat) (long : Bool) : Work Value := do
    match a, b with
    | .text x, .text y => return .text (bytewise f long x y)
    | a, b => return .int (f (wordOf (← intOf a)) (wordOf (← intOf b)))
  match op with
  | "+" => numbers (exactly (· + ·) .add)
  | "-" => numbers (exactly (· - ·) .sub)
  | "*" => numbers (exactly (· * ·) .mul)
  | "/" => quotient (← numberOf a) (← numberOf b)
  | "%" => remainder (← numberOf a) (← numberOf b)
  | "**" => numbers power
  | "." => return .text ((← textOf a) ++ (← textOf b))
  | "x" => return .text (repeated (← sizeOf b) (← textOf a))
  | "==" => ordered (· == .eq)
  | "!=" => do
    let r := numberOrder? (← numberOf a) (← numberOf b)
    return truthValue (r != some .eq)
  | "<" => ordered (· == .lt)
  | ">" => ordered (· == .gt)
  | "<=" => ordered (· != .gt)
  | ">=" => ordered (· != .lt)
  | "<=>" => do
    match numberOrder? (← numberOf a) (← numberOf b) with
    | some .lt => return .int (-1)
    | some .eq => return .int 0
    | some .gt => return .int 1
    | none => return .undefined
  | "eq" => texts (· == .eq)
  | "ne" => texts (· != .eq)
  | "lt" => texts (· == .lt)
  | "gt" => texts (· == .gt)
  | "le" => texts (· != .gt)
  | "ge" => texts (· != .lt)
  | "cmp" => do
    return .int (match textOrder (← textOf a) (← textOf b) with
      | .lt => -1
      | .eq => 0
      | .gt => 1)
  | "&" => bits Nat.land false
  | "|" => bits Nat.lor true
  | "^" => bits Nat.xor true
  | "<<" => do return .int ((wordOf (← intOf a) * Nat.pow 2 (min 64 (← sizeOf b)) : Nat) % wordCount)
  | ">>" => do return .int (wordOf (← intOf a) / Nat.pow 2 (min 64 (← sizeOf b)) : Nat)
  | "xor" => return truthValue (isTrue a != isTrue b)
  | _ => die s!"Unknown operator {op}"

end ScriptBridge.Shell.SigilScript
