/-
Operators: arithmetic of whole and real numbers, what they do with texts, lists, sets and maps, and values at indices. A
class of a program may say what they do with its own objects.
-/
import ScriptBridge.Shell.BlockScript.Object

namespace ScriptBridge.Shell.BlockScript

/-! ## Numbers -/

/-- what arithmetic comes to, or what is wrong -/
abbrev Reckoned := Except (String × String) Value

/-- arithmetic of whole numbers -/
def wholeArithmetic (operator : String) (a b : Int) : Option Reckoned :=
  let byZero (message : String) : Reckoned := .error ("ZeroDivisionError", message)
  match operator with
  | "+" => some (.ok (.int (a + b)))
  | "-" => some (.ok (.int (a - b)))
  | "*" => some (.ok (.int (a * b)))
  | "//" => some (if b == 0 then byZero "integer division or modulo by zero" else .ok (.int (Int.fdiv a b)))
  | "%" => some (if b == 0 then byZero "integer modulo by zero" else .ok (.int (Int.fmod a b)))
  | "/" =>
    some (if b == 0 then byZero "division by zero"
      else .ok (.real (.ofQuotient ((a < 0) != (b < 0) && a != 0) a.natAbs b.natAbs)))
  | "**" =>
    some (if 0 ≤ b then .ok (.int (Int.pow a b.toNat))
      else if a == 0 then byZero "0.0 cannot be raised to a negative power"
      else .ok (.real ((Extended.ofInt a).pow (.ofInt b))))
  | "&" => some (.ok (.int (bitwise (· && ·) a b)))
  | "|" => some (.ok (.int (bitwise (· || ·) a b)))
  | "^" => some (.ok (.int (bitwise (· != ·) a b)))
  | "<<" => some (if b < 0 then .error ("ValueError", "negative shift count") else .ok (.int (a * (Nat.pow 2 b.toNat : Nat))))
  | ">>" =>
    some (if b < 0 then .error ("ValueError", "negative shift count") else .ok (.int (Int.fdiv a (Nat.pow 2 b.toNat : Nat))))
  | _ => none
where
  /-- whole numbers combined bit by bit -/
  bitwise (f : Bool → Bool → Bool) (a b : Int) : Int :=
    let size := max a.natAbs.log2 b.natAbs.log2 + 2
    let bit (n : Int) (i : Nat) : Bool := Int.fmod (Int.fdiv n (Nat.pow 2 i : Nat)) 2 == 1
    let low : Nat := (List.range size).foldl (fun n i => if f (bit a i) (bit b i) then n + Nat.pow 2 i else n) 0
    if f (a < 0) (b < 0) then (low : Int) - (Nat.pow 2 size : Nat) else low

/-- the quotient of real numbers rounded down -/
def flooredQuotient (x y : Extended) : Extended :=
  match x, y with
  | .finite a, .finite b =>
    let (n, d) := Extended.signedRatio a
    let (m, e) := Extended.signedRatio b
    .ofInt (Int.fdiv (n * e) (m * d))
  | x, y => x.div y

/-- the remainder that has the sign of the divisor -/
def flooredRemainder (x y : Extended) : Extended :=
  let r := x.rem y
  if r.isZero then (match r with
    | .finite d => .finite { d with negative := y.isNegative }
    | r => r)
  else if r.isNegative != y.isNegative then r.add y else r

/-- arithmetic of real numbers -/
def realArithmetic (operator : String) (x y : Extended) : Option Reckoned :=
  let byZero (message : String) : Reckoned := .error ("ZeroDivisionError", message)
  match operator with
  | "+" => some (.ok (.real (x.add y)))
  | "-" => some (.ok (.real (x.sub y)))
  | "*" => some (.ok (.real (x.mul y)))
  | "/" => some (if y.isZero then byZero "float division by zero" else .ok (.real (x.div y)))
  | "//" => some (if y.isZero then byZero "float floor division by zero" else .ok (.real (flooredQuotient x y)))
  | "%" => some (if y.isZero then byZero "float modulo" else .ok (.real (flooredRemainder x y)))
  | "**" =>
    some (if x.isZero && y.isNegative then byZero "0.0 cannot be raised to a negative power" else .ok (.real (x.pow y)))
  | _ => none

/-- what was reckoned, as a value -/
def Reckoned.value (r : Reckoned) : Work Value :=
  match r with
  | .ok v => return v
  | .error (kind, message) => raise kind message

/-! ## Indices -/

/-- the bounds of a slice of something with so many items: start, stop and step -/
def sliceBounds (size : Nat) (start stop step : Value) : Work (Int × Int × Int) := do
  let part (v : Value) : Work (Option Int) := do
    match v with
    | .none => return none
    | v => match int? v with
      | some n => return some n
      | none => typeError "slice indices must be integers or None or have an __index__ method"
  let step := (← part step).getD 1
  if step == 0 then valueError "slice step cannot be zero"
  let n : Int := size
  let clamp (low high : Int) (v : Int) : Int :=
    let v := if v < 0 then v + n else v
    max low (min high v)
  if 0 < step then
    return (((← part start).map (clamp 0 n)).getD 0, ((← part stop).map (clamp 0 n)).getD n, step)
  else
    return (((← part start).map (clamp (-1) (n - 1))).getD (n - 1), ((← part stop).map (clamp (-1) (n - 1))).getD (-1), step)

/-- the indices of a slice -/
def sliceIndices (size : Nat) (start stop step : Value) : Work (List Nat) := do
  let (a, b, c) ← sliceBounds size start stop step
  return (List.range (rangeLength a b c)).map fun (i : Nat) => (a + c * i).toNat

/-- the items at indices -/
def pick {α : Type} (items : List α) (indices : List Nat) : List α :=
  let contiguous : Bool := (indices.zip (indices.drop 1)).all fun (i, j) => j == i + 1
  if contiguous then (items.drop (indices.headD 0)).take indices.length
  else
    let all := items.toArray
    indices.filterMap fun i => all[i]?

/-- the place that an index means -/
def indexPlace (kind message : String) (size : Nat) (index : Value) : Work Nat := do
  match int? index with
  | some n =>
    let n := if n < 0 then n + size else n
    if n < 0 || (size : Int) ≤ n then raise "IndexError" message else return n.toNat
  | none => do
    let name ← typeName index
    if kind == "string" then typeError s!"string indices must be integers, not '{name}'"
    else if kind == "byte" then typeError s!"byte indices must be integers or slices, not {name}"
    else typeError s!"{kind} indices must be integers or slices, not {name}"

/-- whether a value cannot be a key; its type is given -/
def unhashable? (v : Value) : Work (Option String) := do
  match ← thing? v with
  | some (.list _) => return some "list"
  | some (.dict kind _ _) => return some kind
  | some (.set false _) => return some "set"
  | _ => return none

/-- a value as a key -/
def asKey (v : Value) : Work Value := do
  match ← unhashable? v with
  | some name => typeError s!"unhashable type: '{name}'"
  | none => match v with
    | .tuple items => do
      for item in items do
        match ← unhashable? item with
        | some name => typeError s!"unhashable type: '{name}'"
        | none => pure ()
      return v
    | .slice .. => typeError "unhashable type: 'slice'"
    | v => return v

/-- the text of a group of a match, or nothing -/
def groupValue (pattern : Nat) (subject : Characters) (spot : Branching.Spot) (index : Nat) : Work Value := do
  let bytes ← match ← thingAt pattern with
    | .pattern _ b _ => pure b
    | _ => pure false
  let span := if index = 0 then some (spot.start, spot.place) else spot.group? index
  return match span with
  | some (a, b) =>
    let o := (subject.drop a).take (b - a)
    if bytes then .bytes o else .text o
  | none => .none

/-- the group of a pattern that a number or a name means -/
def groupIndex (pattern : Nat) (v : Value) : Work Nat := do
  match ← thingAt pattern with
  | .pattern _ _ e =>
    match v with
    | .text name => match e.names.lookup name with
      | some n => return n
      | none => raise "IndexError" "no such group"
    | v => match int? v with
      | some n => if n < 0 || (e.groups : Int) < n then raise "IndexError" "no such group" else return n.toNat
      | none => raise "IndexError" "no such group"
  | _ => return 0

section

variable (call : Caller)

/-- the value at an index -/
def itemAt (object index : Value) : Work Value := do
  match object, index with
  | .text o, .slice a b c => do return .text (pick o (← sliceIndices o.length a b c))
  | .bytes o, .slice a b c => do return .bytes (pick o (← sliceIndices o.length a b c))
  | .tuple items, .slice a b c => do return .tuple (pick items (← sliceIndices items.length a b c))
  | .range a _ c, .slice x y z => do
    let (start, stop, step) ← sliceBounds (rangeLength a (match object with
      | .range _ b _ => b
      | _ => 0) c) x y z
    return .range (a + c * start) (a + c * stop) (c * step)
  | .text o, i => do
    let n ← indexPlace "string" "string index out of range" o.length i
    return .text (o[n]?).toList
  | .bytes o, i => do
    let n ← indexPlace "byte" "index out of range" o.length i
    return .int ((o[n]?).map Char.toNat |>.getD 0)
  | .tuple items, i => do
    let n ← indexPlace "tuple" "tuple index out of range" items.length i
    return (items[n]?).getD .none
  | .range a b c, i => do
    let n ← indexPlace "range" "range object index out of range" (rangeLength a b c) i
    return rangeItem a c n
  | .builtin _, _ => return object
  | .ref x, i =>
    match ← thingAt x, i with
    | .list items, .slice a b c => do makeList (pick items (← sliceIndices items.length a b c))
    | .list items, i => do
      let n ← indexPlace "list" "list index out of range" items.length i
      return (items[n]?).getD .none
    | .dict kind default entries, key => do
      let key ← asKey key
      match entryFor? key entries with
      | some v => return v
      | none =>
        match kind with
        | "Counter" => return .int 0
        | "defaultdict" =>
          match default with
          | .none => raiseWith "KeyError" [key]
          | f => do
            let v ← call f [] []
            match ← thingAt x with
            | .dict kind default entries => update x (.dict kind default (putEntry key v entries))
            | _ => pure ()
            return v
        | _ => raiseWith "KeyError" [key]
    | .found p subject spot, i => do groupValue p subject spot (← groupIndex p i)
    | .classOf .., _ => return object
    | _, i => do
      match ← special? object "__getitem__" with
      | some f => call f [object, i] []
      | none => do
        match attribute? " fields" (← objectAttributes object) with
        | some (.tuple _) => do
          let items ← itemsOf call object
          let n ← indexPlace "tuple" "tuple index out of range" items.length i
          return (items[n]?).getD .none
        | _ =>
          let name ← typeName object
          typeError s!"'{name}' object is not subscriptable"
  | object, _ => do
    let name ← typeName object
    typeError s!"'{name}' object is not subscriptable"

/-- puts a value at an index -/
def setItemAt (object index value : Value) : Work Unit := do
  let refuse {α : Type} : Work α := do
    let name ← typeName object
    typeError s!"'{name}' object does not support item assignment"
  match object with
  | .ref x =>
    match ← thingAt x, index with
    | .list items, .slice a b c => do
      let (start, stop, step) ← sliceBounds items.length a b c
      let given ← tryCatch (itemsOf call value) fun
        | .raised e trace => do
          if (← exceptionName e) == "TypeError" then typeError "can only assign an iterable" else throw (.raised e trace)
        | other => throw other
      if step == 1 then
        let stop := max start stop
        update x (.list (items.take start.toNat ++ given ++ items.drop stop.toNat))
      else
        let places := (List.range (rangeLength start stop step)).map fun (i : Nat) => (start + step * i).toNat
        if places.length != given.length then
          valueError ("attempt to assign sequence of size " ++ toString given.length ++ " to extended slice of size "
            ++ toString places.length)
        else update x (.list ((places.zip given).foldl (fun items (i, v) => items.set i v) items))
    | .list items, i => do
      let n ← indexPlace "list" "list assignment index out of range" items.length i
      update x (.list (items.set n value))
    | .dict kind default entries, key => do
      let key ← asKey key
      update x (.dict kind default (putEntry key value entries))
    | _, i => do
      match ← special? object "__setitem__" with
      | some f => do
        let _ ← call f [object, i, value] []
      | none => refuse
  | _ => refuse

/-- removes the value at an index -/
def deleteItemAt (object index : Value) : Work Unit := do
  let refuse {α : Type} : Work α := do
    let name ← typeName object
    typeError s!"'{name}' object does not support item deletion"
  match object with
  | .ref x =>
    match ← thingAt x, index with
    | .list items, .slice a b c => do
      let gone ← sliceIndices items.length a b c
      update x (.list ((items.zipIdx.filter fun (_, i) => !gone.contains i).map Prod.fst))
    | .list items, i => do
      let n ← indexPlace "list" "list assignment index out of range" items.length i
      update x (.list (items.eraseIdx n))
    | .dict kind default entries, key => do
      let key ← asKey key
      if (entryFor? key entries).isSome then update x (.dict kind default (dropEntry key entries))
      else raiseWith "KeyError" [key]
    | _, i => do
      match ← special? object "__delitem__" with
      | some f => do
        let _ ← call f [object, i] []
      | none => refuse
  | _ => refuse

/-! ## Containment -/

/-- whether a text contains another one -/
def hasText (o part : Characters) : Bool :=
  part.isEmpty || match o with
    | [] => false
    | _ :: rest => part.isPrefixOf o || hasText rest part

/-- whether something contains a value -/
def contains (object item : Value) : Work Bool := do
  match object with
  | .text o => match item with
    | .text part => return hasText o part
    | item => do
      let name ← typeName item
      typeError s!"'in <string>' requires string as left operand, not {name}"
  | .bytes o => match item with
    | .bytes part => return hasText o part
    | item => match int? item with
      | some n => return o.any fun c => (c.toNat : Int) == n
      | none => do
        let name ← typeName item
        typeError s!"a bytes-like object is required, not '{name}'"
  | .range a b c => match int? item with
    | some n => return rangeLength a b c != 0 && (if 0 < c then a ≤ n && n < b else b < n && n ≤ a) && Int.fmod (n - a) c == 0
    | none => return false
  | .ref x =>
    match ← thingAt x with
    | .dict _ _ entries => do
      let key ← asKey item
      return (entryFor? key entries).isSome
    | .set _ items => do
      let key ← asKey item
      return items.any (sameKey key)
    | _ => do
      match ← special? object "__contains__" with
      | some f => do isTrue call (← call f [object, item] [])
      | none => do (← itemsOf call object).anyM fun v => areEqual call valueDepth v item
  | .tuple items => items.anyM fun v => areEqual call valueDepth v item
  | object => do
    let name ← typeName object
    typeError s!"argument of type '{name}' is not iterable"

/-! ## Formatting -/

/-- a value in a form -/
def inForm (v : Value) (spec : Characters) : Work Characters := do
  match ← special? v "__format__" with
  | some f => match ← call f [v, .text spec] [] with
    | .text o => return o
    | _ => typeError "__format__ must return a str"
  | none =>
    if spec.isEmpty then shown call v
    else match Form.read? spec with
      | none => do
        let name ← typeName v
        valueError s!"Invalid format specifier '{String.ofList spec}' for object of type '{name}'"
      | some f =>
        let given (r : Except String Characters) : Work Characters := match r with
          | .ok o => return o
          | .error message => valueError message
        match v with
        | .text o => given (f.ofText o)
        | .bool b =>
          if f.letter.isNone && !f.grouping.isSome then given (f.ofText (if b then "True" else "False").toList)
          else given (f.ofInt (if b then 1 else 0))
        | .int n =>
          if f.letter.any fun c => "eEfFgG%".toList.contains c then given (f.ofReal (.ofInt n)) else given (f.ofInt n)
        | .real x => given (f.ofReal x)
        | v => do
          let name ← typeName v
          typeError s!"unsupported format string passed to {name}.__format__"

/-- the form that a conversion with flags, width and precision asks for -/
def conversionForm (flags : Characters) (width : Nat) (precision : Option Nat) (letter : Char) (isText : Bool) : Form :=
  { fill := ' '
    align := if flags.contains '-' then some '<' else if isText then some '>' else none
    sign := if flags.contains '+' then '+' else if flags.contains ' ' then ' ' else '-'
    alternate := flags.contains '#'
    zeros := flags.contains '0' && !isText && !flags.contains '-'
    width
    grouping := none
    precision
    letter := some letter }

/-- a text with its conversions replaced by values; `rest` are the values that were not shown yet, and `map` is the map
that named conversions mean -/
def converted (map : Option Value) : Nat → Characters → List Value → Work (Characters × List Value)
  | 0, _, rest => return ([], rest)
  | _, [], rest => return ([], rest)
  | fuel + 1, '%' :: '%' :: o, rest => do
    let (more, rest) ← converted map fuel o rest
    return ('%' :: more, rest)
  | fuel + 1, '%' :: o, rest => do
    let (named?, o) : Option Characters × Characters := match o with
      | '(' :: more =>
        let name := more.takeWhile (· != ')')
        (some name, more.drop (name.length + 1))
      | o => (none, o)
    let flags := o.takeWhile fun c => "#0- +".toList.contains c
    let o := o.drop flags.length
    let takeValue (rest : List Value) : Work (Value × List Value) := do
      match named?, map, rest with
      | some name, some m, rest => return (← itemAt call m (.text name), rest)
      | some _, none, _ => typeError "format requires a mapping"
      | none, _, v :: rest => return (v, rest)
      | none, _, [] => typeError "not enough arguments for format string"
    let count (o : Characters) (rest : List Value) : Work (Option Int × Characters × List Value) := do
      match o with
      | '*' :: o => do
        let (v, rest) ← takeValue rest
        return (int? v, o, rest)
      | o =>
        let (n, size) := digitsIn 10 o
        return (if size = 0 then none else some (n : Int), o.drop size, rest)
    let (width, o, rest) ← count o rest
    let (precision, o, rest) ← match o with
      | '.' :: o => do
        let (p, o, rest) ← count o rest
        pure (some (p.getD 0).toNat, o, rest)
      | o => pure (none, o, rest)
    let o := o.dropWhile fun c => "hlL".toList.contains c
    let flags := if (width.getD 0) < 0 then '-' :: flags else flags
    let width := (width.getD 0).natAbs
    match o with
    | [] => valueError "incomplete format"
    | letter :: o => do
      let (v, rest) ← takeValue rest
      let asText (t : Characters) : Characters :=
        let f := conversionForm flags width none 's' true
        f.padded '>' [] (match precision with
          | some p => t.take p
          | none => t)
      let text ← match letter with
        | 's' => do pure (asText (← shown call v))
        | 'r' => do pure (asText (← displayed call valueDepth v))
        | 'a' => do pure (asText (← displayed call valueDepth v))
        | 'c' => match v with
          | .text [c] => pure (asText [c])
          | v => match int? v with
            | some n => pure (asText [Char.ofNat n.toNat])
            | none => typeError "%c requires int or char"
        | letter =>
          if "diu".toList.contains letter then
            match v with
            | .real x => match x.toInt? with
              | some n => pure (wholeText flags width precision 'd' n)
              | none => valueError "cannot convert float NaN to integer"
            | v => match int? v with
              | some n => pure (wholeText flags width precision 'd' n)
              | none => do
                let name ← typeName v
                typeError s!"%{letter} format: a real number is required, not {name}"
          else if "oxX".toList.contains letter then
            match int? v with
            | some n => pure (wholeText flags width precision letter n)
            | none => do
              let name ← typeName v
              typeError s!"%{letter} format: an integer is required, not {name}"
          else if "eEfFgG".toList.contains letter then
            match real? v with
            | some x => match (conversionForm flags width precision letter false).ofReal x with
              | .ok t => pure t
              | .error message => valueError message
            | none => do
              let name ← typeName v
              typeError s!"must be real number, not {name}"
          else
            let code := String.ofList (hexDigits 1 letter.toNat)
            valueError s!"unsupported format character '{letter}' (0x{code}) at index {0}"
      let (more, rest) ← converted map fuel o rest
      return (text ++ more, rest)
  | fuel + 1, c :: o, rest => do
    let (more, rest) ← converted map fuel o rest
    return (c :: more, rest)
where
  /-- a whole number with its flags, width and least number of digits -/
  wholeText (flags : Characters) (width : Nat) (precision : Option Nat) (letter : Char) (n : Int) : Characters :=
    let f := conversionForm flags width none letter false
    let base := if letter == 'o' then 8 else if letter == 'd' then 10 else 16
    let digits := Nat.toDigits base n.natAbs
    let digits := if letter == 'X' then digits.map Char.toUpper else digits
    let digits := List.replicate ((precision.getD 0) - digits.length) '0' ++ digits
    let lead := if !f.alternate || letter == 'd' then [] else ['0', letter]
    f.padded '>' (f.signOf (n < 0) ++ lead) digits

/-- a text with its conversions replaced by values -/
def percentText (o : Characters) (v : Value) : Work Characters := do
  let isMap : Bool := match ← thing? v with
    | some (.dict ..) => true
    | _ => false
  let values := match v with
    | .tuple items => items
    | v => [v]
  let (text, rest) ← converted call (if isMap then some v else none) (o.length + 1) o values
  if !rest.isEmpty && !isMap then
    match v with
    | .tuple _ => typeError "not all arguments converted during string formatting"
    | _ => typeError "not all arguments converted during string formatting"
  else return text

/-! ## Operators -/

/-- the functions of a class for an operator, and for the operator with its operands exchanged -/
def operatorMethods (operator : String) : String × String :=
  let name : String := match operator with
    | "+" => "add"
    | "-" => "sub"
    | "*" => "mul"
    | "/" => "truediv"
    | "//" => "floordiv"
    | "%" => "mod"
    | "**" => "pow"
    | "&" => "and"
    | "|" => "or"
    | "^" => "xor"
    | "<<" => "lshift"
    | ">>" => "rshift"
    | _ => "matmul"
  (s!"__{name}__", s!"__r{name}__")

/-- so many copies of a list -/
def copies {α : Type} (n : Int) (items : List α) : List α := (List.replicate n.toNat items).flatten

/-- a set of values, as another one was -/
def setLike (frozen : Bool) (items : List Value) : Work Value := allocate (.set frozen items)

/-- a path below another one -/
def joinPaths (a b : Characters) : Characters :=
  if b.head? == some '/' then b else if a.isEmpty || a.getLast? == some '/' then a ++ b else a ++ '/' :: b

/-- what an operator comes to; none where it is not known for the operands -/
def operated? (operator : String) (a b : Value) : Work (Option Value) := do
  match int? a, int? b with
  | some m, some n =>
    match operator, a, b with
    | "&", .bool x, .bool y => return some (.bool (x && y))
    | "|", .bool x, .bool y => return some (.bool (x || y))
    | "^", .bool x, .bool y => return some (.bool (x != y))
    | operator, _, _ => match wholeArithmetic operator m n with
      | some r => some <$> r.value
      | none => return none
  | _, _ => match real? a, real? b with
    | some x, some y => match realArithmetic operator x y with
      | some r => some <$> r.value
      | none => return none
    | _, _ => match operator, a, b with
      | "+", .text x, .text y => return some (.text (x ++ y))
      | "+", .bytes x, .bytes y => return some (.bytes (x ++ y))
      | "+", .tuple x, .tuple y => return some (.tuple (x ++ y))
      | "+", .text _, b => do
        if (← special? b "__radd__").isSome then return none
        else do
          let name ← typeName b
          typeError s!"can only concatenate str (not \"{name}\") to str"
      | "+", .tuple _, b => do
        let name ← typeName b
        typeError s!"can only concatenate tuple (not \"{name}\") to tuple"
      | "*", .text o, n => match int? n with
        | some n => return some (.text (copies n o))
        | none => return none
      | "*", n, .text o => match int? n with
        | some n => return some (.text (copies n o))
        | none => return none
      | "*", .bytes o, .int n => return some (.bytes (copies n o))
      | "*", .tuple items, .int n => return some (.tuple (copies n items))
      | "*", .int n, .tuple items => return some (.tuple (copies n items))
      | "%", .text o, v => do return some (.text (← percentText call o v))
      | "%", .bytes o, v => do
        let v := match v with
          | .tuple items => .tuple (items.map plain)
          | v => plain v
        return some (.bytes (encode (← percentText call (decode o) v)))
      | operator, a, b =>
        match operator, ← thing? a, ← thing? b, a, b with
        | "+", some (.list x), some (.list y), _, _ => some <$> makeList (x ++ y)
        | "+", some (.list _), _, _, b => do
          let name ← typeName b
          typeError s!"can only concatenate list (not \"{name}\") to list"
        | "*", some (.list x), _, _, n => match int? n with
          | some n => some <$> makeList (copies n x)
          | none => return none
        | "*", _, some (.list x), n, _ => match int? n with
          | some n => some <$> makeList (copies n x)
          | none => return none
        | "|", some (.dict kind d x), some (.dict _ _ y), _, _ =>
          if kind == "Counter" then
            some <$> allocate (.dict kind d (y.foldl (fun acc (k, v) =>
              let old := ((entryFor? k acc).bind int?).getD 0
              putEntry k (.int (max old ((int? v).getD 0))) acc) x))
          else some <$> allocate (.dict kind d (y.foldl (fun acc (k, v) => putEntry k v acc) x))
        | "+", some (.dict "Counter" d x), some (.dict "Counter" _ y), _, _ =>
          let sum := y.foldl (fun acc (k, v) =>
            putEntry k (.int (((entryFor? k acc).bind int?).getD 0 + (int? v).getD 0)) acc) x
          some <$> allocate (.dict "Counter" d (sum.filter fun e => 0 < (int? e.2).getD 0))
        | "-", some (.dict "Counter" d x), some (.dict "Counter" _ y), _, _ =>
          let difference := x.map fun (k, v) => (k, Value.int ((int? v).getD 0 - ((entryFor? k y).bind int?).getD 0))
          some <$> allocate (.dict "Counter" d (difference.filter fun e => 0 < (int? e.2).getD 0))
        | "|", some (.set f x), some (.set _ y), _, _ => some <$> setLike f (y.foldl (fun acc v => putItem v acc) x)
        | "&", some (.set f x), some (.set _ y), _, _ => some <$> setLike f (x.filter fun v => y.any (sameKey v))
        | "-", some (.set f x), some (.set _ y), _, _ => some <$> setLike f (x.filter fun v => !y.any (sameKey v))
        | "^", some (.set f x), some (.set _ y), _, _ =>
          some <$> setLike f (x.filter (fun v => !y.any (sameKey v)) ++ y.filter fun v => !x.any (sameKey v))
        | "/", some (.instanceOf (.builtin "Path") fields), _, _, b => do
          match attribute? "path" fields with
          | some (.text p) => do
            let o ← shown call b
            some <$> allocate (.instanceOf (.builtin "Path") [("path", .text (joinPaths p o))])
          | _ => return none
        | _, _, _, _, _ => return none
where
  /-- bytes as a text, where they are put into bytes -/
  plain (v : Value) : Value := match v with
    | .bytes o => .text (decode o)
    | v => v

/-- the operator as it is shown where its operands do not fit -/
def shownOperator (operator : String) (augmented : Bool) : String :=
  let name := if operator == "**" then "** or pow()" else operator
  if augmented then (if operator == "**" then "**=" else operator ++ "=") else name

/-- what an operator comes to -/
def operated (augmented : Bool) (operator : String) (a b : Value) : Work Value := do
  let (own, other) := operatorMethods operator
  let tried (v w : Value) (name : String) : Work (Option Value) := do
    match ← special? v name with
    | some f => match ← call f [v, w] [] with
      | .unknown => return none
      | r => return some r
    | none => return none
  match ← tried a b own with
  | some v => return v
  | none => match ← operated? call operator a b with
    | some v => return v
    | none => match ← tried b a other with
      | some v => return v
      | none => do
        let left ← typeName a
        let right ← typeName b
        let sequences : List String := ["str", "list", "tuple", "bytes"]
        if operator == "*" && sequences.contains left then
          typeError s!"can't multiply sequence by non-int of type '{right}'"
        else if operator == "*" && sequences.contains right then
          typeError s!"can't multiply sequence by non-int of type '{left}'"
        else
          let shown := shownOperator operator augmented
          typeError s!"unsupported operand type(s) for {shown}: '{left}' and '{right}'"

/-- what an operator on one operand comes to -/
def negated (operator : String) (v : Value) : Work Value := do
  match operator, v with
  | "not", v => do return .bool !(← isTrue call v)
  | "-", .real x => return .real x.neg
  | "+", .real x => return .real x
  | operator, v =>
    match int? v with
    | some n => return .int (match operator with
      | "-" => -n
      | "~" => -n - 1
      | _ => n)
    | none => do
      let name : String := match operator with
        | "-" => "__neg__"
        | "~" => "__invert__"
        | _ => "__pos__"
      match ← special? v name with
      | some f => call f [v] []
      | none => do
        let kind ← typeName v
        typeError s!"bad operand type for unary {operator}: '{kind}'"

/-- whether a comparison holds -/
def comparison (operator : String) (a b : Value) : Work Value := do
  match operator with
  | "==" => do return .bool (← areEqual call valueDepth a b)
  | "!=" => do
    match ← special? a "__ne__" with
    | some f => call f [a, b] []
    | none => return .bool !(← areEqual call valueDepth a b)
  | "in" => do return .bool (← contains call b a)
  | "not in" => do return .bool !(← contains call b a)
  | "is" => return .bool (identical a b)
  | "is not" => return .bool !(identical a b)
  | operator => do return .bool (← compared call valueDepth operator a b)
where
  /-- whether two values are one and the same -/
  identical (a b : Value) : Bool :=
    match a, b with
    | .bool x, .bool y => x == y
    | .bool _, _ => false
    | _, .bool _ => false
    | .int x, .int y => x == y
    | .real _, _ => false
    | .int _, .real _ => false
    | .tuple _, .tuple y => y.isEmpty && sameKey a b
    | a, b => sameKey a b

end

end ScriptBridge.Shell.BlockScript
