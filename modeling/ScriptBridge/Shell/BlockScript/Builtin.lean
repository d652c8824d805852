/-
The functions that belong to no module: about numbers, texts, items of values, and objects.
-/
import ScriptBridge.Shell.BlockScript.Attribute

namespace ScriptBridge.Shell.BlockScript

/-! ## Numbers -/

/-- digits of a base, with single marks between them -/
def readDigits (base : Nat) (o : Characters) : Option Nat :=
  let marked : Bool := o.head? == some '_' || o.getLast? == some '_' || hasText o ['_', '_']
  let digits := o.filter (· != '_')
  if digits.isEmpty || marked || !digits.all (fun c => (digitOf? base c).isSome) then none
  else some (digitsIn base digits).1

/-- a whole number that is written in a base; base zero is told from the number -/
def readInt (base : Nat) (o : Characters) : Option Int :=
  let o := dropStartWhile isSpaceChar (dropEndWhile isSpaceChar o)
  let (negative, o) : Bool × Characters := match o with
    | '-' :: o => (true, o)
    | '+' :: o => (false, o)
    | o => (false, o)
  let lead : Option Nat := match o with
    | '0' :: c :: _ => match c.toLower with
      | 'x' => some 16
      | 'o' => some 8
      | 'b' => some 2
      | _ => none
    | _ => none
  let (real, o) : Nat × Characters :=
    if lead.isSome && (base == 0 || lead == some base) then
      let rest := o.drop 2
      (lead.getD 10, if rest.head? == some '_' then rest.drop 1 else rest)
    else (if base == 0 then 10 else base, o)
  if base == 0 && lead.isNone && o.head? == some '0' && o.any (fun c => c != '0' && c != '_') then none
  else (readDigits real o).map fun n => if negative then -(n : Int) else n

/-- a real number that is written -/
def readReal (o : Characters) : Option Extended :=
  let o := dropStartWhile isSpaceChar (dropEndWhile isSpaceChar o)
  let (negative, o) : Bool × Characters := match o with
    | '-' :: o => (true, o)
    | '+' :: o => (false, o)
    | o => (false, o)
  let signed (x : Extended) : Extended := if negative then x.neg else x
  match String.ofList (o.map Char.toLower) with
  | "inf" | "infinity" => some (.infinite negative)
  | "nan" => some .notANumber
  | _ =>
    let marked : Bool := o.head? == some '_' || o.getLast? == some '_' || hasText o ['_', '_']
    let digits := o.filter (· != '_')
    let fits : Bool := (digits.head?.any fun c => c.isDigit || c == '.') && digits.any Char.isDigit && !marked
    if !fits then none
    else match decimalNumeral? false (if digits.head? == some '.' then '0' :: digits else digits) with
      | some (x, []) => some (signed x)
      | _ => none

/-- a number with so many places, the nearest one, of two the even one -/
def roundedReal (x : Extended) (places : Int) : Extended :=
  match x with
  | .finite d =>
    let (num, den) := d.ratio
    let units := if 0 ≤ places then Double.roundDiv (num * Nat.pow 10 places.toNat) den
      else Double.roundDiv num (den * Nat.pow 10 (-places).toNat)
    if 0 ≤ places then .ofQuotient d.negative units (Nat.pow 10 places.toNat)
    else .ofQuotient d.negative (units * Nat.pow 10 (-places).toNat) 1
  | x => x

/-- the whole number that is nearest, of two the even one -/
def nearestWhole (x : Extended) : Option Int :=
  match x with
  | .finite d =>
    let (num, den) := d.ratio
    let n : Int := Double.roundDiv num den
    some (if d.negative then -n else n)
  | _ => none

/-- the whole number of a real one without its fraction -/
def wholeOf (x : Extended) : Work Int := do
  match x.toInt? with
  | some n => return n
  | none => match x with
    | .notANumber => valueError "cannot convert float NaN to integer"
    | _ => raise "OverflowError" "cannot convert float infinity to integer"

/-- a number with digits of a base -/
def basedText (lead : String) (base : Nat) (n : Int) : Value :=
  textValue ((if n < 0 then "-" else "") ++ lead ++ String.ofList (Nat.toDigits base n.natAbs))

/-- the sum of values, one after the other; small errors of sums of real numbers are summed up apart -/
def sumOf (call : Caller) (start : Value) (items : List Value) : Work Value := do
  let mut total := start
  let mut error : Extended := .zero
  let mut isReal := false
  for v in items do
    match total, v with
    | .real s, .real x =>
      isReal := true
      let t := s.add x
      let isLarger : Bool := (absolute s).order? (absolute x) != some .lt
      error := error.add (if isLarger then (s.sub t).add x else (x.sub t).add s)
      total := .real t
    | .real s, v =>
      match int? v with
      | some n => total := .real (s.add (.ofInt n))
      | none => total ← operated call false "+" total v
    | t, v => total ← operated call false "+" t v
  match total, error with
  | .real s, .finite d => return if isReal && d.mantissa != 0 then .real (s.add error) else total
  | t, _ => return t
where
  /-- a number without its sign -/
  absolute (x : Extended) : Extended := if x.isNegative then x.neg else x

/-- the index that a value stands for, or an error about its type -/
def needInt (v : Value) : Work Int := do
  match int? v with
  | some n => return n
  | none => do
    match ← thing? v with
    | _ => do
      let kind ← typeName v
      typeError s!"'{kind}' object cannot be interpreted as an integer"

/-- the absolute value of a number -/
def absoluteOf (call : Caller) (v : Value) : Work Value := do
  match v with
  | .real x => return .real (if x.isNegative then x.neg else x)
  | v => match int? v with
    | some n => return .int n.natAbs
    | none => match ← special? v "__abs__" with
      | some f => call f [v] []
      | none => do
        let kind ← typeName v
        typeError s!"bad operand type for abs(): '{kind}'"

/-- a value as a whole number -/
def toInt (call : Caller) (args : List Value) (named : List (String × Value)) : Work Value := do
  let written (base : Int) (o : Characters) (shown : Characters) : Work Value := do
    match readInt base.toNat o with
    | some n => return .int n
    | none =>
      let shown := String.ofList shown
      valueError s!"invalid literal for int() with base {base}: {shown}"
  match args, argument? args named 1 "base" with
  | [], _ => return .int 0
  | .text o :: _, base => do
    let base := (base.bind int?).getD 10
    if base == 1 || base < 0 || 36 < base then valueError "int() base must be >= 2 and <= 36, or 0"
    written base o (textRepr false o)
  | .bytes o :: _, base => written ((base.bind int?).getD 10) o (bytesRepr o)
  | _ :: _, some _ => typeError "int() can't convert non-string with explicit base"
  | .real x :: _, _ => do return .int (← wholeOf x)
  | v :: _, _ =>
    match int? v with
    | some n => return .int n
    | none => match ← special? v "__int__" with
      | some f => call f [v] []
      | none => do
        let kind ← typeName v
        typeError s!"int() argument must be a string, a bytes-like object or a real number, not '{kind}'"

/-- a value as a real number -/
def toReal (call : Caller) (args : List Value) : Work Value := do
  match args with
  | [] => return .real .zero
  | .text o :: _ =>
    match readReal o with
    | some x => return .real x
    | none =>
      let shown := String.ofList (textRepr false o)
      valueError s!"could not convert string to float: {shown}"
  | v :: _ =>
    match real? v with
    | some x => return .real x
    | none => match ← special? v "__float__" with
      | some f => call f [v] []
      | none => do
        let kind ← typeName v
        typeError s!"float() argument must be a string or a real number, not '{kind}'"

/-- the functions about numbers -/
def numberBuiltin? (call : Caller) (name : String) (args : List Value) (named : List (String × Value)) :
    Option (Work Value) :=
  let first := args.headD .none
  let second := (args[1]?).getD .none
  match name with
  | "abs" => some (absoluteOf call first)
  | "int" => some (toInt call args named)
  | "float" => some (toReal call args)
  | "bool" => some do return .bool (← isTrue call first)
  | "divmod" => some do return .tuple [← operated call false "//" first second, ← operated call false "%" first second]
  | "pow" => some do
    match args with
    | [a, b, m] => match int? a, int? b, int? m with
      | some a, some b, some m =>
        if m == 0 then valueError "pow() 3rd argument cannot be 0"
        else return .int (powerMod a b.toNat m)
      | _, _, _ => typeError "pow() 3rd argument not allowed unless all arguments are integers"
    | _ => operated call false "**" first second
  | "round" => some do
    match first, argument? args named 1 "ndigits" with
    | .real x, none | .real x, some .none =>
      match nearestWhole x with
      | some n => return .int n
      | none => return .int (← wholeOf x)
    | .real x, some p => do return .real (roundedReal x (← needInt p))
    | v, p =>
      match int? v with
      | some n =>
        let places := (p.bind int?).getD 0
        if 0 ≤ places then return .int n
        else
          let unit := Nat.pow 10 (-places).toNat
          let r : Int := Double.roundDiv n.natAbs unit * unit
          return .int (if n < 0 then -r else r)
      | none => match ← special? v "__round__" with
        | some f => call f [v] []
        | none => do
          let kind ← typeName v
          typeError s!"type {kind} doesn't define __round__ method"
  | "hex" => some do return basedText "0x" 16 (← needInt first)
  | "oct" => some do return basedText "0o" 8 (← needInt first)
  | "bin" => some do return basedText "0b" 2 (← needInt first)
  | "chr" => some do
    let n ← needInt first
    if n < 0 || 0x110000 ≤ n then valueError "chr() arg not in range(0x110000)"
    else return .text [letterOf n.toNat]
  | "ord" => some do
    match first with
    | .text [c] => return .int (codeOf c)
    | .bytes [c] => return .int c.toNat
    | .text o =>
      let n := o.length
      typeError s!"ord() expected a character, but string of length {n} found"
    | v => do
      let kind ← typeName v
      typeError s!"ord() expected string of length 1, but {kind} found"
  | "sum" => some do
    let start := (argument? args named 1 "start").getD (.int 0)
    match start with
    | .text _ => typeError "sum() can't sum strings [use ''.join(seq) instead]"
    | start => do sumOf call start (← itemsOf call first)
  | "hash" => some do
    match ← unhashable? first with
    | some kind => typeError s!"unhashable type: '{kind}'"
    | none => return .int ((int? first).getD 0)
  | "id" => some do
    match first with
    | .ref a => return .int (140000000000000 + 64 * a)
    | _ => return .int 140000000000000
  | _ => none
where
  /-- a power by a modulus -/
  powerMod (a : Int) (b : Nat) (m : Int) : Int :=
    let rec go : Nat → Int → Nat → Int → Int
      | 0, _, _, acc => acc
      | _, _, 0, acc => acc
      | fuel + 1, base, n, acc =>
        go fuel (Int.fmod (base * base) m) (n / 2) (if n % 2 = 1 then Int.fmod (acc * base) m else acc)
    go (b.log2 + 2) (Int.fmod a m) b (Int.fmod 1 m)
  /-- the character of a number; half of a pair has a place of its own -/
  letterOf (n : Nat) : Char := if 0xD800 ≤ n && n < 0xE000 then Char.ofNat (0x10F800 + (n - 0xD800)) else Char.ofNat n
  /-- the number of a character; one that stands for half of a pair has that half's -/
  codeOf (c : Char) : Nat := if 0x10F800 ≤ c.toNat then c.toNat - 0x10F800 + 0xD800 else c.toNat

/-! ## Texts -/

/-- bytes of a value -/
def toBytesValue (call : Caller) (args : List Value) (named : List (String × Value)) : Work Value := do
  match args with
  | [] => return .bytes []
  | .text o :: rest =>
    if rest.isEmpty && named.isEmpty then typeError "string argument without an encoding"
    else textMethod call false o "encode" rest named
  | .bytes o :: _ => return .bytes o
  | v :: _ =>
    match int? v with
    | some n => if n < 0 then valueError "negative count" else return .bytes (List.replicate n.toNat '\x00')
    | none => do
      let each ← (← itemsOf call v).mapM fun x => do
        let n ← needInt x
        if n < 0 || 255 < n then valueError "bytes must be in range(0, 256)"
        return Char.ofNat n.toNat
      return .bytes each

/-- where a program writes: what the name of a stream leads to now -/
def streamOf (name : String) : Work Value := do return (← moduleAttribute? "sys" name).getD .none

/-- writes a text to what can be written to -/
def writeTo (call : Caller) (target : Value) (o : Characters) : Work Unit := do
  match target, ← thing? target with
  | .ref a, some (.file _) => do
    let _ ← writeFile a (.text o)
  | target, _ => do
    let f ← getAttribute call target "write"
    let _ ← call f [.text o] []

/-- writes values with something between them and something after them -/
def printValues (call : Caller) (args : List Value) (named : List (String × Value)) : Work Value := do
  for (name, _) in named do
    if !(["sep", "end", "file", "flush"].contains name) then
      typeError s!"print() got an unexpected keyword argument '{name}'"
  let option (name usual : String) : Work Characters := do
    match (named.lookup name).getD .none with
    | .none => return usual.toList
    | .text o => return o
    | v => do
      let kind ← typeName v
      typeError s!"{name} must be None or a string, not {kind}"
  let between ← option "sep" " "
  let last ← option "end" "\n"
  let target ← match (named.lookup "file").getD .none with
    | .none => streamOf "stdout"
    | v => pure v
  if sameKey target .none then return .none
  for (v, i) in args.zipIdx do
    if i != 0 && !between.isEmpty then writeTo call target between
    writeTo call target (← shown call v)
  if !last.isEmpty then writeTo call target last
  match named.lookup "flush" with
  | some v => if ← isTrue call v then flush
  | none => pure ()
  return .none

/-- the functions about texts -/
def textBuiltin? (call : Caller) (name : String) (args : List Value) (named : List (String × Value)) :
    Option (Work Value) :=
  let first := args.headD .none
  match name with
  | "str" => some do
    match args, argument? args named 1 "encoding" with
    | [], _ => return .text []
    | .bytes o :: _, some e => bytesMethod call o "decode" (e :: args.drop 2) (named.filter fun n => n.1 == "errors")
    | v :: _, _ => do return .text (← shown call v)
  | "repr" => some do return .text (← displayed call valueDepth first)
  | "ascii" => some do
    let o ← displayed call valueDepth first
    return .text (o.flatMap fun c => if c.toNat < 128 then [c]
      else if c.toNat < 256 then '\\' :: 'x' :: hexDigits 2 c.toNat
      else if c.toNat < 0x10000 then '\\' :: 'u' :: hexDigits 4 c.toNat
      else '\\' :: 'U' :: hexDigits 8 c.toNat)
  | "format" => some do
    let spec := match args.drop 1 with
      | .text o :: _ => o
      | _ => []
    return .text (← inForm call first spec)
  | "bytes" | "bytearray" => some (toBytesValue call args named)
  | "len" => some do
    if args.length != 1 then
      let n := args.length
      typeError s!"len() takes exactly one argument ({n} given)"
    return .int (← lengthOf call first)
  | "print" => some (printValues call args named)
  | "input" => some do
    match args with
    | v :: _ => do writeTo call (← streamOf "stdout") (← shown call v)
    | [] => pure ()
    let source ← streamOf "stdin"
    match source, ← thing? source with
    | .ref a, some (.file _) => do
      let line ← takeFileLine a none
      if line.isEmpty then raise "EOFError" "EOF when reading a line"
      else return .text (if line.getLast? == some '\n' then line.dropLast else line)
    | _, _ => raise "RuntimeError" "input(): lost sys.stdin"
  | "open" => some do
    let mode := match argument? args named 1 "mode" with
      | some (.text m) => String.ofList m
      | _ => "r"
    openFile first mode
  | _ => none

/-! ## Items -/

/-- takes the next item of each; none when one has ended -/
def nextOfEach (call : Caller) (walks : List Value) : Work (Option (List Value)) := do
  match walks with
  | [] => return some []
  | w :: rest => do
    match ← nextItem call w with
    | none => return none
    | some v => do
      match ← nextOfEach call rest with
      | none => return none
      | some more => return some (v :: more)

/-- values of several walks side by side, until the first one ends -/
def sideBySide (call : Caller) : Nat → List Value → Work (List (List Value))
  | 0, _ => throw .stuck
  | fuel + 1, walks => do
    match ← nextOfEach call walks with
    | none => return []
    | some row => return row :: (← sideBySide call fuel walks)

/-- the least or the greatest of values -/
def extreme (call : Caller) (name operator : String) (args : List Value) (named : List (String × Value)) : Work Value := do
  let items ← match args with
    | [] => typeError s!"{name} expected at least 1 argument, got 0"
    | [only] => itemsOf call only
    | several => pure several
  let keyOf (v : Value) : Work Value := do
    match (named.lookup "key").getD .none with
    | .none => return v
    | f => call f [v] []
  match items with
  | [] =>
    match named.lookup "default" with
    | some v => return v
    | none => valueError s!"{name}() iterable argument is empty"
  | v :: rest => do
    let mut best := v
    let mut key ← keyOf v
    for w in rest do
      let k ← keyOf w
      if ← compared call valueDepth operator k key then
        best := w
        key := k
    return best

/-- makes a set of items -/
def makeSet (call : Caller) (frozen : Bool) (args : List Value) : Work Value := do
  let items ← match args with
    | [] => pure []
    | v :: _ => itemsOf call v
  let mut kept : List Value := []
  for v in items do
    kept := putItem (← asKey v) kept
  allocate (.set frozen kept)

/-- a part of what is gone through -/
def sliceOfItems (call : Caller) (args : List Value) : Work Value := do
  let walk ← startItems call (args.headD .none)
  let number (v : Value) : Option Nat := (int? v).map Int.toNat
  let (start, stop, step) : Nat × Option Nat × Nat := match args.drop 1 with
    | [stop] => (0, number stop, 1)
    | [start, stop] => ((number start).getD 0, number stop, 1)
    | start :: stop :: step :: _ => ((number start).getD 0, number stop, (number step).getD 1)
    | [] => (0, none, 1)
  let mut taken : List Value := []
  let bound := stop.getD itemLimit
  let mut ended := false
  for i in List.range bound do
    if !ended then
      match ← nextItem call walk with
      | none => ended := true
      | some v => if start ≤ i && (i - start) % (max step 1) = 0 then taken := v :: taken
    else break
  allocate (.iterator taken.reverse)

/-- the functions about items -/
def itemBuiltin? (call : Caller) (name : String) (args : List Value) (named : List (String × Value)) :
    Option (Work Value) :=
  let first := args.headD .none
  let firstItems : Work (List Value) := if args.isEmpty then return [] else itemsOf call first
  match name with
  | "list" | "deque" => some do makeList (← firstItems)
  | "tuple" => some do return .tuple (← firstItems)
  | "set" => some (makeSet call false args)
  | "frozenset" => some (makeSet call true args)
  | "dict" | "OrderedDict" => some do
    let entries ← if args.isEmpty then pure [] else entriesOf call first
    let more : List (Value × Value) := named.map fun (n, v) => (textValue n, v)
    allocate (.dict name .none ((entries ++ more).foldl (fun acc (k, v) => putEntry k v acc) []))
  | "Counter" => some do
    let entries ← if args.isEmpty then pure [] else countItems call 1 [] first
    allocate (.dict "Counter" .none (named.foldl (fun acc (n, v) => putEntry (textValue n) v acc) entries))
  | "defaultdict" => some do
    let entries ← match args.drop 1 with
      | v :: _ => entriesOf call v
      | [] => pure []
    allocate (.dict "defaultdict" first (entries ++ named.map fun (n, v) => (textValue n, v)))
  | "range" => some do
    match ← args.mapM needInt with
    | [stop] => return .range 0 stop 1
    | [start, stop] => return .range start stop 1
    | [start, stop, step] => if step == 0 then valueError "range() arg 3 must not be zero" else return .range start stop step
    | [] => typeError "range expected at least 1 argument, got 0"
    | more =>
      let n := more.length
      typeError s!"range expected at most 3 arguments, got {n}"
  | "slice" => some do
    match args with
    | [stop] => return .slice .none stop .none
    | [start, stop] => return .slice start stop .none
    | _ => return .slice first ((args[1]?).getD .none) ((args[2]?).getD .none)
  | "enumerate" => some do
    let start := ((argument? args named 1 "start").bind int?).getD 0
    let items ← firstItems
    allocate (.iterator (items.zipIdx.map fun (x : Value × Nat) => .tuple [.int (start + x.2), x.1]))
  | "zip" => some do
    if args.isEmpty then allocate (.iterator [])
    else do
      let walks ← args.mapM (startItems call)
      let rows ← sideBySide call itemLimit walks
      allocate (.iterator (rows.map .tuple))
  | "map" => some do
    let walks ← (args.drop 1).mapM (startItems call)
    let rows ← sideBySide call itemLimit walks
    allocate (.iterator (← rows.mapM fun row => call first row []))
  | "filter" => some do
    let items ← itemsOf call ((args[1]?).getD .none)
    let kept ← items.filterM fun v => do
      match first with
      | .none => isTrue call v
      | f => isTrue call (← call f [v] [])
    allocate (.iterator kept)
  | "reversed" => some do
    match ← special? first "__reversed__" with
    | some f => call f [first] []
    | none => do
      match ← thing? first with
      | some (.set _ _) => typeError "'set' object is not reversible"
      | some (.iterator _) => typeError "'generator' object is not reversible"
      | _ => allocate (.iterator (← itemsOf call first).reverse)
  | "sorted" => some do
    let (key, descending) ← sortOptions call named
    makeList (← sortedItems call key descending (← itemsOf call first))
  | "any" => some do return .bool (← (← itemsOf call first).anyM (isTrue call))
  | "all" => some do return .bool (← (← itemsOf call first).allM (isTrue call))
  | "min" => some (extreme call "min" "<" args named)
  | "max" => some (extreme call "max" ">" args named)
  | "iter" => some do
    match args with
    | [f, last] => do
      let rec calls : Nat → Work (List Value)
        | 0 => throw .stuck
        | fuel + 1 => do
          let v ← call f [] []
          if ← areEqual call valueDepth v last then return [] else return v :: (← calls fuel)
      allocate (.iterator (← calls itemLimit))
    | _ => startItems call first
  | "next" => some do
    match ← nextItem call first, args.drop 1 with
    | some v, _ => return v
    | none, v :: _ => return v
    | none, [] => raiseWith "StopIteration" []
  | "itertools.islice" => some (sliceOfItems call args)
  | _ => none

/-! ## Objects -/

/-- the names that a value has something under -/
def namesIn (v : Value) : Work (List String) := do
  match ← thing? v with
  | some (.instanceOf kind attributes) => do
    let shared ← (← lineage classDepth kind).mapM fun c => do
      match ← thing? c with
      | some (.classOf _ _ attributes) => return attributes.map Prod.fst
      | _ => return []
    return (attributes.map Prod.fst).filter (fun n => n.front? != some ' ') ++ shared.flatten
  | some (.classOf _ _ attributes) => return attributes.map Prod.fst
  | _ =>
    match v with
    | .module m => do
      let own ← match (← get).modules.lookup m with
        | some a => match ← thingAt a with
          | .scope values _ _ _ => pure (values.map Prod.fst)
          | _ => pure []
        | none => pure []
      return moduleFunctions m ++ moduleConstants m ++ own
    | .builtin n => return typeMethodNames n
    | v => return typeMethodNames (← typeName v)

/-- the functions about objects -/
def objectBuiltin? (call : Caller) (name : String) (args : List Value) : Option (Work Value) :=
  let first := args.headD .none
  let second := (args[1]?).getD .none
  let nameOf (v : Value) : Work String := do
    match v with
    | .text o => return String.ofList o
    | v => do
      let kind ← typeName v
      typeError s!"attribute name must be string, not '{kind}'"
  match name with
  | "type" => some do
    match args with
    | [.text n, bases, d] => do
      let bases ← itemsOf call bases
      let entries ← entriesOf call d
      let attributes ← entries.mapM fun (k, v) => do return (← nameOf k, v)
      allocate (.classOf (String.ofList n) bases attributes)
    | _ => classOf first
  | "isinstance" => some do return .bool (← isInstance 50 first second)
  | "issubclass" => some do
    match second with
    | .tuple items => return .bool (← items.anyM (comesFrom first))
    | c => return .bool (← comesFrom first c)
  | "callable" => some do
    match first with
    | .builtin _ | .method .. | .bound .. => return .bool true
    | v => match ← thing? v with
      | some (.function _) | some (.classOf ..) | some (.partialCall ..) => return .bool true
      | some (.instanceOf ..) => return .bool (← special? v "__call__").isSome
      | _ => return .bool false
  | "getattr" => some do
    let n ← nameOf second
    match args.drop 2 with
    | v :: _ => do
      match ← tryCatch (findAttribute? call first n) fun
        | .raised e trace => do
          if (← exceptionName e) == "AttributeError" then return none else throw (.raised e trace)
        | other => throw other with
      | some r => return r
      | none => return v
    | [] => getAttribute call first n
  | "hasattr" => some do
    let n ← nameOf second
    return .bool (← findAttribute? call first n).isSome
  | "setattr" => some do
    setAttribute call first (← nameOf second) ((args[2]?).getD .none)
    return .none
  | "delattr" => some do
    deleteAttribute first (← nameOf second)
    return .none
  | "vars" => some (getAttribute call first "__dict__")
  | "dir" => some do
    let names ← namesIn first
    makeList ((names.mergeSort fun a b => a ≤ b).map textValue)
  | "object" => some (allocate (.instanceOf (.builtin "object") []))
  | "property" => some (allocate (.wrapped "property" first second))
  | "staticmethod" => some (allocate (.wrapped "staticmethod" first .none))
  | "classmethod" => some (allocate (.wrapped "classmethod" first .none))
  | "super" => some (allocate (.wrapped "super" second first))
  | "exit" | "quit" | "sys.exit" => some (raiseWith "SystemExit" args)
  | "object.__init__" | "object.__init_subclass__" => some (return .none)
  | "object.__str__" | "object.__repr__" => some do
    let shown ← shownClass (← classOf first)
    return textValue s!"<{shown} object at 0x7f0000000000>"
  | "object.__setattr__" => some do
    match first, ← thing? first with
    | .ref a, some (.instanceOf kind attributes) =>
      update a (.instanceOf kind (putAttribute (← nameOf second) ((args[2]?).getD .none) attributes))
    | _, _ => pure ()
    return .none
  | "help" | "breakpoint" => some (return .none)
  | _ => none

/-- the names of the functions and types that belong to no module -/
def builtinNames : List String :=
  ["abs", "all", "any", "ascii", "bin", "bool", "breakpoint", "bytearray", "bytes", "callable", "chr", "classmethod",
    "compile", "complex", "delattr", "dict", "dir", "divmod", "enumerate", "eval", "exec", "exit", "filter", "float",
    "format", "frozenset", "getattr", "globals", "hasattr", "hash", "help", "hex", "id", "input", "int", "isinstance",
    "issubclass", "iter", "len", "list", "locals", "map", "max", "memoryview", "min", "next", "object", "oct", "open", "ord",
    "pow", "print", "property", "quit", "range", "repr", "reversed", "round", "set", "setattr", "slice", "sorted",
    "staticmethod", "str", "sum", "super", "tuple", "type", "vars", "zip", "BaseException", "Exception", "SystemExit",
    "KeyboardInterrupt", "GeneratorExit", "ArithmeticError", "ZeroDivisionError", "OverflowError", "FloatingPointError",
    "LookupError", "IndexError", "KeyError", "ImportError", "ModuleNotFoundError", "NameError", "UnboundLocalError",
    "RuntimeError", "RecursionError", "NotImplementedError", "OSError", "FileNotFoundError", "FileExistsError",
    "PermissionError", "IsADirectoryError", "NotADirectoryError", "BlockingIOError", "BrokenPipeError", "ConnectionError",
    "TimeoutError", "ProcessLookupError", "InterruptedError", "ChildProcessError", "ValueError", "UnicodeError",
    "UnicodeDecodeError", "UnicodeEncodeError", "SyntaxError", "IndentationError", "TabError", "TypeError",
    "AttributeError", "AssertionError", "StopIteration", "StopAsyncIteration", "EOFError", "MemoryError", "BufferError",
    "ReferenceError", "SystemError", "Warning", "DeprecationWarning", "UserWarning", "RuntimeWarning", "SyntaxWarning",
    "FutureWarning"]

/-- the value of a name that belongs to no module -/
def builtinValue? (name : String) : Option Value :=
  match name with
  | "IOError" | "EnvironmentError" => some (.builtin "OSError")
  | "NotImplemented" => some .unknown
  | "Ellipsis" => some .ellipsis
  | "__debug__" => some (.bool true)
  | "__builtins__" => some (.module "builtins")
  | name => if builtinNames.contains name then some (.builtin name) else none

end ScriptBridge.Shell.BlockScript
