/-
What modules do with numbers, with items of values, and with functions.
-/
import ScriptBridge.Shell.BlockScript.Builtin

namespace ScriptBridge.Shell.BlockScript

/-! ## Numbers -/

/-- the real number that a value is, or an error about its type -/
def needReal (call : Caller) (v : Value) : Work Extended := do
  match real? v with
  | some x => return x
  | none => match ← special? v "__float__" with
    | some f => match ← call f [v] [] with
      | .real x => return x
      | _ => return .zero
    | none => do
      let kind ← typeName v
      typeError s!"must be real number, not {kind}"

/-- the whole number that is not above a real one -/
def floorOf (x : Extended) : Work Int := do
  let n ← wholeOf x
  return if (Extended.ofInt n).order? x == some .gt then n - 1 else n

/-- the product of numbers below a bound -/
def factorialOf : Nat → Nat
  | 0 => 1
  | n + 1 => (n + 1) * factorialOf n

/-- how many ways there are to choose -/
def choices (n k : Nat) : Nat := if n < k then 0 else factorialOf n / (factorialOf k * factorialOf (n - k))

/-- the greatest number whose square is not above another one -/
def wholeSquareRoot (n : Nat) : Nat :=
  let rec go : Nat → Nat → Nat
    | 0, r => r
    | fuel + 1, r =>
      let next := (r + n / max r 1) / 2
      if next < r then go fuel next else r
  if n = 0 then 0 else go (n.log2 + 10) (Nat.pow 2 (n.log2 / 2 + 1))

/-- the functions about numbers -/
def numberModule? (call : Caller) (name : String) (args : List Value) (named : List (String × Value)) :
    Option (Work Value) :=
  let first := args.headD .none
  let second := (args[1]?).getD .none
  let machine (f : Float → Float) : Option (Work Value) := some do
    return .real (.ofFloat (f (← needReal call first).toFloat))
  let logarithm (f : Float → Float) : Option (Work Value) := some do
    let x ← needReal call first
    if x.isZero || x.isNegative then valueError "math domain error"
    let r := f x.toFloat
    match args.drop 1 with
    | b :: _ => do return .real (.ofFloat (r / Float.log (← needReal call b).toFloat))
    | [] => return .real (.ofFloat r)
  let wholeArgs : Work (List Int) := args.mapM needInt
  match name with
  | "math.floor" => some do
    match int? first with
    | some n => return .int n
    | none => do return .int (← floorOf (← needReal call first))
  | "math.ceil" => some do
    match int? first with
    | some n => return .int n
    | none => do return .int (-(← floorOf (← needReal call first).neg))
  | "math.trunc" => some do return .int (← wholeOf (← needReal call first))
  | "math.sqrt" => some do
    let x ← needReal call first
    if x.isNegative && !x.isZero then valueError "math domain error" else return .real x.root
  | "math.isqrt" => some do return .int (wholeSquareRoot (← needInt first).toNat)
  | "math.gcd" => some do
    let n : Nat := (← wholeArgs).foldl (fun a b => a.gcd b.natAbs) 0
    return .int n
  | "math.lcm" => some do
    let n : Nat := (← wholeArgs).foldl (fun a b => a.lcm b.natAbs) 1
    return .int n
  | "math.factorial" => some do
    let n ← needInt first
    if n < 0 then valueError "factorial() not defined for negative values" else return .int (factorialOf n.toNat)
  | "math.comb" => some do return .int (choices (← needInt first).toNat (← needInt second).toNat)
  | "math.perm" => some do
    let n := (← needInt first).toNat
    let k ← if args.length < 2 then pure n else Int.toNat <$> needInt second
    return .int (if n < k then 0 else factorialOf n / factorialOf (n - k))
  | "math.fabs" => some do
    let x ← needReal call first
    return .real (if x.isNegative then x.neg else x)
  | "math.pow" => some do return .real ((← needReal call first).pow (← needReal call second))
  | "math.fmod" => some do return .real ((← needReal call first).rem (← needReal call second))
  | "math.copysign" => some do
    let x ← needReal call first
    let y ← needReal call second
    return .real (if x.isNegative == y.isNegative then x else x.neg)
  | "math.isnan" => some do return .bool ((← needReal call first) == .notANumber)
  | "math.isinf" => some do
    match ← needReal call first with
    | .infinite _ => return .bool true
    | _ => return .bool false
  | "math.isfinite" => some do
    match ← needReal call first with
    | .finite _ => return .bool true
    | _ => return .bool false
  | "math.isclose" => some do
    let x ← needReal call first
    let y ← needReal call second
    let size (x : Extended) : Extended := if x.isNegative then x.neg else x
    let bound (n : String) (usual : Extended) : Extended := ((named.lookup n).bind real?).getD usual
    let larger := if (size x).order? (size y) == some .lt then size y else size x
    let relative := larger.mul (bound "rel_tol" (.ofQuotient false 1 1000000000))
    let limit := if relative.order? (bound "abs_tol" .zero) == some .lt then bound "abs_tol" .zero else relative
    return .bool (x == y || (size (x.sub y)).order? limit != some .gt)
  | "math.hypot" => some do
    let xs ← args.mapM (needReal call)
    return .real (xs.foldl (fun acc x => acc.add (x.mul x)) Extended.zero).root
  | "math.prod" => some do
    let mut total := (named.lookup "start").getD (.int 1)
    for v in ← itemsOf call first do
      total ← operated call false "*" total v
    return total
  | "math.fsum" => some do
    match ← sumOf call (.real .zero) (← itemsOf call first) with
    | .real x => return .real x
    | v => return v
  | "math.log" => logarithm Float.log
  | "math.log2" => logarithm Float.log2
  | "math.log10" => logarithm Float.log10
  | "math.exp" => machine Float.exp
  | "math.sin" => machine Float.sin
  | "math.cos" => machine Float.cos
  | "math.tan" => machine Float.tan
  | "math.atan" => machine Float.atan
  | "math.atan2" => some do
    return .real (.ofFloat (Float.atan2 (← needReal call first).toFloat (← needReal call second).toFloat))
  | "math.degrees" => machine fun x => x * (180.0 / 3.141592653589793)
  | "math.radians" => machine fun x => x * (3.141592653589793 / 180.0)
  | _ => none

/-! ## Items -/

/-- the choices of so many items, in order -/
def combinationsOf {α : Type} : Nat → List α → List (List α)
  | 0, _ => [[]]
  | _ + 1, [] => []
  | k + 1, x :: rest => (combinationsOf k rest).map (x :: ·) ++ combinationsOf (k + 1) rest

/-- the arrangements of so many items -/
def permutationsOf {α : Type} : Nat → List α → List (List α)
  | 0, _ => [[]]
  | k + 1, items =>
    (List.range items.length).flatMap fun i =>
      match items[i]? with
      | some x => (permutationsOf k (items.eraseIdx i)).map (x :: ·)
      | none => []

/-- rows with an item of each list -/
def productOf {α : Type} (lists : List (List α)) : List (List α) :=
  lists.foldr (fun items rows => items.flatMap fun x => rows.map (x :: ·)) [[]]

/-- items in groups of neighbours with the same key -/
def groupedBy (call : Caller) : List (Value × Value) → Work (List (Value × List Value))
  | [] => return []
  | (k, v) :: rest => do
    match ← groupedBy call rest with
    | (k', vs) :: groups =>
      if ← areEqual call valueDepth k k' then return (k, v :: vs) :: groups else return (k, [v]) :: (k', vs) :: groups
    | [] => return [(k, [v])]

/-- the functions about items -/
def itemModule? (call : Caller) (name : String) (args : List Value) (named : List (String × Value)) :
    Option (Work Value) :=
  let first := args.headD .none
  let second := (args[1]?).getD .none
  let walk (items : Work (List Value)) : Option (Work Value) := some do allocate (.iterator (← items))
  let pools : Work (List (List Value)) := args.mapM (itemsOf call)
  match name with
  | "itertools.chain" => walk do return (← pools).flatten
  | "itertools.chain.from_iterable" => walk do return (← (← itemsOf call first).mapM (itemsOf call)).flatten
  | "itertools.count" => some do
    let start := (argument? args named 0 "start").getD (.int 0)
    allocate (.counter start ((argument? args named 1 "step").getD (.int 1)))
  | "itertools.repeat" => some do
    match argument? args named 1 "times" with
    | some n => allocate (.iterator (List.replicate ((int? n).getD 0).toNat first))
    | none => allocate (.iterator (List.replicate 10000 first))
  | "itertools.cycle" => walk do
    let items ← itemsOf call first
    return if items.isEmpty then [] else (List.replicate (10000 / items.length + 1) items).flatten
  | "itertools.groupby" => walk do
    let key := (argument? args named 1 "key").getD .none
    let pairs ← (← itemsOf call first).mapM fun v => do
      match key with
      | .none => return (v, v)
      | f => return (← call f [v] [], v)
    (← groupedBy call pairs).mapM fun (k, vs) => do return .tuple [k, ← allocate (.iterator vs)]
  | "itertools.zip_longest" => walk do
    let lists ← pools
    let fill := (named.lookup "fillvalue").getD .none
    let n := lists.foldl (fun n l => max n l.length) 0
    return (List.range n).map fun i => .tuple (lists.map fun l => (l[i]?).getD fill)
  | "itertools.accumulate" => walk do
    let f := (argument? args named 1 "func").getD .none
    let items ← itemsOf call first
    let items := match named.lookup "initial" with
      | some .none | none => items
      | some v => v :: items
    match items with
    | [] => return []
    | v :: rest => do
      let mut total := v
      let mut out := [v]
      for w in rest do
        total ← match f with
          | .none => operated call false "+" total w
          | f => call f [total, w] []
        out := total :: out
      return out.reverse
  | "itertools.product" => walk do
    let lists ← pools
    let n := ((named.lookup "repeat").bind int?).getD 1
    return (productOf (List.replicate n.toNat lists).flatten).map .tuple
  | "itertools.permutations" => walk do
    let items ← itemsOf call first
    return (permutationsOf (((int? second).map Int.toNat).getD items.length) items).map .tuple
  | "itertools.combinations" => walk do
    return (combinationsOf ((int? second).getD 0).toNat (← itemsOf call first)).map .tuple
  | "itertools.takewhile" => walk do
    let mut out : List Value := []
    for v in ← itemsOf call second do
      if ← isTrue call (← call first [v] []) then out := v :: out else break
    return out.reverse
  | "itertools.dropwhile" => walk do
    let mut items ← itemsOf call second
    for v in items do
      if ← isTrue call (← call first [v] []) then items := items.drop 1 else break
    return items
  | "itertools.filterfalse" => walk do
    (← itemsOf call second).filterM fun v => do
      match first with
      | .none => return !(← isTrue call v)
      | f => return !(← isTrue call (← call f [v] []))
  | "itertools.compress" => walk do
    let kept ← ((← itemsOf call first).zip (← itemsOf call second)).filterM fun (_, s) => isTrue call s
    return kept.map Prod.fst
  | "itertools.starmap" => walk do (← itemsOf call second).mapM fun row => do call first (← itemsOf call row) []
  | "itertools.pairwise" => walk do
    let items ← itemsOf call first
    return (items.zip (items.drop 1)).map fun (a, b) => .tuple [a, b]
  | "itertools.batched" => walk do
    let n := ((int? second).getD 1).toNat
    let items ← itemsOf call first
    return (List.range ((items.length + n - 1) / max n 1)).map fun i => .tuple ((items.drop (i * n)).take n)
  | "itertools.tee" => some do
    let items ← itemsOf call first
    let n := ((argument? args named 1 "n").bind int?).getD 2
    return .tuple (← (List.replicate n.toNat ()).mapM fun _ => allocate (.iterator items))
  | "namedtuple" => some do
    let fields ← match second with
      | .text o => pure ((wordsOf (o.length + 1) none (o.map fun c => if c == ',' then ' ' else c)).map Value.text)
      | v => itemsOf call v
    let title := match first with
      | .text o => String.ofList o
      | _ => "tuple"
    allocate (.classOf title [] [("_fields", .tuple fields), (" defaults", (named.lookup "defaults").getD .none)])
  | _ => none

/-! ## Functions -/

/-- the operator that a function stands for -/
def operatorOf? (name : String) : Option (String × Bool) :=
  match name with
  | "add" | "concat" => some ("+", false)
  | "sub" => some ("-", false)
  | "mul" => some ("*", false)
  | "truediv" => some ("/", false)
  | "floordiv" => some ("//", false)
  | "mod" => some ("%", false)
  | "and_" => some ("&", false)
  | "or_" => some ("|", false)
  | "xor" => some ("^", false)
  | "eq" => some ("==", true)
  | "ne" => some ("!=", true)
  | "lt" => some ("<", true)
  | "le" => some ("<=", true)
  | "gt" => some (">", true)
  | "ge" => some (">=", true)
  | _ => none

/-- copies a value with all that lies in it -/
def copied : Nat → Value → Work Value
  | 0, v => return v
  | fuel + 1, v => do
    match v with
    | .tuple items => do return .tuple (← items.mapM (copied fuel))
    | v =>
      match ← thing? v with
      | some (.list items) => do makeList (← items.mapM (copied fuel))
      | some (.dict kind d entries) => do
        allocate (.dict kind d (← entries.mapM fun (k, v) => do return (k, ← copied fuel v)))
      | some (.set frozen items) => allocate (.set frozen items)
      | some (.instanceOf kind attributes) => do
        allocate (.instanceOf kind (← attributes.mapM fun (n, v) => do return (n, ← copied fuel v)))
      | _ => return v

/-- the functions about functions -/
def functionModule? (call : Caller) (name : String) (args : List Value) (named : List (String × Value)) :
    Option (Work Value) :=
  let first := args.headD .none
  let second := (args[1]?).getD .none
  match name with
  | "functools.reduce" => some do
    let items ← itemsOf call second
    let items := args.drop 2 ++ items
    match items with
    | [] => typeError "reduce() of empty iterable with no initial value"
    | v :: rest => do
      let mut total := v
      for w in rest do
        total ← call first [total, w] []
      return total
  | "functools.partial" => some (allocate (.partialCall first (args.drop 1) named))
  | "functools.lru_cache" | "functools.cache" => some do
    match args with
    | [.int _] | [.none] | [] => return .builtin "functools.same"
    | f :: _ => return f
  | "functools.wraps" => some (return .builtin "functools.same")
  | "functools.same" | "functools.total_ordering" | "typing.cast" => some (return args.getLast?.getD .none)
  | "operator.itemgetter" | "operator.attrgetter" | "operator.methodcaller" =>
    some (allocate (.partialCall (.builtin (name ++ " of")) [.tuple args] []))
  | "operator.itemgetter of" => some do
    match first with
    | .tuple [only] => itemAt call second only
    | .tuple keys => do return .tuple (← keys.mapM fun k => itemAt call second k)
    | _ => return .none
  | "operator.attrgetter of" => some do
    let get (n : Value) : Work Value := do
      match n with
      | .text o => do
        let mut v := second
        for part in cutBy ['.'] (o.length + 1) none o [] do
          v ← getAttribute call v (String.ofList part)
        return v
      | _ => typeError "attribute name must be a string"
    match first with
    | .tuple [only] => get only
    | .tuple names => do return .tuple (← names.mapM get)
    | _ => return .none
  | "operator.methodcaller of" => some do
    match first with
    | .tuple (.text n :: rest) => do call (← getAttribute call second (String.ofList n)) rest []
    | _ => return .none
  | "operator.neg" => some (negated call "-" first)
  | "operator.not_" => some (negated call "not" first)
  | "operator.contains" => some do return .bool (← contains call first second)
  | "operator.getitem" => some (itemAt call first second)
  | "copy.copy" => some (copied 1 first)
  | "copy.deepcopy" => some (copied 100 first)
  | "contextlib.suppress" => some (allocate (.instanceOf (.builtin "suppress") [("kinds", .tuple args)]))
  | "typing.TypeVar" => some (return .builtin "object")
  | _ =>
    match name.splitOn "." with
    | ["operator", n] => (operatorOf? n).map fun (mark, compares) =>
      if compares then comparison call mark first second else operated call false mark first second
    | _ => none

end ScriptBridge.Shell.BlockScript
