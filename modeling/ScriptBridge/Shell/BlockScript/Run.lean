/-
Running a program. Expressions come to values and statements change names; a function runs with a scope of its own inside
the one that it was made in. Each call uses up fuel, so every run ends.

A failure is given the place of the innermost expression that has one, and a further place for each call that it comes
through. A function that yields values runs to its end when it is called, and what it yielded is gone through later.
-/
import ScriptBridge.Shell.BlockScript.Call
import ScriptBridge.Shell.BlockScript.Reader

namespace ScriptBridge.Shell.BlockScript

/-! ## Scopes -/

/-- how deep scopes may lie in each other -/
def scopeDepth : Nat := 200

/-- what a name means in a scope; `own` says that the scope is the one that runs -/
def nameValue? (name : String) : Nat → Bool → Nat → Work (Option Value)
  | 0, _, _ => return none
  | fuel + 1, own, a => do
    match ← thingAt a with
    | .scope values parent locals isClass =>
      match if own || !isClass then attribute? name values else none with
      | some v => return some v
      | none =>
        if locals.contains name && !isClass then
          if own then
            raise "UnboundLocalError" s!"cannot access local variable '{name}' where it is not associated with a value"
          else
            raise "NameError"
              s!"cannot access free variable '{name}' where it is not associated with a value in enclosing scope"
        else match parent with
          | some p =>
            -- the scope of a comprehension sees what the scope around it sees
            nameValue? name fuel (own && (attribute? " inner" values).isSome) p
          | none => return none
    | _ => return none

/-- what a name means -/
def nameValue (scope : Nat) (name : String) : Work Value := do
  match ← nameValue? name scopeDepth true scope with
  | some v => return v
  | none =>
    match builtinValue? name with
    | some v => return v
    | none => do
      let e ← allocate (.instanceOf (.builtin "NameError")
        [("args", .tuple [textValue s!"name '{name}' is not defined"]), ("name", textValue name)])
      throw (.raised e [])

/-- the scope that a name is given a value in -/
def scopeOf (name : String) : Nat → Bool → Nat → Work Nat
  | 0, _, a => return a
  | fuel + 1, own, a => do
    match ← thingAt a with
    | .scope _ parent locals isClass =>
      match parent with
      | none => return a
      | some p => if (own && isClass) || (!isClass && locals.contains name) then return a else scopeOf name fuel false p
    | _ => return a

/-- gives a name a value -/
def assignName (scope : Nat) (name : String) (v : Value) : Work Unit := do
  let a ← scopeOf name scopeDepth true scope
  match ← thingAt a with
  | .scope values parent locals isClass => update a (.scope (putAttribute name v values) parent locals isClass)
  | _ => pure ()

/-- takes the value of a name -/
def deleteName (scope : Nat) (name : String) : Work Unit := do
  let a ← scopeOf name scopeDepth true scope
  match ← thingAt a with
  | .scope values parent locals isClass =>
    if (attribute? name values).isSome then
      update a (.scope (values.filter fun x => x.1 != name) parent locals isClass)
    else if parent.isNone then raise "NameError" s!"name '{name}' is not defined"
    else raise "UnboundLocalError" s!"cannot access local variable '{name}' where it is not associated with a value"
  | _ => pure ()

/-- the scope around comprehensions -/
def outerScope : Nat → Nat → Work Nat
  | 0, a => return a
  | fuel + 1, a => do
    match ← thingAt a with
    | .scope values (some p) _ _ => if (attribute? " inner" values).isSome then outerScope fuel p else return a
    | _ => return a

/-! ## Failures -/

/-- an action at a place: a failure that has no place in this call yet gets it -/
def located {α : Type} (span : Span) (w : Work α) : Work α :=
  tryCatch w fun
    | .raised e trace => do
      let s ← get
      if trace.isEmpty then
        match s.handled with
        | some h =>
          if !sameKey h e && (attribute? " context" (← objectAttributes e)).isNone then setObjectAttribute e " context" h
        | none => pure ()
      if trace.head?.any fun p => p.depth == s.depth then throw (.raised e trace)
      else throw (.raised e (⟨span, s.frame, s.depth⟩ :: trace))
    | other => throw other

/-- an action, and then another one however it ended -/
def finally' {α : Type} (w : Work α) (last : Work Unit) : Work α := do
  let r ← tryCatch (some <$> w) fun leave => do
    last
    throw leave
  match r with
  | some v => do
    last
    return v
  | none => throw .stuck

/-- keeps the places that an exception came through -/
def keepTrace (e : Value) (trace : List Place) : Work Unit := do
  match e with
  | .ref a => modify fun w => { w with traces := (a, trace) :: w.traces.filter fun t => t.1 != a }
  | _ => pure ()

/-- the places that an exception came through -/
def traceOf (e : Value) : Work (List Place) := do
  match e with
  | .ref a => return ((← get).traces.lookup a).getD []
  | _ => return []

/-- what is raised by a value: itself, or a new exception of its kind -/
def raisedValue (call : Caller) (v : Value) : Work Value := do
  if ← isException v then return v
  else do
    let isKind ← match v with
      | .builtin n => pure (isExceptionKind n)
      | v => match ← thing? v with
        | some (.classOf ..) => comesFrom v (.builtin "BaseException")
        | _ => pure false
    if isKind then call v [] [] else typeError "exceptions must derive from BaseException"

/-- how many calls may lie in each other -/
def callDepth : Nat := 998

/-- how many values a function yields at most -/
def yieldLimit : Nat := 20000

/-- the value of what is written as it is meant -/
def Literal.value : Literal → Value
  | .none => Value.none
  | .bool b => Value.bool b
  | .int n => Value.int n
  | .real x => Value.real x
  | .text o => Value.text o
  | .bytes o => Value.bytes o
  | .ellipsis => Value.ellipsis

/-- the values that are unpacked into so many targets, of which one may take several -/
def unpacked (call : Caller) (v : Value) (before : Nat) (star : Bool) (after : Nat) : Work (List Value) := do
  let items ← tryCatch (itemsOf call v) fun
    | .raised e trace => do
      if (← exceptionName e) == "TypeError" && (← thing? v).isNone || (match v with
          | .int _ => true
          | _ => false) then
        let kind ← typeName v
        typeError s!"cannot unpack non-iterable {kind} object"
      else throw (.raised e trace)
    | other => throw other
  let wanted := before + after
  let got := items.length
  if star then
    if got < wanted then valueError s!"not enough values to unpack (expected at least {wanted}, got {got})"
    else do
      let middle ← makeList ((items.take (got - after)).drop before)
      return items.take before ++ [middle] ++ items.drop (got - after)
  else if got < wanted then valueError s!"not enough values to unpack (expected {wanted}, got {got})"
  else if wanted < got then valueError s!"too many values to unpack (expected {wanted})"
  else return items

/-- the title of a function in what is said about its arguments -/
def titleOf (f : Function) : Work String := do
  match f.owner with
  | some c => match ← thingAt c with
    | .classOf n _ _ => return n ++ "." ++ f.name
    | _ => return f.name
  | none => return f.name

/-- makes the functions of a class its own -/
def ownFunctions (c : Nat) (attributes : List (String × Value)) : Work Unit := do
  let own (v : Value) : Work Unit := do
    match v, ← thing? v with
    | .ref a, some (.function f) => update a (.function { f with owner := some c })
    | _, _ => pure ()
  for (_, v) in attributes do
    own v
    match ← thing? v with
    | some (.wrapped _ f setter) => do
      own f
      own setter
    | _ => pure ()

mutual

/-- calls a value -/
def callValue : Nat → Value → List Value → List (String × Value) → Work Value
  | 0, _, _, _ => throw .stuck
  | fuel + 1, f, args, named => do
    match f with
    | .builtin name => callBuiltin (callValue fuel) name args named
    | .method v name => callMethod (callValue fuel) v name args named
    | .bound object f => callValue fuel f (object :: args) named
    | .ref a =>
      match ← thingAt a with
      | .function g => runFunction fuel g args named
      | .classOf n _ _ => instantiate fuel f n args named
      | .partialCall g first more => callValue fuel g (first ++ args) (more ++ named)
      | .wrapped "staticmethod" g _ => callValue fuel g args named
      | _ =>
        match ← special? f "__call__" with
        | some g => callValue fuel g (f :: args) named
        | none => do
          let kind ← typeName f
          typeError s!"'{kind}' object is not callable"
    | f => do
      let kind ← typeName f
      typeError s!"'{kind}' object is not callable"
termination_by structural fuel => fuel

/-- runs a function -/
def runFunction : Nat → Function → List Value → List (String × Value) → Work Value
  | 0, _, _, _ => throw .stuck
  | fuel + 1, f, args, named => do
    let title ← titleOf f
    let values ← parameterValues title f args named
    let hidden : List (String × Value) := match f.owner, args with
      | some c, self :: _ => [(" class", .ref c), (" self", self)]
      | _, _ => []
    let before ← get
    if callDepth < before.depth then raise "RecursionError" "maximum recursion depth exceeded"
    let scope := before.heap.size
    let _ ← allocate (.scope (values ++ hidden) (some f.scope) f.locals false)
    modify fun w => { w with frame := f.name, depth := w.depth + 1, yielded := if f.yields then [] else w.yielded }
    let run : Work Value := tryCatch (do
        execAll fuel scope f.body
        return Value.none) fun
      | .back v => return v
      | other => throw other
    let restore : Work Unit := modify fun w => { w with
      frame := before.frame
      depth := before.depth
      handled := before.handled
      yielded := if f.yields then before.yielded else w.yielded }
    let (v, items) ← finally' (do
      let v ← run
      return (v, (← get).yielded)) restore
    if f.yields then allocate (.iterator items.reverse) else return v
termination_by structural fuel => fuel

/-- makes an object of a class -/
def instantiate : Nat → Value → String → List Value → List (String × Value) → Work Value
  | 0, _, _, _, _ => throw .stuck
  | fuel + 1, c, title, args, named => do
    let fails ← comesFrom c (.builtin "BaseException")
    let o ← allocate (.instanceOf c (if fails then [("args", .tuple args)] else []))
    match ← classAttribute? c "_fields" with
    | some (.tuple names) => do
      let texts := names.filterMap fun v => match v with
        | .text n => some (String.ofList n)
        | _ => none
      let given ← match ← classAttribute? c " defaults" with
        | some .none | none => pure []
        | some d => do
          let items ← itemsOf (callValue fuel) d
          pure ((texts.drop (texts.length - items.length)).zip items)
      let shared ← texts.filterMapM fun n => do return (← classAttribute? c n).map fun v => (n, v)
      let g : Function := { (default : Function) with
        params := .mk (("self", none) :: texts.map fun n => (n, none)) 0 none [] none
        defaults := given ++ shared }
      let values ← parameterValues (title ++ ".__init__") g (o :: args) named
      let values ← (values.drop 1).mapM fun (n, v) => do
        match ← thing? v with
        | some (.wrapped "field" f _) => do return (n, ← callValue fuel f [] [])
        | _ => return (n, v)
      let ordered := texts.filterMap fun n => (values.lookup n).map fun v => (n, v)
      for (n, v) in ordered do setObjectAttribute o n v
      setObjectAttribute o " fields" (.tuple names)
      match ← classAttribute? c "__post_init__" with
      | some f => do
        let _ ← callValue fuel f [o] []
      | none => pure ()
    | _ =>
      match ← classAttribute? c "__init__" with
      | some f => do
        let _ ← callValue fuel f (o :: args) named
      | none => if !fails && !(args.isEmpty && named.isEmpty) then typeError s!"{title}() takes no arguments"
    return o
termination_by structural fuel => fuel

/-- a call of a name that depends on where it stands; none where the call is like any other -/
def localCall? : Nat → Nat → String → List Value → Work (Option Value)
  | 0, _, _, _ => throw .stuck
  | fuel + 1, scope, name, args => do
    let valuesIn (a : Nat) : Work Value := do
      match ← thingAt a with
      | .scope values _ _ _ =>
        makeDict ((values.filter fun x => x.1.front? != some ' ').map fun (n, v) => (textValue n, v))
      | _ => makeDict []
    match name, args with
    | "super", [] => do
      let around ← outerScope scopeDepth scope
      match ← nameValue? " class" scopeDepth true around, ← nameValue? " self" scopeDepth true around with
      | some c, some o => some <$> allocate (.wrapped "super" o c)
      | _, _ => raise "RuntimeError" "super(): no arguments"
    | "locals", [] => some <$> valuesIn (← outerScope scopeDepth scope)
    | "globals", [] => some <$> valuesIn 0
    | "vars", [] => some <$> valuesIn (← outerScope scopeDepth scope)
    | "dir", [] => do
      match ← thingAt (← outerScope scopeDepth scope) with
      | .scope values _ _ _ =>
        let names := (values.map Prod.fst).filter fun n => n.front? != some ' '
        some <$> makeList ((names.mergeSort fun a b => a ≤ b).map textValue)
      | _ => return none
    | "exec", code :: _ => do
      let o ← shown (callValue fuel) code
      match readProgram (o ++ ['\n']) with
      | .error e => raise e.kind e.message
      | .ok (body, _) => do
        execAll fuel scope body
        return some .none
    | "eval", code :: _ => do
      let o ← shown (callValue fuel) code
      match readProgram (dropStartWhile isSpaceChar o ++ ['\n']) with
      | .error e => raise e.kind e.message
      | .ok ([.expr _ e], _) => some <$> eval fuel scope e
      | .ok _ => raise "SyntaxError" "invalid syntax"
    | _, _ => return none
termination_by structural fuel => fuel

/-- the values of parameters that may be left out -/
def evalDefaults : Nat → Nat → List (String × Option Expr) → Work (List (String × Value))
  | 0, _, _ => throw .stuck
  | _, _, [] => return []
  | fuel + 1, scope, (name, value) :: rest => do
    match value with
    | some e => do
      let v ← eval fuel scope e
      return (name, v) :: (← evalDefaults fuel scope rest)
    | none => evalDefaults fuel scope rest
termination_by structural fuel => fuel

/-- makes a function -/
def makeFunction : Nat → Nat → String → Params → List String → Bool → List Stmt → Work Value
  | 0, _, _, _, _, _, _ => throw .stuck
  | fuel + 1, scope, name, params, locals, yields, body => do
    let .mk plain _ _ keyed _ := params
    let defaults ← evalDefaults fuel scope (plain ++ keyed)
    allocate (.function ⟨name, params, defaults, locals, yields, body, scope, none⟩)
termination_by structural fuel => fuel

/-- the values of arguments -/
def evalArgs : Nat → Nat → List Arg → Work (List Value × List (String × Value))
  | 0, _, _ => throw .stuck
  | _, _, [] => return ([], [])
  | fuel + 1, scope, arg :: rest => do
    let onward (args : List Value) (named : List (String × Value)) : Work (List Value × List (String × Value)) := do
      let (moreArgs, moreNamed) ← evalArgs fuel scope rest
      return (args ++ moreArgs, named ++ moreNamed)
    match arg with
    | .plain e => do onward [← eval fuel scope e] []
    | .named n e => do onward [] [(n, ← eval fuel scope e)]
    | .several e => do onward (← itemsOf (callValue fuel) (← eval fuel scope e)) []
    | .mapped e => do
      let entries ← entriesOf (callValue fuel) (← eval fuel scope e)
      onward [] (entries.filterMap fun (k, v) => match k with
        | .text n => some (String.ofList n, v)
        | _ => none)
termination_by structural fuel => fuel

/-- the values of items, of which some stand for several -/
def evalItems : Nat → Nat → List Expr → Work (List Value)
  | 0, _, _ => throw .stuck
  | _, _, [] => return []
  | fuel + 1, scope, .starred e :: rest => do
    let items ← itemsOf (callValue fuel) (← eval fuel scope e)
    return items ++ (← evalItems fuel scope rest)
  | fuel + 1, scope, e :: rest => do
    let v ← eval fuel scope e
    return v :: (← evalItems fuel scope rest)
termination_by structural fuel => fuel

/-- the entries of a map -/
def evalEntries : Nat → Nat → List (Option Expr × Expr) → List (Value × Value) → Work (List (Value × Value))
  | 0, _, _, _ => throw .stuck
  | _, _, [], done => return done
  | fuel + 1, scope, (key, e) :: rest, done => do
    match key with
    | some k => do
      let k ← asKey (← eval fuel scope k)
      let v ← eval fuel scope e
      evalEntries fuel scope rest (putEntry k v done)
    | none => do
      let more ← entriesOf (callValue fuel) (← eval fuel scope e)
      evalEntries fuel scope rest (more.foldl (fun acc (k, v) => putEntry k v acc) done)
termination_by structural fuel => fuel

/-- whether comparisons in a row hold -/
def evalComparisons : Nat → Nat → Value → List (String × Expr) → Work Value
  | 0, _, _, _ => throw .stuck
  | _, _, _, [] => return .bool true
  | fuel + 1, scope, first, (operator, e) :: rest => do
    let second ← eval fuel scope e
    let r ← comparison (callValue fuel) operator first second
    if rest.isEmpty then return r
    else if ← isTrue (callValue fuel) r then evalComparisons fuel scope second rest
    else return r
termination_by structural fuel => fuel

/-- the pieces of a formatted text -/
def evalPieces : Nat → Nat → List Piece → Work Characters
  | 0, _, _ => throw .stuck
  | _, _, [] => return []
  | fuel + 1, scope, .plain o :: rest => do return o ++ (← evalPieces fuel scope rest)
  | fuel + 1, scope, .field source e conversion spec :: rest => do
    let v ← eval fuel scope e
    let form ← evalPieces fuel scope spec
    let call := callValue fuel
    let converted (f : Caller → Value → Work Characters) : Work Characters := do
      let o ← f call v
      if form.isEmpty then return o else inForm call (.text o) form
    let o ← match conversion with
      | some 'r' => converted fun call v => displayed call valueDepth v
      | some 'a' => converted fun call v => displayed call valueDepth v
      | some 's' => converted shown
      | _ => inForm call v form
    return source ++ o ++ (← evalPieces fuel scope rest)
termination_by structural fuel => fuel

/-- goes through the loops and tests of a comprehension, with what is made of each round -/
def evalClauses : Nat → Nat → List Clause → Option Expr → Expr → Array (Value × Value) → Work (Array (Value × Value))
  | 0, _, _, _, _, _ => throw .stuck
  | fuel + 1, scope, [], key, element, done => do
    let k ← match key with
      | some k => eval fuel scope k
      | none => pure .none
    let v ← eval fuel scope element
    return done.push (k, v)
  | fuel + 1, scope, .test e :: rest, key, element, done => do
    if ← isTrue (callValue fuel) (← eval fuel scope e) then evalClauses fuel scope rest key element done else return done
  | fuel + 1, scope, .each span target e :: rest, key, element, done => do
    let items ← located span (do itemsOf (callValue fuel) (← eval fuel scope e))
    evalRounds fuel scope span target items rest key element done
termination_by structural fuel => fuel

/-- the rounds of a loop of a comprehension -/
def evalRounds : Nat → Nat → Span → Expr → List Value → List Clause → Option Expr → Expr → Array (Value × Value) →
    Work (Array (Value × Value))
  | 0, _, _, _, _, _, _, _, _ => throw .stuck
  | _, _, _, _, [], _, _, _, done => return done
  | fuel + 1, scope, span, target, v :: more, rest, key, element, done => do
    located span (assignTo fuel scope target v)
    let done ← evalClauses fuel scope rest key element done
    evalRounds fuel scope span target more rest key element done
termination_by structural fuel => fuel

/-- the value of an expression -/
def eval : Nat → Nat → Expr → Work Value
  | 0, _, _ => throw .stuck
  | fuel + 1, scope, e => do
    let call := callValue fuel
    match e with
    | .literal v => return v.value
    | .name span n => located span (nameValue scope n)
    | .list items => do makeList (← evalItems fuel scope items)
    | .tuple items => do return .tuple (← evalItems fuel scope items)
    | .set items => do
      let values ← (← evalItems fuel scope items).mapM asKey
      allocate (.set false (values.foldl (fun acc v => putItem v acc) []))
    | .dict span entries => located span do makeDict (← evalEntries fuel scope entries [])
    | .starred inner => eval fuel scope inner
    | .unary span operator inner => located span do negated call operator (← eval fuel scope inner)
    | .binary span operator first second => do
      let a ← eval fuel scope first
      let b ← eval fuel scope second
      located span (operated call false operator a b)
    | .compare span first others => located span do evalComparisons fuel scope (← eval fuel scope first) others
    | .both first second => do
      let a ← eval fuel scope first
      if ← isTrue call a then eval fuel scope second else return a
    | .either first second => do
      let a ← eval fuel scope first
      if ← isTrue call a then return a else eval fuel scope second
    | .conditional test yes no => do
      if ← isTrue call (← eval fuel scope test) then eval fuel scope yes else eval fuel scope no
    | .lambda params locals body =>
      makeFunction fuel scope "<lambda>" params locals false [.back default (some body)]
    | .call span function args => do
      let f ← eval fuel scope function
      let (args, named) ← located span (evalArgs fuel scope args)
      let special ← match f with
        | .builtin n =>
          if ["super", "locals", "globals", "vars", "dir", "exec", "eval"].contains n then
            located span (localCall? fuel scope n args)
          else pure none
        | _ => pure none
      match special with
      | some v => return v
      | none => located span (callValue fuel f args named)
    | .attribute span object name => do
      let v ← eval fuel scope object
      located span (getAttribute call v name)
    | .subscript span object index => do
      let v ← eval fuel scope object
      let i ← eval fuel scope index
      located span (itemAt call v i)
    | .slice start stop step => do
      let bound (e : Option Expr) : Work Value := match e with
        | some e => eval fuel scope e
        | none => return .none
      return .slice (← bound start) (← bound stop) (← bound step)
    | .comprehension span made key element clauses => do
      let names := assignedInClauses clauses
      let inner := (← get).heap.size
      let _ ← allocate (.scope [(" inner", .bool true)] (some scope) names false)
      let rounds ← evalClauses fuel inner clauses key element #[]
      let items := rounds.toList.map Prod.snd
      match made with
      | .list => makeList items
      | .generator => allocate (.iterator items)
      | .set => located span do
        let values ← items.mapM asKey
        allocate (.set false (values.foldl (fun acc v => putItem v acc) []))
      | .dict => located span do
        let entries ← rounds.toList.mapM fun (k, v) => do return (← asKey k, v)
        makeDict (entries.foldl (fun acc (k, v) => putEntry k v acc) [])
    | .formatted parts => do return .text (← evalPieces fuel scope parts)
    | .assigning name value => do
      let v ← eval fuel scope value
      assignName (← outerScope scopeDepth scope) name v
      return v
    | .yields all value => do
      let v ← match value with
        | some e => eval fuel scope e
        | none => pure .none
      if all then
        let items ← itemsOf call v
        modify fun w => { w with yielded := items.reverse ++ w.yielded }
      else modify fun w => { w with yielded := v :: w.yielded }
      if yieldLimit < (← get).yielded.length then throw (.back .none)
      return .none
termination_by structural fuel => fuel

/-- gives targets values, one by one -/
def assignEach : Nat → Nat → List Expr → List Value → Work Unit
  | 0, _, _, _ => throw .stuck
  | fuel + 1, scope, target :: targets, v :: values => do
    let target := match target with
      | .starred inner => inner
      | e => e
    assignTo fuel scope target v
    assignEach fuel scope targets values
  | _, _, _, _ => return ()
termination_by structural fuel => fuel

/-- gives a target a value -/
def assignTo : Nat → Nat → Expr → Value → Work Unit
  | 0, _, _, _ => throw .stuck
  | fuel + 1, scope, target, v => do
    let spread (items : List Expr) : Work Unit := do
      let isStar (e : Expr) : Bool := match e with
        | .starred _ => true
        | _ => false
      let before := items.takeWhile fun e => !isStar e
      let star : Bool := before.length < items.length
      let after := if star then items.length - before.length - 1 else 0
      assignEach fuel scope items (← unpacked (callValue fuel) v before.length star after)
    match target with
    | .name _ n => assignName scope n v
    | .tuple items => spread items
    | .list items => spread items
    | .starred inner => assignTo fuel scope inner v
    | .attribute span object name => do
      let o ← eval fuel scope object
      located span (setAttribute (callValue fuel) o name v)
    | .subscript span object index => do
      let o ← eval fuel scope object
      let i ← eval fuel scope index
      located span (setItemAt (callValue fuel) o i v)
    | _ => return ()
termination_by structural fuel => fuel

/-- takes the value of a target -/
def deleteTarget : Nat → Nat → Expr → Work Unit
  | 0, _, _ => throw .stuck
  | fuel + 1, scope, target => do
    match target with
    | .name _ n => deleteName scope n
    | .tuple items => deleteTargets fuel scope items
    | .attribute span object name => do
      let o ← eval fuel scope object
      located span (deleteAttribute o name)
    | .subscript span object index => do
      let o ← eval fuel scope object
      let i ← eval fuel scope index
      located span (deleteItemAt (callValue fuel) o i)
    | _ => return ()
termination_by structural fuel => fuel

/-- takes the values of targets -/
def deleteTargets : Nat → Nat → List Expr → Work Unit
  | 0, _, _ => throw .stuck
  | _, _, [] => return ()
  | fuel + 1, scope, t :: rest => do
    deleteTarget fuel scope t
    deleteTargets fuel scope rest
termination_by structural fuel => fuel

/-- whether values have shapes, one by one -/
def matchEach : Nat → Nat → List Shape → List Value → Work Bool
  | 0, _, _, _ => throw .stuck
  | fuel + 1, scope, s :: shapes, v :: values => do
    if ← matchShape fuel scope s v then matchEach fuel scope shapes values else return false
  | _, _, [], [] => return true
  | _, _, _, _ => return false
termination_by structural fuel => fuel

/-- whether the entries of a map have shapes -/
def matchEntries : Nat → Nat → List (Expr × Shape) → List (Value × Value) → Work (Option (List (Value × Value)))
  | 0, _, _, _ => throw .stuck
  | _, _, [], entries => return some entries
  | fuel + 1, scope, (k, s) :: rest, entries => do
    let key ← eval fuel scope k
    match entryFor? key entries with
    | some v => do
      if ← matchShape fuel scope s v then matchEntries fuel scope rest (dropEntry key entries) else return none
    | none => return none
termination_by structural fuel => fuel

/-- whether the attributes of an object have shapes -/
def matchAttributes : Nat → Nat → Value → List (String × Shape) → Work Bool
  | 0, _, _, _ => throw .stuck
  | _, _, _, [] => return true
  | fuel + 1, scope, v, (n, s) :: rest => do
    match ← findAttribute? (callValue fuel) v n with
    | some a => do
      if ← matchShape fuel scope s a then matchAttributes fuel scope v rest else return false
    | none => return false
termination_by structural fuel => fuel

/-- whether a value has one of several shapes -/
def matchSome : Nat → Nat → List Shape → Value → Work Bool
  | 0, _, _, _ => throw .stuck
  | _, _, [], _ => return false
  | fuel + 1, scope, s :: rest, v => do
    if ← matchShape fuel scope s v then return true else matchSome fuel scope rest v
termination_by structural fuel => fuel

/-- whether a value has a shape; its names get their values -/
def matchShape : Nat → Nat → Shape → Value → Work Bool
  | 0, _, _, _ => throw .stuck
  | fuel + 1, scope, s, v => do
    match s with
    | .value e => do
      let w ← eval fuel scope e
      match w with
      | .none => return sameKey v .none
      | .bool b => match v with
        | .bool c => return b == c
        | _ => return false
      | w => areEqual (callValue fuel) valueDepth v w
    | .capture name => do
      match name with
      | some n => assignName scope n v
      | none => pure ()
      return true
    | .rest _ => return true
    | .named inner name => do
      if ← matchShape fuel scope inner v then
        assignName scope name v
        return true
      else return false
    | .either options => matchSome fuel scope options v
    | .sequence items => do
      let values? ← match v, ← thing? v with
        | .tuple values, _ => pure (some values)
        | _, some (.list values) => pure (some values)
        | _, _ => pure none
      match values? with
      | none => return false
      | some values =>
        let isRest (s : Shape) : Bool := match s with
          | .rest _ => true
          | _ => false
        let before := items.takeWhile fun s => !isRest s
        if before.length = items.length then matchEach fuel scope items values
        else
          let after := items.drop (before.length + 1)
          if values.length < before.length + after.length then return false
          else if !(← matchEach fuel scope before (values.take before.length)) then return false
          else if !(← matchEach fuel scope after (values.drop (values.length - after.length))) then return false
          else do
            match items[before.length]? with
            | some (.rest (some n)) =>
              assignName scope n (← makeList ((values.take (values.length - after.length)).drop before.length))
            | _ => pure ()
            return true
    | .mapping entries rest => do
      match ← thing? v with
      | some (.dict _ _ all) =>
        match ← matchEntries fuel scope entries all with
        | some left => do
          match rest with
          | some n => assignName scope n (← makeDict left)
          | none => pure ()
          return true
        | none => return false
      | _ => return false
    | .instanceOf span name items named => do
      let c ← eval fuel scope name
      if !(← located span (isInstance 50 v c)) then return false
      else do
        let plain : Bool := match c with
          | .builtin n => ["str", "int", "float", "bool", "list", "tuple", "dict", "set", "bytes", "frozenset"].contains n
          | _ => false
        match plain, items with
        | true, [only] => matchShape fuel scope only v
        | _, items => do
          let names ← match ← classAttribute? c "__match_args__" with
            | some (.tuple names) => pure names
            | _ => match ← classAttribute? c "_fields" with
              | some (.tuple names) => pure names
              | _ => pure []
          let texts := names.map fun n => match n with
            | .text o => String.ofList o
            | _ => ""
          matchAttributes fuel scope v (texts.zip items ++ named)
termination_by structural fuel => fuel

/-- runs statements -/
def execAll : Nat → Nat → List Stmt → Work Unit
  | 0, _, _ => throw .stuck
  | _, _, [] => return ()
  | fuel + 1, scope, s :: rest => do
    exec fuel scope s
    execAll fuel scope rest
termination_by structural fuel => fuel

/-- runs the body of a loop; false where the loop is left -/
def execBody : Nat → Nat → List Stmt → Work Bool
  | 0, _, _ => throw .stuck
  | fuel + 1, scope, body => tryCatch (do
      execAll fuel scope body
      return true) fun
    | .again => return true
    | .out => return false
    | other => throw other
termination_by structural fuel => fuel

/-- runs a loop with a test -/
def execWhile : Nat → Nat → Expr → List Stmt → List Stmt → Work Unit
  | 0, _, _, _, _ => throw .stuck
  | fuel + 1, scope, test, body, otherwise => do
    if ← isTrue (callValue fuel) (← eval fuel scope test) then
      if ← execBody fuel scope body then execWhile fuel scope test body otherwise else return ()
    else execAll fuel scope otherwise
termination_by structural fuel => fuel

/-- runs a loop through what is left of items -/
def execEach : Nat → Nat → Span → Expr → Value → List Stmt → List Stmt → Work Unit
  | 0, _, _, _, _, _, _ => throw .stuck
  | fuel + 1, scope, span, target, walk, body, otherwise => do
    match ← located span (nextItem (callValue fuel) walk) with
    | none => execAll fuel scope otherwise
    | some v => do
      located span (assignTo fuel scope target v)
      if ← execBody fuel scope body then execEach fuel scope span target walk body otherwise else return ()
termination_by structural fuel => fuel

/-- handles an exception by the first handler for it -/
def handle : Nat → Nat → Value → List Place → List Handler → Work Unit
  | 0, _, _, _, _ => throw .stuck
  | _, _, e, trace, [] => throw (.raised e trace)
  | fuel + 1, scope, e, trace, .mk span kind name body :: rest => do
    let fits ← match kind with
      | none => pure true
      | some k => do
        let c ← eval fuel scope k
        located span (isInstance 50 e c)
    if !fits then handle fuel scope e trace rest
    else do
      keepTrace e trace
      let before := (← get).handled
      modify fun w => { w with handled := some e }
      match name with
      | some n => assignName scope n e
      | none => pure ()
      finally' (execAll fuel scope body) do
        modify fun w => { w with handled := before }
        match name with
        | some n => tryCatch (deleteName scope n) fun _ => return ()
        | none => pure ()
termination_by structural fuel => fuel

/-- runs a block inside managers -/
def execWithin : Nat → Nat → Span → List (Expr × Option Expr) → List Stmt → Work Unit
  | 0, _, _, _, _ => throw .stuck
  | fuel + 1, scope, _, [], body => execAll fuel scope body
  | fuel + 1, scope, span, (e, target) :: rest, body => do
    let call := callValue fuel
    let manager ← eval fuel scope e
    let known ← match manager, ← thing? manager with
      | _, some (.file _) => pure true
      | _, some (.instanceOf (.builtin _) _) => pure true
      | m, _ => pure (← special? m "__enter__").isSome
    if !known then
      located span do
        let kind ← typeName manager
        typeError s!"'{kind}' object does not support the context manager protocol"
    let entered ← match ← special? manager "__enter__" with
      | some f => located span (call f [manager] [])
      | none => pure manager
    match target with
    | some t => located span (assignTo fuel scope t entered)
    | none => pure ()
    let leave (args : List Value) : Work Bool := do
      match ← special? manager "__exit__" with
      | some f => do isTrue call (← call f (manager :: args) [])
      | none => match manager, ← thing? manager with
        | .ref a, some (.file f) => do
          let _ ← fileMethod call a f "close" []
          return false
        | _, some (.instanceOf (.builtin "suppress") attributes) =>
          match args with
          | _ :: e :: _ =>
            if sameKey e .none then return false
            else isInstance 50 e ((attribute? "kinds" attributes).getD (.tuple []))
          | _ => return false
        | _, _ => return false
    let quiet ← tryCatch (do
        execWithin fuel scope span rest body
        return false) fun
      | .raised e trace => do
        keepTrace e trace
        let before := (← get).handled
        modify fun w => { w with handled := some e }
        let hidden ← leave [← classOf e, e, .none]
        modify fun w => { w with handled := before }
        if hidden then return true else throw (.raised e trace)
      | other => do
        let _ ← leave [.none, .none, .none]
        throw other
    if !quiet then
      let _ ← leave [.none, .none, .none]
termination_by structural fuel => fuel

/-- the first case whose shape a value has -/
def execChoices : Nat → Nat → Value → List Choice → Work Unit
  | 0, _, _, _ => throw .stuck
  | _, _, _, [] => return ()
  | fuel + 1, scope, v, .mk shape test body :: rest => do
    let fits ← matchShape fuel scope shape v
    let fits ← match fits, test with
      | true, some e => do isTrue (callValue fuel) (← eval fuel scope e)
      | fits, _ => pure fits
    if fits then execAll fuel scope body else execChoices fuel scope v rest
termination_by structural fuel => fuel

/-- a value with what is done to it when it is made -/
def decorated : Nat → Nat → Span → List Expr → Value → Work Value
  | 0, _, _, _, _ => throw .stuck
  | _, _, _, [], v => return v
  | fuel + 1, scope, span, d :: rest, v => do
    let f ← eval fuel scope d
    let v ← decorated fuel scope span rest v
    located span (callValue fuel f [v] [])
termination_by structural fuel => fuel

/-- brings in a module -/
def bringModule : Nat → String → Work Value
  | 0, _ => throw .stuck
  | fuel + 1, name => do
    let name := if name == "posixpath" then "os.path" else name
    if moduleNames.contains name then return .module name
    else do
      let w ← get
      let parts := name.splitOn "."
      let file := String.intercalate "/" parts ++ ".py"
      match w.modules.lookup name, w.files.read (pathOf (octets file)) with
      | some _, _ => return .module name
      | none, .ok bytes =>
        match readProgram (newLines (decode (ofBytes bytes))) with
        | .error e => raise e.kind e.message
        | .ok (body, _) => do
          let scope := w.heap.size
          let _ ← allocate (.scope [("__name__", textValue name)] none [] false)
          modify fun w => { w with modules := (name, scope) :: w.modules }
          execAll fuel scope body
          return .module name
      | none, .error _ => do
        let first := (parts.head?).getD name
        let message := if moduleNames.contains first && parts.length > 1 then
            s!"No module named '{name}'; '{first}' is not a package"
          else s!"No module named '{first}'"
        let e ← allocate (.instanceOf (.builtin "ModuleNotFoundError")
          [("args", .tuple [textValue message]), ("name", textValue first)])
        throw (.raised e [])
termination_by structural fuel => fuel

/-- runs a statement -/
def exec : Nat → Nat → Stmt → Work Unit
  | 0, _, _ => throw .stuck
  | fuel + 1, scope, s => do
    let call := callValue fuel
    match s with
    | .expr span e => located span do
      let _ ← eval fuel scope e
    | .assign span targets value => do
      let v ← eval fuel scope value
      for t in targets do located span (assignTo fuel scope t v)
    | .augment span target operator value => do
      let apply (old : Value) : Work Value := do
        let v ← eval fuel scope value
        located span do
          let own : String := match (operatorMethods operator).1.toList with
            | '_' :: '_' :: rest => String.ofList ('_' :: '_' :: 'i' :: rest)
            | _ => ""
          match ← special? old own with
          | some f => callValue fuel f [old, v] []
          | none =>
            match operator, old, ← thing? old with
            | "+", .ref a, some (.list items) => do
              update a (.list (items ++ (← itemsOf call v)))
              return old
            | "|", .ref a, some (.set false items) => do
              update a (.set false ((← itemsOf call v).foldl (fun acc v => putItem v acc) items))
              return old
            | "|", .ref a, some (.dict kind d entries) => do
              update a (.dict kind d ((← entriesOf call v).foldl (fun acc (k, v) => putEntry k v acc) entries))
              return old
            | "-", .ref a, some (.set false items) => do
              let gone ← itemsOf call v
              update a (.set false (items.filter fun v => !gone.any (sameKey v)))
              return old
            | "&", .ref a, some (.set false items) => do
              let kept ← itemsOf call v
              update a (.set false (items.filter fun v => kept.any (sameKey v)))
              return old
            | _, _, _ => operated call true operator old v
      match target with
      | .name nameSpan n => do
        let old ← located nameSpan (nameValue scope n)
        assignName scope n (← apply old)
      | .attribute at_ object name => do
        let o ← eval fuel scope object
        let old ← located at_ (getAttribute call o name)
        let v ← apply old
        located at_ (setAttribute call o name v)
      | .subscript at_ object index => do
        let o ← eval fuel scope object
        let i ← eval fuel scope index
        let old ← located at_ (itemAt call o i)
        let v ← apply old
        located at_ (setItemAt call o i v)
      | _ => return ()
    | .annotate span target value => do
      match target, ← thingAt scope with
      | .name _ n, .scope values parent locals true =>
        let before := match attribute? " annotations" values with
          | some (.tuple names) => names
          | _ => []
        update scope (.scope (putAttribute " annotations" (.tuple (before ++ [textValue n])) values) parent locals true)
      | _, _ => pure ()
      match value with
      | some e => do
        let v ← eval fuel scope e
        located span (assignTo fuel scope target v)
      | none => return ()
    | .branch span test body otherwise => do
      if ← located span (do isTrue call (← eval fuel scope test)) then execAll fuel scope body
      else execAll fuel scope otherwise
    | .whileLoop _ test body otherwise => execWhile fuel scope test body otherwise
    | .each span target items body otherwise => do
      let v ← eval fuel scope items
      let walk ← located span (startItems call v)
      execEach fuel scope span target walk body otherwise
    | .function span decorators name params locals yields body => do
      let f ← makeFunction fuel scope name params locals yields body
      assignName scope name (← decorated fuel scope span decorators f)
    | .classOf span decorators name bases body => do
      let (bases, _) ← located span (evalArgs fuel scope bases)
      let bases := bases.filter fun b => !sameKey b (.builtin "object")
      let inner := (← get).heap.size
      let _ ← allocate (.scope [] (some scope) [] true)
      let before ← get
      modify fun w => { w with frame := name, depth := w.depth + 1 }
      finally' (execAll fuel inner body) (modify fun w => { w with frame := before.frame, depth := before.depth })
      let attributes ← match ← thingAt inner with
        | .scope values _ _ _ => pure values
        | _ => pure []
      let fields : List (String × Value) :=
        if bases.any (sameKey (.builtin "typing.NamedTuple")) then
          [("_fields", (attribute? " annotations" attributes).getD (.tuple []))]
        else []
      let c ← allocate (.classOf name bases (attributes ++ fields))
      match c with
      | .ref a => ownFunctions a attributes
      | _ => pure ()
      assignName scope name (← decorated fuel scope span decorators c)
    | .back _ value => do
      match value with
      | some e => throw (.back (← eval fuel scope e))
      | none => throw (.back .none)
    | .raise span value cause => do
      match value with
      | none => do
        match (← get).handled with
        | some e => do throw (.raised e (← traceOf e))
        | none => located span (raise "RuntimeError" "No active exception to reraise")
      | some e => do
        let v ← eval fuel scope e
        located span do
          let x ← raisedValue call v
          match cause with
          | some c => do
            let c ← eval fuel scope c
            let c ← if sameKey c .none then pure Value.none else raisedValue call c
            setObjectAttribute x " cause" c
          | none => pure ()
          match (← get).handled with
          | some h =>
            if !sameKey h x && (attribute? " context" (← objectAttributes x)).isNone then
              setObjectAttribute x " context" h
          | none => pure ()
          let s ← get
          throw (.raised x (⟨span, s.frame, s.depth⟩ :: (← traceOf x)))
    | .guarded body handlers otherwise last => do
      let main : Work Unit := do
        let fine ← tryCatch (do
            execAll fuel scope body
            return true) fun
          | .raised e trace => do
            handle fuel scope e trace handlers
            return false
          | other => throw other
        if fine then execAll fuel scope otherwise
      if last.isEmpty then main else finally' main (execAll fuel scope last)
    | .within span items body => execWithin fuel scope span items body
    | .bring span modules => located span do
      for (name, renamed) in modules do
        let m ← bringModule fuel name
        match renamed with
        | some n => assignName scope n m
        | none =>
          let first := ((name.splitOn ".").head?).getD name
          let m ← bringModule fuel first
          assignName scope first m
    | .bringFrom span module names => located span do
      let m ← bringModule fuel module
      let module := match m with
        | .module n => n
        | _ => module
      for (name, renamed) in names do
        if name == "*" then
          let own ← match (← get).modules.lookup module with
            | some a => match ← thingAt a with
              | .scope values _ _ _ => pure (values.map Prod.fst)
              | _ => pure []
            | none => pure []
          for n in moduleFunctions module ++ own do
            match ← moduleAttribute? module n with
            | some v => assignName scope n v
            | none => pure ()
        else match ← moduleAttribute? module name with
          | some v => assignName scope (renamed.getD name) v
          | none => raise "ImportError" s!"cannot import name '{name}' from '{module}' ({moduleFile module})"
    | .outer _ => return ()
    | .delete span targets => located span (deleteTargets fuel scope targets)
    | .assert span test message => do
      if !(← isTrue call (← eval fuel scope test)) then
        let args ← match message with
          | some e => do pure [← eval fuel scope e]
          | none => pure []
        located span (raiseWith "AssertionError" args)
    | .choose _ subject cases => do execChoices fuel scope (← eval fuel scope subject) cases
    | .pass => return ()
    | .leave _ => throw .out
    | .again _ => throw .again
termination_by structural fuel => fuel

end

end ScriptBridge.Shell.BlockScript
