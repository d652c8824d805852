/-
Calculations of extended scripts: whole numbers of 64 bits, variables and values of lists, the usual operators with
their usual strength, and assignments. What a variable holds is calculated in its turn; one that is not set counts as
zero. What is not chosen by `?`, `&&` or `||` is read but does nothing.

A fault says which expression it is in and from where on that could not be understood.
-/
import ScriptBridge.Shell.Extended.Session

namespace ScriptBridge.Shell.Extended

/-- what a token of an expression is -/
inductive CalcWord where
  | value (n : Int)
  | variable (name : Octets) (index : Option Octets)
  | operator (o : String)
  | faulty (whole : Bool) (message : String)
deriving DecidableEq

/-- a token of an expression, with the text from its start on -/
structure CalcToken where
  word : CalcWord
  start : Octets

/-- why an expression has no value -/
inductive CalcFault where
  | wrong (expression : Octets) (message : String) (rest : Octets)
  | unbound (name : Octets)
  | fixed (name : Octets)
  | badSubscript (name : Octets)
  | tooDeep (expression : Octets)
deriving DecidableEq

/-- the wording of a fault in an expression -/
def CalcFault.message : CalcFault → Octets
  | wrong expression message rest =>
    expression ++ octets (": " ++ message ++ " (error token is \"") ++ rest ++ octets "\")"
  | unbound name => name ++ octets ": unbound variable"
  | fixed name => name ++ octets ": readonly variable"
  | badSubscript name => name ++ octets ": bad array subscript"
  | tooDeep expression => expression ++ octets ": expression recursion level exceeded (error token is \""
      ++ expression ++ octets "\")"

/-! ## Tokens -/

/-- the operators, longer ones before those that they begin with -/
def calcOperators : List String :=
  ["<<=", ">>=", "**", "++", "--", "<<", ">>", "<=", ">=", "==", "!=", "&&", "||", "+=", "-=", "*=", "/=", "%=", "&=",
    "|=", "^=", "+", "-", "*", "/", "%", "<", ">", "=", "!", "~", "&", "|", "^", "?", ":", "(", ")", ","]

/-- the value of a digit in bases up to 64 -/
def calcDigit? (base : Nat) (c : Char) : Option Nat :=
  let n :=
    if c.isDigit then some (c.toNat - 48)
    else if c.isLower then some (c.toNat - 87)
    else if c.isUpper then some (if base ≤ 36 then c.toNat - 55 else c.toNat - 29)
    else if c == '@' then some 62
    else if c == '_' then some 63
    else none
  n

/-- the number that digits write, or what is wrong with them -/
def calcNumber (o : Octets) : CalcWord :=
  let digits (base : Nat) (o : Octets) : CalcWord :=
    match o.mapM (calcDigit? base) with
    | some values =>
      if values.any fun v => base ≤ v then .faulty false "value too great for base"
      else .value (wrap (values.foldl (fun n v => n * base + v) 0 : Nat))
    | none => .faulty false "value too great for base"
  match o.span (· != '#') with
  | (base, _ :: rest) =>
    let n := (digitsIn 10 base).1
    if !base.all Char.isDigit then .faulty false "invalid number"
    else if n < 2 || 64 < n then .faulty false "invalid arithmetic base"
    else if rest.isEmpty then .faulty false "invalid integer constant"
    else digits n rest
  | (all, []) =>
    match all with
    | '0' :: x :: rest => if x == 'x' || x == 'X' then digits 16 rest else digits 8 (x :: rest)
    | all => digits 10 all

/-- the subscript at the start of a text, after its bracket, and what follows it -/
def takeIndex : Nat → Nat → Octets → Option (Octets × Octets)
  | 0, _, _ => none
  | _, _, [] => none
  | fuel + 1, depth, c :: rest =>
    if c == ']' && depth = 0 then some ([], rest)
    else
      let depth := if c == '[' then depth + 1 else if c == ']' then depth - 1 else depth
      (takeIndex fuel depth rest).map fun (index, rest) => (c :: index, rest)

/-- the tokens of an expression; `before` is the token in front, if there is one. A character that begins none is a
fault, at which the tokens end. -/
def calcTokens : Nat → Option CalcWord → Octets → List CalcToken
  | 0, _, _ => []
  | _, _, [] => []
  | fuel + 1, before, c :: rest =>
    let o := c :: rest
    let onward (word : CalcWord) (rest : Octets) : List CalcToken := ⟨word, o⟩ :: calcTokens fuel (some word) rest
    if c == ' ' || c == '\t' || c == '\n' then calcTokens fuel before rest
    else if c.isDigit then
      let digits := o.takeWhile fun d => d.isAlphanum || d == '#' || d == '@' || d == '_'
      match calcNumber digits with
      | .value n => onward (.value n) (o.drop digits.length)
      | fault => [⟨fault, digits⟩]
    else if c.isAlpha || c == '_' then
      let name := o.takeWhile fun d => d.isAlphanum || d == '_'
      let rest := o.drop name.length
      match rest with
      | '[' :: more =>
        match takeIndex (more.length + 1) 0 more with
        | some (index, rest) => onward (.variable name (some index)) rest
        | none => [⟨.faulty true "bad array subscript", o⟩]
      | rest => onward (.variable name none) rest
    else
      let named : Bool := match before with
        | some (.variable ..) => true
        | _ => false
      let ahead : Bool := match (rest.drop 1).dropWhile isGap with
        | d :: _ => d.isAlpha || d == '_'
        | [] => false
      match calcOperators.find? fun text => text.toList.isPrefixOf o with
      | some "++" => if named || ahead then onward (.operator "++") (rest.drop 1) else onward (.operator "+") rest
      | some "--" => if named || ahead then onward (.operator "--") (rest.drop 1) else onward (.operator "-") rest
      | some text => onward (.operator text) (o.drop text.length)
      | none =>
        let operand : Bool := match before with
          | some (.value _) => true
          | some (.variable ..) => true
          | some (.operator ")") => true
          | _ => false
        [⟨.faulty true (if operand then "syntax error: invalid arithmetic operator" else "syntax error: operand expected"),
          o⟩]

/-! ## Steps -/

/-- what a calculation has reached: the expression, the tokens that are left, and the text from the last token on -/
structure CalcState where
  expression : Octets
  tokens : List CalcToken
  reached : Octets

/-- a step of a calculation -/
abbrev Calc (α : Type) := StateT CalcState (ExceptT CalcFault (StateM Session)) α

namespace Calc

/-- the session -/
def session : Calc Session := fun s => do
  let session ← (get : ExceptT CalcFault (StateM Session) Session)
  return (session, s)

/-- changes the session -/
def modifySession (f : Session → Session) : Calc Unit := fun s => do
  (modify f : ExceptT CalcFault (StateM Session) Unit)
  return ((), s)

/-- gives up at a text -/
def failAt {α : Type} (message : String) (rest : Octets) : Calc α := do
  throw (.wrong ((← get).expression.dropWhile isGap) message rest)

/-- gives up where the last token is -/
def fail {α : Type} (message : String) : Calc α := do failAt message (← get).reached

/-- looks at the next token, which must not be faulty -/
def settle : Calc Unit := do
  let s ← get
  match s.tokens with
  | [] => pure ()
  | token :: _ => do
    set { s with reached := token.start }
    match token.word with
    | .faulty true message => failAt message token.start
    | .faulty false message =>
      let all := s.expression.dropWhile isGap
      let shown := match (List.range (all.length + 1)).find? fun n =>
          token.start.isPrefixOf (all.drop n) && !(all.take n).getLast?.any isNameChar with
        | some n => all.take (n + token.start.length)
        | none => all
      throw (.wrong shown message token.start)
    | _ => pure ()

/-- goes on to the next token -/
def advance : Calc Unit := do
  modify fun s => { s with tokens := s.tokens.drop 1 }
  settle

/-- the operator that comes next, if one does -/
def operator? : Calc (Option String) := do
  match (← get).tokens with
  | ⟨.operator o, _⟩ :: _ => return some o
  | _ => return none

/-- applies an operator to two numbers; `rest` is the text from the second one on -/
def apply (o : String) (a b : Int) (rest : Octets) : Calc Int := do
  if o == "**" then
    if b < 0 then fail "exponent less than 0"
    else return wrap (Int.pow a b.toNat)
  else match applyOperator o a b with
    | .ok n => return n
    | .error _ => failAt "division by 0" (rest.dropWhile isGap)

end Calc

/-- how strongly an operator binds; the strongest one binds to the right -/
def calcStrength? (o : String) : Option Nat :=
  if o == "**" then some 11 else strength? o

open Extended.Calc

mutual

/-- the number that the value of a variable comes to -/
def calcVariable : Nat → Octets → Option Octets → Calc Int
  | 0, name, _ => throw (.tooDeep name)
  | fuel + 1, name, index => do
    let s ← session
    let held := (s.held? name).getD .nothing
    let value ← match index with
      | none => pure held.text?
      | some index => match held with
        | .map items => pure ((items.find? fun i => i.1 == index).map Prod.snd)
        | held => do
          let n ← calcText fuel index
          let items := match held with
            | .list items => items
            | .single o => [(0, o)]
            | _ => []
          let n := if n < 0 then n + ((items.getLast?.map Prod.fst).getD 0 : Nat) + 1 else n
          if n < 0 then throw (.badSubscript name)
          pure ((items.find? fun i => (i.1 : Int) == n).map Prod.snd)
    match value with
    | none => if s.machine.has 'u' then throw (.unbound name) else return 0
    | some o => if o.all isGap then return 0 else calcText fuel o

/-- the value of an expression of its own -/
def calcText : Nat → Octets → Calc Int
  | 0, o => throw (.tooDeep o)
  | fuel + 1, o => do
    let before ← get
    let tokens := calcTokens (o.length + 1) none o
    set (CalcState.mk o tokens o)
    if tokens.isEmpty then
      set before
      return 0
    else
      settle
      let n ← calcSeries fuel false
      if !(← get).tokens.isEmpty then fail "syntax error in expression"
      set before
      return n

/-- stores a number in a variable -/
def calcStore : Nat → Octets → Option Octets → Int → Calc Unit
  | 0, name, _, _ => throw (.tooDeep name)
  | fuel + 1, name, index, n => do
    let s ← session
    let name := s.resolve name
    let v := (s.own? name).getD ⟨.nothing, []⟩
    if v.marks.contains 'r' then throw (.fixed name)
    let value := number n
    let held ← match index, v.held with
      | none, .list items => pure (.list (setItem 0 value items))
      | none, .map items => pure (.map (setEntry ['0'] value items))
      | none, _ => pure (.single value)
      | some index, .map items => pure (.map (setEntry index value items))
      | some index, held => do
        let place ← calcText fuel index
        let items := match held with
          | .list items => items
          | .single o => [(0, o)]
          | _ => []
        let place := if place < 0 then place + ((items.getLast?.map Prod.fst).getD 0 : Nat) + 1 else place
        if place < 0 then throw (.badSubscript name)
        pure (.list (setItem place.toNat value items))
    modifySession (Session.change name { v with held })

/-- expressions with commas between them -/
def calcSeries : Nat → Bool → Calc Int
  | 0, _ => do throw (.tooDeep (← get).expression)
  | fuel + 1, quiet => do
    let n ← calcWhole fuel quiet
    if (← operator?) == some "," then do
      advance
      calcSeries fuel quiet
    else return n

/-- an assignment, or what binds more strongly. `quiet` says that it does nothing. -/
def calcWhole : Nat → Bool → Calc Int
  | 0, _ => do throw (.tooDeep (← get).expression)
  | fuel + 1, quiet => do
    match (← get).tokens with
    | ⟨.variable name index, _⟩ :: ⟨.operator o, _⟩ :: _ =>
      match assigned? o with
      | some change => do
        advance
        advance
        let rest := (← get).reached
        let value ← calcWhole fuel quiet
        if quiet then return value
        else do
          let value ← match change with
            | some o => do
              let before ← calcVariable fuel name index
              apply o before value rest
            | none => pure value
          calcStore fuel name index value
          return value
      | none => calcChoice fuel quiet
    | _ => do
      let n ← calcChoice fuel quiet
      match ← operator? with
      | some o => if (assigned? o).isSome then fail "attempted assignment to non-variable" else return n
      | none => return n

/-- a choice between two values, or what binds more strongly -/
def calcChoice : Nat → Bool → Calc Int
  | 0, _ => do throw (.tooDeep (← get).expression)
  | fuel + 1, quiet => do
    let condition ← calcEither fuel quiet
    if (← operator?) == some "?" then do
      advance
      match ← operator? with
      | some ":" => fail "expression expected"
      | _ => do
        if (← get).tokens.isEmpty then fail "expression expected"
        let yes ← calcSeries fuel (quiet || condition == 0)
        if (← operator?) == some ":" then do
          advance
          if (← get).tokens.isEmpty then fail "expression expected"
          let no ← calcWhole fuel (quiet || condition != 0)
          return if condition != 0 then yes else no
        else fail "\x60:' expected for conditional expression"
    else return condition

/-- conditions of which one has to hold -/
def calcEither : Nat → Bool → Calc Int
  | 0, _ => do throw (.tooDeep (← get).expression)
  | fuel + 1, quiet => do
    let first ← calcBoth fuel quiet
    if (← operator?) == some "||" then do
      advance
      let second ← calcEither fuel (quiet || first != 0)
      return if first != 0 || second != 0 then 1 else 0
    else return first

/-- conditions that all have to hold -/
def calcBoth : Nat → Bool → Calc Int
  | 0, _ => do throw (.tooDeep (← get).expression)
  | fuel + 1, quiet => do
    let first ← calcBinary fuel quiet 0
    if (← operator?) == some "&&" then do
      advance
      let second ← calcBoth fuel (quiet || first == 0)
      return if first != 0 && second != 0 then 1 else 0
    else return first

/-- operators that bind at least so strongly -/
def calcBinary : Nat → Bool → Nat → Calc Int
  | 0, _, _ => do throw (.tooDeep (← get).expression)
  | fuel + 1, quiet, least => do calcMore fuel quiet least (← calcUnary fuel quiet)

/-- the operators that follow a value -/
def calcMore : Nat → Bool → Nat → Int → Calc Int
  | 0, _, _, _ => do throw (.tooDeep (← get).expression)
  | fuel + 1, quiet, least, first => do
    match ← operator? with
    | none => return first
    | some o =>
      match calcStrength? o with
      | none => return first
      | some strength =>
        if strength < least then return first
        else do
          advance
          let rest := (← get).reached
          let second ← calcBinary fuel quiet (if o == "**" then strength else strength + 1)
          if quiet then calcMore fuel quiet least second
          else calcMore fuel quiet least (← apply o first second rest)

/-- a value with the signs in front of it -/
def calcUnary : Nat → Bool → Calc Int
  | 0, _ => do throw (.tooDeep (← get).expression)
  | fuel + 1, quiet => do
    match (← get).tokens with
    | ⟨.value n, _⟩ :: _ => do
      advance
      return n
    | ⟨.variable name index, _⟩ :: ⟨.operator o, _⟩ :: _ => do
      advance
      if o == "++" || o == "--" then
        advance
        if quiet then return 0
        else
          let n ← calcVariable fuel name index
          calcStore fuel name index (wrap (if o == "++" then n + 1 else n - 1))
          return n
      else if quiet then return 0
      else calcVariable fuel name index
    | ⟨.variable name index, _⟩ :: _ => do
      advance
      if quiet then return 0 else calcVariable fuel name index
    | ⟨.operator o, _⟩ :: rest =>
      match o with
      | "-" => do
        advance
        return wrap (-(← calcUnary fuel quiet))
      | "+" => do
        advance
        calcUnary fuel quiet
      | "!" => do
        advance
        return if (← calcUnary fuel quiet) == 0 then 1 else 0
      | "~" => do
        advance
        return -(← calcUnary fuel quiet) - 1
      | "(" => do
        advance
        let n ← calcSeries fuel quiet
        if (← operator?) == some ")" then do
          advance
          return n
        else fail "missing \x60)'"
      | _ =>
        if o == "++" || o == "--" then
          match rest with
          | ⟨.variable name index, _⟩ :: _ => do
            advance
            advance
            if quiet then return 0
            else do
              let n := wrap ((← calcVariable fuel name index) + (if o == "++" then 1 else -1))
              calcStore fuel name index n
              return n
          | _ => do
            advance
            fail "identifier expected after pre-increment or pre-decrement"
        else fail "syntax error: operand expected"
    | _ => fail "syntax error: operand expected"

end

/-- how deep an expression may go -/
def calcLimit : Nat := 100000

/-- the value of an expression -/
def calculate (o : Octets) : Work (Except CalcFault Int) := do
  let s ← get
  let (result, after) := (((calcText calcLimit o).run ⟨o, [], o⟩).run).run s
  set after
  return result.map Prod.fst

end ScriptBridge.Shell.Extended
