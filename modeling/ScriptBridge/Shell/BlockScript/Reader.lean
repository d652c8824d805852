/-
Reading programs. Expressions are read by levels, from the weakest operator to the strongest one; statements up to the
end of their block. The names that a block makes local are found once it is read.
-/
import ScriptBridge.Shell.BlockScript.Token

namespace ScriptBridge.Shell.BlockScript

/-! ## The names that a block makes local -/

/-- the names that are given values where an expression is the target of an assignment -/
def targetNames : Expr → List String
  | .name _ n => [n]
  | .tuple items => items.attach.flatMap fun ⟨e, _⟩ => targetNames e
  | .list items => items.attach.flatMap fun ⟨e, _⟩ => targetNames e
  | .starred e => targetNames e
  | _ => []

mutual

/-- the names that are given values inside an expression -/
def assignedIn : Expr → List String
  | .assigning n e => n :: assignedIn e
  | .list items => assignedInAll items
  | .tuple items => assignedInAll items
  | .unary _ _ e => assignedIn e
  | .binary _ _ a b => assignedIn a ++ assignedIn b
  | .compare _ a others => assignedIn a ++ assignedInPairs others
  | .both a b => assignedIn a ++ assignedIn b
  | .either a b => assignedIn a ++ assignedIn b
  | .conditional a b c => assignedIn a ++ assignedIn b ++ assignedIn c
  | .call _ f args => assignedIn f ++ assignedInArgs args
  | .attribute _ e _ => assignedIn e
  | .subscript _ a b => assignedIn a ++ assignedIn b
  | .comprehension _ _ _ e clauses => assignedIn e ++ assignedInClauses clauses
  | _ => []

/-- the names that are given values inside expressions -/
def assignedInAll : List Expr → List String
  | [] => []
  | e :: rest => assignedIn e ++ assignedInAll rest

/-- the names that are given values inside the later parts of a comparison -/
def assignedInPairs : List (String × Expr) → List String
  | [] => []
  | (_, e) :: rest => assignedIn e ++ assignedInPairs rest

/-- the names that are given values inside arguments -/
def assignedInArgs : List Arg → List String
  | [] => []
  | .plain e :: rest => assignedIn e ++ assignedInArgs rest
  | .named _ e :: rest => assignedIn e ++ assignedInArgs rest
  | _ :: rest => assignedInArgs rest

/-- the names that are given values inside the tests of a comprehension -/
def assignedInClauses : List Clause → List String
  | [] => []
  | .test e :: rest => assignedIn e ++ assignedInClauses rest
  | _ :: rest => assignedInClauses rest

end

mutual

/-- the names that a pattern gives values -/
def shapeNames : Shape → List String
  | .capture n => n.toList
  | .sequence items => namesOfShapes items
  | .rest n => n.toList
  | .mapping entries rest => namesOfEntries entries ++ rest.toList
  | .instanceOf _ _ items named => namesOfShapes items ++ namesOfNamed named
  | .either options => namesOfShapes options
  | .named inner n => n :: shapeNames inner
  | .value _ => []

/-- the names that patterns give values -/
def namesOfShapes : List Shape → List String
  | [] => []
  | p :: rest => shapeNames p ++ namesOfShapes rest

/-- the names that the patterns of a map give values -/
def namesOfEntries : List (Expr × Shape) → List String
  | [] => []
  | (_, p) :: rest => shapeNames p ++ namesOfEntries rest

/-- the names that the patterns of attributes give values -/
def namesOfNamed : List (String × Shape) → List String
  | [] => []
  | (_, p) :: rest => shapeNames p ++ namesOfNamed rest

end

mutual

/-- the names that a statement gives values -/
def namesOf : Stmt → List String
  | .expr _ e => assignedIn e
  | .assign _ targets e => targets.flatMap targetNames ++ assignedIn e
  | .augment _ t _ e => targetNames t ++ assignedIn e
  | .annotate _ t _ => targetNames t
  | .branch _ t a b => assignedIn t ++ namesOfAll a ++ namesOfAll b
  | .whileLoop _ t a b => assignedIn t ++ namesOfAll a ++ namesOfAll b
  | .each _ t _ a b => targetNames t ++ namesOfAll a ++ namesOfAll b
  | .function _ _ n _ _ _ _ => [n]
  | .classOf _ _ n _ _ => [n]
  | .guarded a handlers b c => namesOfAll a ++ namesOfHandlers handlers ++ namesOfAll b ++ namesOfAll c
  | .within _ items a => items.flatMap (fun i => (i.2.map targetNames).getD []) ++ namesOfAll a
  | .bring _ modules => modules.map fun m => m.2.getD (((m.1.splitOn ".").head?).getD m.1)
  | .bringFrom _ _ names => names.map fun n => n.2.getD n.1
  | .delete _ targets => targets.flatMap targetNames
  | .choose _ _ cases => namesOfChoices cases
  | .back _ e => (e.map assignedIn).getD []
  | _ => []

/-- the names that statements give values -/
def namesOfAll : List Stmt → List String
  | [] => []
  | s :: rest => namesOf s ++ namesOfAll rest

/-- the names that handlers give values -/
def namesOfHandlers : List Handler → List String
  | [] => []
  | .mk _ _ n body :: rest => n.toList ++ namesOfAll body ++ namesOfHandlers rest

/-- the names that the cases of a choice give values -/
def namesOfChoices : List Choice → List String
  | [] => []
  | .mk shape _ body :: rest => shapeNames shape ++ namesOfAll body ++ namesOfChoices rest

end

mutual

/-- the names that a statement declares to belong to an outer block -/
def outerNames : Stmt → List String
  | .outer names => names
  | .branch _ _ a b => outerNamesOf a ++ outerNamesOf b
  | .whileLoop _ _ a b => outerNamesOf a ++ outerNamesOf b
  | .each _ _ _ a b => outerNamesOf a ++ outerNamesOf b
  | .guarded a _ b c => outerNamesOf a ++ outerNamesOf b ++ outerNamesOf c
  | .within _ _ a => outerNamesOf a
  | _ => []

/-- the names that statements declare to belong to an outer block -/
def outerNamesOf : List Stmt → List String
  | [] => []
  | s :: rest => outerNames s ++ outerNamesOf rest

end

/-- the names of parameters -/
def Params.names : Params → List String
  | .mk plain _ rest named others => plain.map Prod.fst ++ rest.toList ++ named.map Prod.fst ++ others.toList

/-- the names that are local to a function -/
def localNames (params : Params) (body : List Stmt) : List String :=
  let outer := outerNamesOf body
  ((params.names ++ namesOfAll body).filter fun n => !outer.contains n).eraseDups

/-! ## Readers -/

/-- what is left of the tokens, the span of the last one that was taken, the columns inside the parentheses if that one
closed a group, whether a value was yielded since the block began, and where the last item of a list of them began -/
structure Source where
  rest : List Token
  last : Span
  grouped : Option (Nat × Nat)
  yields : Bool
  item : Span

/-- a reader -/
abbrev Reading (α : Type) := StateT Source (Except Fault) α

/-- the words that are no names -/
def keywords : List String :=
  ["False", "None", "True", "and", "as", "assert", "async", "await", "break", "class", "continue", "def", "del", "elif",
    "else", "except", "finally", "for", "from", "global", "if", "import", "in", "is", "lambda", "nonlocal", "not", "or",
    "pass", "raise", "return", "try", "while", "with", "yield"]

namespace Reading

/-- the next token, which is not taken -/
def peek : Reading Token := do return ((← get).rest.head?).getD ⟨.ended, default⟩

/-- takes the next token -/
def advance : Reading Unit := modify fun s =>
  match s.rest with
  | [] => s
  | t :: rest => { s with rest, last := t.span, grouped := none }

/-- gives up at a span -/
def failAt {α : Type} (message : String) (span : Span) : Reading α :=
  throw ⟨"SyntaxError", message, span.line, span.start, if span.endLine = span.line then span.stop else span.start + 1,
    span.endLine⟩

/-- whether only ends of blocks are left -/
def onlyEnds : Reading Bool := do
  return (← get).rest.all fun t => match t.tok with
    | .dedent => true
    | .ended => true
    | _ => false

/-- gives up at the next token -/
def unexpected {α : Type} : Reading α := do
  let t ← peek
  match t.tok with
  | .indent => throw ⟨"IndentationError", "unexpected indent", t.span.line, t.span.start, t.span.start, t.span.line⟩
  | _ => failAt "invalid syntax" t.span

/-- whether a mark comes next -/
def sees (mark : String) : Reading Bool := do
  match (← peek).tok with
  | .op o => return o == mark
  | _ => return false

/-- whether a keyword comes next -/
def seesWord (word : String) : Reading Bool := do
  match (← peek).tok with
  | .name n => return n == word
  | _ => return false

/-- takes a mark, if it comes next -/
def accept (mark : String) : Reading Bool := do
  if ← sees mark then do
    advance
    return true
  else return false

/-- takes a keyword, if it comes next -/
def acceptWord (word : String) : Reading Bool := do
  if ← seesWord word then do
    advance
    return true
  else return false

/-- takes a mark that has to come next -/
def expect (mark : String) : Reading Unit := do
  if !(← accept mark) then
    if mark == ":" then failAt "expected ':'" (← peek).span else unexpected

/-- takes the colon in front of a block; only where nothing else comes is it said that it is missing -/
def expectColon : Reading Unit := do
  match (← peek).tok with
  | .newline => expect ":"
  | _ => if !(← accept ":") then unexpected

/-- takes a keyword that has to come next -/
def expectWord (word : String) : Reading Unit := do
  if !(← acceptWord word) then unexpected

/-- takes a name -/
def takeName : Reading String := do
  match (← peek).tok with
  | .name n =>
    if keywords.contains n then unexpected
    else do
      advance
      return n
  | _ => unexpected

/-- the span from a token to the last one that was taken -/
def spanFrom (start : Span) : Reading Span := do return start.through (← get).last

end Reading

open BlockScript.Reading

/-- whether an expression may be given a value -/
def isTarget : Expr → Bool
  | .name .. => true
  | .attribute .. => true
  | .subscript .. => true
  | .tuple items => items.attach.all fun ⟨e, _⟩ => isTarget e
  | .list items => items.attach.all fun ⟨e, _⟩ => isTarget e
  | .starred e => isTarget e
  | _ => false

/-- what an expression is called where it cannot be given a value -/
def exprKind : Expr → String
  | .literal .none => "None"
  | .literal (.bool b) => if b then "True" else "False"
  | .literal .ellipsis => "ellipsis"
  | .literal _ => "literal"
  | .call .. => "function call"
  | .compare .. => "comparison"
  | .lambda .. => "lambda"
  | .conditional .. => "conditional expression"
  | .formatted _ => "f-string expression"
  | .dict .. => "dict literal"
  | .set _ => "set display"
  | .comprehension _ .list .. => "list comprehension"
  | .comprehension _ .generator .. => "generator expression"
  | .assigning .. => "named expression"
  | .yields .. => "yield expression"
  | _ => "expression"

/-- the operators with two operands by their levels, weaker ones first -/
def operatorLevels : List (List String) :=
  [["|"], ["^"], ["&"], ["<<", ">>"], ["+", "-"], ["*", "/", "//", "%", "@"]]

/-- the operators of comparisons that are marks -/
def comparisonMarks : List String := ["==", "!=", "<", "<=", ">", ">="]

/-- the columns of an operator between two operands, of which it is known where they stop and start -/
def anchorOf (before : Nat) (operator : Span) (after : Nat) (grouped : Bool) : Nat × Nat :=
  if grouped then (before, if before + 1 < after && operator.start ≤ before + 1 then before + 2 else before + 1)
  else (operator.start, operator.stop)

mutual

/-- takes an expression that may give a name a value -/
def readNamed : Nat → Reading Expr
  | 0 => unexpected
  | fuel + 1 => do
    let s ← get
    match s.rest with
    | ⟨.name n, _⟩ :: ⟨.op ":=", _⟩ :: _ => do
      advance
      advance
      return .assigning n (← readExpr fuel)
    | _ => readExpr fuel

/-- takes an expression -/
def readExpr : Nat → Reading Expr
  | 0 => unexpected
  | fuel + 1 => do
    if ← seesWord "lambda" then do
      advance
      let params ← readParams fuel ":" []
      if !(← accept ":") then unexpected
      let body ← readExpr fuel
      return .lambda params (params.names ++ assignedIn body) body
    else do
      let start := (← peek).span
      let value ← readEither fuel
      if ← acceptWord "if" then do
        let test ← readEither fuel
        if !(← seesWord "else") && !(← sees ":") then
          failAt "expected 'else' after 'if' expression" (← spanFrom start)
        if !(← seesWord "else") then unexpected
        advance
        return .conditional test value (← readExpr fuel)
      else return value

/-- takes a disjunction -/
def readEither : Nat → Reading Expr
  | 0 => unexpected
  | fuel + 1 => do
    let first ← readBoth fuel
    if ← acceptWord "or" then return .either first (← readEither fuel) else return first

/-- takes a conjunction -/
def readBoth : Nat → Reading Expr
  | 0 => unexpected
  | fuel + 1 => do
    let first ← readNot fuel
    if ← acceptWord "and" then return .both first (← readBoth fuel) else return first

/-- takes a negation -/
def readNot : Nat → Reading Expr
  | 0 => unexpected
  | fuel + 1 => do
    let start := (← peek).span
    if ← acceptWord "not" then do
      let inner ← readNot fuel
      return .unary (← spanFrom start) "not" inner
    else readComparison fuel

/-- takes a comparison -/
def readComparison : Nat → Reading Expr
  | 0 => unexpected
  | fuel + 1 => do
    let start := (← peek).span
    let first ← readLevel fuel operatorLevels
    match ← readCompared fuel with
    | [] => return first
    | others => return .compare (← spanFrom start) first others

/-- takes the later parts of a comparison -/
def readCompared : Nat → Reading (List (String × Expr))
  | 0 => unexpected
  | fuel + 1 => do
    let onward (operator : String) : Reading (List (String × Expr)) := do
      let e ← readLevel fuel operatorLevels
      return (operator, e) :: (← readCompared fuel)
    match (← peek).tok with
    | .op o =>
      if comparisonMarks.contains o then do
        advance
        onward o
      else return []
    | .name "in" => do
      advance
      onward "in"
    | .name "is" => do
      advance
      if ← acceptWord "not" then onward "is not" else onward "is"
    | .name "not" =>
      match (← get).rest with
      | _ :: ⟨.name "in", _⟩ :: _ => do
        advance
        advance
        onward "not in"
      | _ => do
        advance
        unexpected
    | _ => return []

/-- takes operands of the strongest levels, joined by operators of the weaker ones -/
def readLevel : Nat → List (List String) → Reading Expr
  | 0, _ => unexpected
  | fuel + 1, [] => readFactor fuel
  | fuel + 1, level :: stronger => do
    let start := (← peek).span
    let first ← readLevel fuel stronger
    readOperands fuel level stronger start first

/-- takes further operands of a level -/
def readOperands : Nat → List String → List (List String) → Span → Expr → Reading Expr
  | 0, _, _, _, _ => unexpected
  | fuel + 1, level, stronger, start, first => do
    let t ← peek
    match t.tok with
    | .op o =>
      if level.contains o then do
        let before ← get
        advance
        let next := (← peek).span
        let second ← readLevel fuel stronger
        let after ← get
        let span := start.through after.last
        let rightStart := (after.grouped.map Prod.fst).getD next.start
        let leftStop := (before.grouped.map Prod.snd).getD before.last.stop
        let anchor := anchorOf leftStop t.span rightStart before.grouped.isSome
        let anchor := if before.grouped.isNone && after.grouped.isSome && t.span.stop = next.start && o.length = 1 then
            (anchor.1, anchor.1 + 2)
          else anchor
        readOperands fuel level stronger start (.binary { span with anchor := some anchor } o first second)
      else return first
    | _ => return first

/-- takes an operand with signs in front of it -/
def readFactor : Nat → Reading Expr
  | 0 => unexpected
  | fuel + 1 => do
    let t ← peek
    match t.tok with
    | .op "-" => do
      advance
      let inner ← readFactor fuel
      return .unary (← spanFrom t.span) "-" inner
    | .op "+" => do
      advance
      let inner ← readFactor fuel
      return .unary (← spanFrom t.span) "+" inner
    | .op "~" => do
      advance
      let inner ← readFactor fuel
      return .unary (← spanFrom t.span) "~" inner
    | _ => do
      let _ ← acceptWord "await"
      let first ← readAtom fuel
      let base ← readTrailers fuel t.span first
      let before ← get
      let o ← peek
      if ← accept "**" then do
        let next := (← peek).span
        let power ← readFactor fuel
        let span ← spanFrom t.span
        let leftStop := (before.grouped.map Prod.snd).getD before.last.stop
        let anchor := anchorOf leftStop o.span next.start before.grouped.isSome
        return .binary { span with anchor := some anchor } "**" base power
      else return base

/-- takes the calls, indices and attributes that follow an atom -/
def readTrailers : Nat → Span → Expr → Reading Expr
  | 0, _, _ => unexpected
  | fuel + 1, start, object => do
    let before := (← get)
    if ← accept "(" then do
      let args ← readArgs fuel
      let rank (a : Arg) : Nat := match a with
        | .plain _ => 0
        | .several _ => 1
        | .named .. => 2
        | .mapped _ => 3
      let late : Bool := (args.zipIdx.any fun (a, i) => rank a = 0 && (args.take i).any fun b => 2 ≤ rank b)
      if late then
        let unpacks : Bool := args.any fun a => rank a = 3
        failAt (if unpacks then "positional argument follows keyword argument unpacking"
          else "positional argument follows keyword argument") (← peek).span
      expect ")"
      let span ← spanFrom start
      readTrailers fuel start (.call span object args)
    else if ← accept "[" then do
      let index ← readIndex fuel
      let inner := (← get).last
      expect "]"
      let span ← spanFrom start
      let leftStop := (before.grouped.map Prod.snd).getD before.last.stop
      let anchor := (leftStop, inner.stop + 1)
      readTrailers fuel start (.subscript { span with anchor := some anchor } object index)
    else if ← accept "." then do
      let name ← takeName
      let span ← spanFrom start
      readTrailers fuel start (.attribute span object name)
    else return object

/-- takes an index: an expression, a slice, or several of them -/
def readIndex : Nat → Reading Expr
  | 0 => unexpected
  | fuel + 1 => do
    let part : Reading Expr := do
      let bound : Reading (Option Expr) := do
        if (← sees ":") || (← sees "]") || (← sees ",") then return none else some <$> readExpr fuel
      if ← accept "*" then return .starred (← readLevel fuel operatorLevels)
      else do
        let first ← if ← sees ":" then pure none else some <$> readNamed fuel
        if ← accept ":" then do
          let second ← bound
          let third ← if ← accept ":" then bound else pure none
          return .slice first second third
        else match first with
          | some e => return e
          | none => unexpected
    let first ← part
    if ← sees "," then do
      let mut items := [first]
      for _ in List.range fuel do
        if ← accept "," then
          if !(← sees "]") then items := (← part) :: items
        else break
      return .tuple items.reverse
    else return first

/-- takes the arguments of a call, up to the closing parenthesis -/
def readArgs : Nat → Reading (List Arg)
  | 0 => unexpected
  | fuel + 1 => do
    if ← sees ")" then return []
    else do
      let t ← peek
      let arg ← if ← accept "*" then do pure (Arg.several (← readExpr fuel))
        else if ← accept "**" then do pure (Arg.mapped (← readExpr fuel))
        else match (← get).rest with
          | ⟨.name n, _⟩ :: ⟨.op "=", _⟩ :: _ => do
            advance
            advance
            pure (Arg.named n (← readExpr fuel))
          | _ => do
            let e ← readNamed fuel
            if (← seesWord "for") || (← seesWord "async") then do
              let clauses ← readClauses fuel
              pure (Arg.plain (.comprehension (← spanFrom t.span) .generator none e clauses))
            else pure (Arg.plain e)
      modify fun s => { s with item := t.span }
      if ← accept "," then return arg :: (← readArgs fuel)
      else if ← sees ")" then return [arg]
      else do
        closeGroup fuel ")"
        return [arg]

/-- takes the loops and tests of a comprehension -/
def readClauses : Nat → Reading (List Clause)
  | 0 => unexpected
  | fuel + 1 => do
    let _ ← acceptWord "async"
    if ← acceptWord "for" then do
      let target ← readTargets fuel
      expectWord "in"
      let start := (← peek).span
      let items ← readEither fuel
      let span ← spanFrom start
      return .each span target items :: (← readClauses fuel)
    else if ← acceptWord "if" then do
      let s ← get
      let test ← match s.rest with
        | ⟨.name n, _⟩ :: ⟨.op ":=", _⟩ :: _ => do
          advance
          advance
          pure (Expr.assigning n (← readEither fuel))
        | _ => readEither fuel
      return .test test :: (← readClauses fuel)
    else return []

/-- takes the targets of a loop, in front of `in` -/
def readTargets : Nat → Reading Expr
  | 0 => unexpected
  | fuel + 1 => do
    let one : Reading Expr := do
      if ← accept "*" then return .starred (← readLevel fuel operatorLevels) else readLevel fuel operatorLevels
    let first ← one
    if ← sees "," then do
      let mut items := [first]
      for _ in List.range fuel do
        if ← accept "," then
          if !(← seesWord "in") && !(← sees "=") then items := (← one) :: items
        else break
      return .tuple items.reverse
    else return first

/-- takes an atom -/
def readAtom : Nat → Reading Expr
  | 0 => unexpected
  | fuel + 1 => do
    let t ← peek
    match t.tok with
    | .number l => do
      advance
      return .literal l
    | .text _ => readTexts fuel
    | .formatted _ => readTexts fuel
    | .name n =>
      match n with
      | "None" => do advance; return .literal .none
      | "True" => do advance; return .literal (.bool true)
      | "False" => do advance; return .literal (.bool false)
      | n =>
        if keywords.contains n then unexpected
        else do
          advance
          return .name t.span n
    | .op "..." => do
      advance
      return .literal .ellipsis
    | .op "(" => do
      advance
      if ← accept ")" then return .tuple []
      else if ← seesWord "yield" then do
        let e ← readYield fuel
        expect ")"
        return e
      else do
        let start := (← peek).span
        let first ← readStarred fuel
        if (← seesWord "for") || (← seesWord "async") then do
          let clauses ← readClauses fuel
          expect ")"
          return .comprehension (← spanFrom t.span) .generator none first clauses
        else if ← sees "," then do
          let others ← readItems fuel ")"
          closeGroup fuel ")"
          return .tuple (first :: others)
        else do
          let s ← get
          let inner := (s.grouped.map Prod.snd).getD s.last.stop
          closeGroup fuel ")"
          modify fun s => { s with grouped := some (start.start, inner) }
          return first
    | .op "[" => do
      advance
      if ← accept "]" then return .list []
      else do
        let first ← readStarred fuel
        if (← seesWord "for") || (← seesWord "async") then do
          let clauses ← readClauses fuel
          closeGroup fuel "]"
          return .comprehension (← spanFrom t.span) .list none first clauses
        else do
          let others ← readItems fuel "]"
          closeGroup fuel "]"
          return .list (first :: others)
    | .op "\x7b" => do
      advance
      readBraced fuel t.span
    | _ => unexpected

/-- takes the end of a group -/
def closeGroup : Nat → String → Reading Unit
  | 0, _ => unexpected
  | fuel + 1, mark => do
    if !(← accept mark) then
      let next ← peek
      let starts : Bool := match next.tok with
        | .name n => !keywords.contains n
        | .number _ => true
        | .text _ => true
        | .formatted _ => true
        | _ => false
      if starts then
        let before ← get
        let more ← tryCatch (some <$> readExpr fuel) fun _ => return none
        let s ← get
        set before
        if more.isSome then failAt "invalid syntax. Perhaps you forgot a comma?" (before.item.through s.last)
      unexpected

/-- takes an expression that may be starred -/
def readStarred : Nat → Reading Expr
  | 0 => unexpected
  | fuel + 1 => do
    let start := (← peek).span
    let e ← if ← accept "*" then Expr.starred <$> readLevel fuel operatorLevels else readNamed fuel
    modify fun s => { s with item := start }
    return e

/-- takes further items after commas, up to a mark -/
def readItems : Nat → String → Reading (List Expr)
  | 0, _ => unexpected
  | fuel + 1, close => do
    if ← accept "," then
      if ← sees close then return []
      else do
        let e ← readStarred fuel
        return e :: (← readItems fuel close)
    else return []

/-- takes what stands between braces, with the closing one -/
def readBraced : Nat → Span → Reading Expr
  | 0, _ => unexpected
  | fuel + 1, start => do
    if ← accept "\x7d" then return .dict (← spanFrom start) []
    else if ← accept "**" then do
      let e ← readLevel fuel operatorLevels
      let others ← readEntries fuel
      expect "\x7d"
      return .dict (← spanFrom start) ((none, e) :: others)
    else do
      let first ← readStarred fuel
      let mark := (← peek).span
      if ← accept ":" then do
        if (← sees "\x7d") || (← sees ",") then failAt "expression expected after dictionary key and ':'" mark
        let value ← readExpr fuel
        if (← seesWord "for") || (← seesWord "async") then do
          let clauses ← readClauses fuel
          expect "\x7d"
          return .comprehension (← spanFrom start) .dict (some first) value clauses
        else do
          let others ← readEntries fuel
          closeGroup fuel "\x7d"
          return .dict (← spanFrom start) ((some first, value) :: others)
      else if (← seesWord "for") || (← seesWord "async") then do
        let clauses ← readClauses fuel
        expect "\x7d"
        return .comprehension (← spanFrom start) .set none first clauses
      else do
        let others ← readItems fuel "\x7d"
        closeGroup fuel "\x7d"
        return .set (first :: others)

/-- takes further entries of a map after commas -/
def readEntries : Nat → Reading (List (Option Expr × Expr))
  | 0 => unexpected
  | fuel + 1 => do
    if ← accept "," then
      if ← sees "\x7d" then return []
      else if ← accept "**" then do
        let e ← readLevel fuel operatorLevels
        return (none, e) :: (← readEntries fuel)
      else do
        let key ← readExpr fuel
        if !(← accept ":") then failAt "':' expected after dictionary key" (← get).last
        let value ← readExpr fuel
        return (some key, value) :: (← readEntries fuel)
    else return []

/-- takes texts that stand next to each other, as one -/
def readTexts : Nat → Reading Expr
  | 0 => unexpected
  | fuel + 1 => do
    let t ← peek
    match t.tok with
    | .text (.bytes o) => do
      advance
      match (← peek).tok with
      | .text (.bytes _) => do
        match ← readTexts fuel with
        | .literal (.bytes more) => return .literal (.bytes (o ++ more))
        | e => return e
      | _ => return .literal (.bytes o)
    | .text (.text o) => do
      advance
      match ← moreTexts fuel with
      | [] => return .literal (.text o)
      | [.plain more] => return .literal (.text (o ++ more))
      | .plain more :: pieces => return .formatted (.plain (o ++ more) :: pieces)
      | pieces => return .formatted (.plain o :: pieces)
    | .formatted pieces => do
      advance
      let pieces ← pieces.mapM (readPiece fuel)
      let more ← moreTexts fuel
      return .formatted (pieces ++ more)
    | _ => unexpected

/-- takes the texts that follow one, as pieces -/
def moreTexts : Nat → Reading (List Piece)
  | 0 => unexpected
  | fuel + 1 => do
    match (← peek).tok with
    | .text (.text _) => do
      match ← readTexts fuel with
      | .literal (.text o) => return [.plain o]
      | .formatted pieces => return pieces
      | _ => return []
    | .formatted _ => do
      match ← readTexts fuel with
      | .formatted pieces => return pieces
      | _ => return []
    | _ => return []

/-- reads a piece of a formatted text -/
def readPiece : Nat → RawPiece → Reading Piece
  | 0, _ => unexpected
  | fuel + 1, piece =>
    match piece with
    | .plain o => return .plain o
    | .field source line column shown conversion spec => do
      let text := if shown then (source.reverse.dropWhile fun c => c == ' ' || c == '=').reverse else source
      match tokensOf true line column text with
      | .error fault => throw { fault with message := "f-string: " ++ fault.message }
      | .ok (_, _, some fault) => throw { fault with message := "f-string: " ++ fault.message }
      | .ok (tokens, _, none) => do
        let before ← get
        set { before with rest := tokens }
        let value ← if ← seesWord "yield" then readYield fuel else do
          let first ← readStarred fuel
          if ← sees "," then do pure (Expr.tuple (first :: (← readItems fuel ")"))) else pure first
        if !(← sees ")") then
          let t ← peek
          failAt "f-string: invalid syntax" t.span
        modify fun s => { before with yields := s.yields }
        let spec ← spec.mapM (readPiece fuel)
        return .field (if shown then source else []) value conversion spec

/-- takes a yield -/
def readYield : Nat → Reading Expr
  | 0 => unexpected
  | fuel + 1 => do
    expectWord "yield"
    modify fun s => { s with yields := true }
    if ← acceptWord "from" then return .yields true (some (← readExpr fuel))
    else
      let ends : Bool := match (← peek).tok with
        | .op o => [")", "]", "=", ";", "\x7d"].contains o
        | .newline => true
        | .ended => true
        | _ => false
      if ends then return .yields false none
      else return .yields false (some (← readList fuel))

/-- takes expressions with commas between them; several ones, or one with a comma, make a tuple -/
def readList : Nat → Reading Expr
  | 0 => unexpected
  | fuel + 1 => do
    let first ← readStarred fuel
    if ← sees "," then do
      let mut items := [first]
      for _ in List.range fuel do
        if ← accept "," then
          let ends : Bool := match (← peek).tok with
            | .op o => ["=", ")", "]", "\x7d", ":", ";", "+=", "-="].contains o
            | .newline => true
            | .ended => true
            | _ => false
          if !ends then items := (← readStarred fuel) :: items
        else break
      return .tuple items.reverse
    else return first

/-- takes parameters, up to a mark; `taken` are the plain ones so far, backwards -/
def readParams : Nat → String → List (String × Option Expr) → Reading Params
  | 0, _, _ => unexpected
  | fuel + 1, close, taken => do
    let annotation : Reading Unit := do
      if close == ")" then
        if ← accept ":" then
          let _ ← if ← accept "*" then readExpr fuel else readExpr fuel
    let one : Reading (String × Option Expr) := do
      let name ← takeName
      annotation
      if ← accept "=" then return (name, some (← readExpr fuel)) else return (name, none)
    let mut plain := taken.reverse
    let mut positional := 0
    let mut rest : Option String := none
    let mut named : List (String × Option Expr) := []
    let mut others : Option String := none
    let mut starred := false
    for _ in List.range fuel do
      if ← sees close then break
      else if ← accept "/" then positional := plain.length
      else if ← accept "**" then
        others := some (← takeName)
        annotation
      else if ← accept "*" then
        starred := true
        if !(← sees ",") then
          rest := some (← takeName)
          annotation
      else
        let p ← one
        if starred then named := named ++ [p]
        else do
          if p.2.isNone && plain.any fun q => q.2.isSome then
            failAt "parameter without a default follows parameter with a default" (← get).last
          plain := plain ++ [p]
      if !(← accept ",") then break
    return .mk plain positional rest named others

end

/-! ## Statements -/

/-- whether the end of a statement comes next -/
def atEnd : Reading Bool := do
  match (← peek).tok with
  | .newline => return true
  | .ended => return true
  | .op ";" => return true
  | _ => return false

/-- the name of a module, with its parts -/
def readModule : Reading String := do
  let first ← takeName
  let mut name := first
  for _ in List.range 20 do
    if ← accept "." then name := name ++ "." ++ (← takeName) else break
  return name

/-- takes another name, if one is given -/
def readAlias : Reading (Option String) := do
  if ← acceptWord "as" then some <$> takeName else return none

/-- what is said where something cannot be given a value -/
def checkTarget (e : Expr) (span : Span) (alone : Bool) : Reading Unit := do
  if !isTarget e then
    let kind := exprKind e
    let plain : Bool := ["comparison", "None", "True", "False", "expression"].contains kind
    if alone && !plain then failAt s!"cannot assign to {kind} here. Maybe you meant '==' instead of '='?" span
    else failAt s!"cannot assign to {kind}" span

/-- takes the values that follow targets -/
def readValues (fuel : Nat) : Nat → List Expr → Reading (List Expr × Expr)
  | 0, _ => unexpected
  | bound + 1, targets => do
    let start := (← peek).span
    let value ← if ← seesWord "yield" then readYield fuel else readList fuel
    let span ← spanFrom start
    if ← accept "=" then do
      checkTarget value span true
      readValues fuel bound (value :: targets)
    else return (targets.reverse, value)

/-- takes a statement that stands on one line -/
def readSmall (fuel : Nat) : Reading Stmt := do
  let t ← peek
  let whole : Reading Span := spanFrom t.span
  let word : String := match t.tok with
    | .name n => n
    | _ => ""
  match word with
  | "pass" => do advance; return .pass
  | "break" => do advance; return .leave t.span
  | "continue" => do advance; return .again t.span
  | "return" => do
    advance
    let value ← if ← atEnd then pure none else some <$> readList fuel
    return .back (← whole) value
  | "raise" => do
    advance
    let value ← if ← atEnd then pure none else some <$> readExpr fuel
    let cause ← if ← acceptWord "from" then some <$> readExpr fuel else pure none
    return .raise (← whole) value cause
  | "global" | "nonlocal" => do
    advance
    let mut names := [← takeName]
    for _ in List.range 100 do
      if ← accept "," then names := (← takeName) :: names else break
    return .outer names
  | "del" => do
    advance
    let targets ← readList fuel
    return .delete (← whole) (match targets with
      | .tuple items => items
      | e => [e])
  | "assert" => do
    advance
    let start := (← peek).span
    let test ← readExpr fuel
    let span ← spanFrom start
    let message ← if ← accept "," then some <$> readExpr fuel else pure none
    return .assert span test message
  | "import" => do
    advance
    let mut modules := [(← readModule, ← readAlias)]
    for _ in List.range 100 do
      if ← accept "," then modules := (← readModule, ← readAlias) :: modules else break
    return .bring (← whole) modules.reverse
  | "from" => do
    advance
    let module ← readModule
    expectWord "import"
    if ← accept "*" then return .bringFrom (← whole) module [("*", none)]
    else do
      let grouped ← accept "("
      let mut names := [(← takeName, ← readAlias)]
      for _ in List.range 200 do
        if ← accept "," then
          if !grouped && (← atEnd) then
            failAt "trailing comma not allowed without surrounding parentheses" (← peek).span
          if !(← sees ")") then names := (← takeName, ← readAlias) :: names
        else break
      if grouped then expect ")"
      return .bringFrom (← whole) module names.reverse
  | word => do
    let first ← if word == "yield" then readYield fuel else readList fuel
    let span ← whole
    let next ← peek
    match next.tok with
    | .op "=" => do
      checkTarget first span true
      advance
      let (targets, value) ← readValues fuel 100 [first]
      return .assign span targets value
    | .op ":" =>
      if isTarget first then do
        advance
        let _ ← readExpr fuel
        let value ← if ← accept "=" then some <$> readList fuel else pure none
        return .annotate (← whole) first value
      else return .expr span first
    | .op o =>
      let augments : Bool := 2 ≤ o.length && o.endsWith "=" && !comparisonMarks.contains o && o != ":="
      if augments then do
        if !isTarget first then
          let kind := exprKind first
          failAt s!"'{kind}' is an illegal expression for augmented assignment" span
        advance
        let value ← if ← seesWord "yield" then readYield fuel else readList fuel
        return .augment (← whole) first (String.ofList o.toList.dropLast) value
      else return .expr span first
    | .text _ | .formatted _ | .name _ | .number _ =>
      match first with
      | .name _ word => do
        if word != "print" && word != "exec" then return .expr span first
        let s ← get
        let stop := ((s.rest.takeWhile fun t => match t.tok with
          | .newline => false
          | .ended => false
          | _ => true).getLast?.map Token.span).getD span
        failAt s!"Missing parentheses in call to '{word}'. Did you mean {word}(...)?" (span.through stop)
      | _ => return .expr span first
    | _ => return .expr span first

/-- takes the statements of a line -/
def readLine (fuel : Nat) : Nat → Reading (List Stmt)
  | 0 => unexpected
  | bound + 1 => do
    let s ← readSmall fuel
    if ← accept ";" then
      match (← peek).tok with
      | .newline => do
        advance
        return [s]
      | .ended => return [s]
      | _ => do return s :: (← readLine fuel bound)
    else match (← peek).tok with
      | .newline => do
        advance
        return [s]
      | .ended => return [s]
      | _ => unexpected

mutual

/-- takes statements up to the end of a block -/
def readStmts : Nat → Reading (List Stmt)
  | 0 => unexpected
  | fuel + 1 => do
    match (← peek).tok with
    | .dedent => return []
    | .ended => return []
    | .newline => do
      advance
      readStmts fuel
    | _ => do
      let statements ← readStmt fuel
      return statements ++ (← readStmts fuel)

/-- takes a block, after what opens it; `what` says that for a complaint -/
def readBlock : Nat → String → Nat → Reading (List Stmt)
  | 0, _, _ => unexpected
  | fuel + 1, what, line => do
    let bare : List String := ["'try' statement", "'else' statement", "'finally' statement", "function definition"]
    if bare.contains what then expect ":" else expectColon
    match (← peek).tok with
    | .newline => do
      advance
      match (← peek).tok with
      | .indent => do
        advance
        let body ← readStmts fuel
        match (← peek).tok with
        | .dedent => do
          advance
          return body
        | _ => return body
      | _ => do
        let t ← peek
        let message := s!"expected an indented block after {what} on line {line}"
        if ← onlyEnds then throw ⟨"IndentationError", message, 0, 0, 0, 0⟩
        else
          -- a place in front of the line is not marked
          let size := match t.tok with
            | .dedent => 0
            | _ => 1
          throw ⟨"IndentationError", message, t.span.line, t.span.start, t.span.start + size, t.span.line⟩
    | _ => readLine fuel 1000

/-- takes a test, in which no name is given a value by a plain mark -/
def readTest : Nat → Reading Expr
  | 0 => unexpected
  | fuel + 1 => do
    let start := (← peek).span
    let test ← readNamed fuel
    if ← accept "=" then
      let _ ← readLevel fuel operatorLevels
      match test with
      | .name .. => failAt "invalid syntax. Maybe you meant '==' or ':=' instead of '='?" (← spanFrom start)
      | e =>
        let kind := exprKind e
        failAt s!"cannot assign to {kind} here. Maybe you meant '==' instead of '='?" start
    return test

/-- takes the rest of a branch, after its first word -/
def readBranch : Nat → Span → String → Reading Stmt
  | 0, _, _ => unexpected
  | fuel + 1, start, word => do
    let test ← readTest fuel
    let span ← spanFrom start
    let body ← readBlock fuel s!"'{word}' statement" start.line
    let next := (← peek).span
    if ← acceptWord "elif" then return .branch span test body [← readBranch fuel next "elif"]
    else if ← acceptWord "else" then
      return .branch span test body (← readBlock fuel "'else' statement" next.line)
    else return .branch span test body []

/-- takes the block after a loop, if there is one -/
def readElse : Nat → Reading (List Stmt)
  | 0 => unexpected
  | fuel + 1 => do
    let next := (← peek).span
    if ← acceptWord "else" then readBlock fuel "'else' statement" next.line else return []

/-- takes the handlers of exceptions -/
def readHandlers : Nat → Reading (List Handler)
  | 0 => unexpected
  | fuel + 1 => do
    let start := (← peek).span
    if ← acceptWord "except" then do
      let _ ← accept "*"
      let bare : Bool := match (← peek).tok with
        | .newline => true
        | _ => false
      let kind ← if bare || (← sees ":") then pure none else some <$> readExpr fuel
      let name ← readAlias
      let span ← spanFrom start
      let body ← readBlock fuel "'except' statement" start.line
      return .mk span kind name body :: (← readHandlers fuel)
    else return []

/-- takes the managers of a context -/
def readManagers : Nat → Reading (List (Expr × Option Expr))
  | 0 => unexpected
  | fuel + 1 => do
    let e ← readExpr fuel
    let target ← if ← acceptWord "as" then some <$> readLevel fuel operatorLevels else pure none
    if ← accept "," then
      if ← sees ")" then return [(e, target)] else return (e, target) :: (← readManagers fuel)
    else return [(e, target)]

/-- takes a function, after its first word -/
def readFunction : Nat → Span → List Expr → Reading Stmt
  | 0, _, _ => unexpected
  | fuel + 1, start, decorators => do
    let name ← takeName
    if !(← sees "(") then failAt "expected '('" (← peek).span
    advance
    let params ← readParams fuel ")" []
    expect ")"
    if ← accept "->" then
      let _ ← readExpr fuel
    let span ← spanFrom start
    let before := (← get).yields
    modify fun s => { s with yields := false }
    let body ← readBlock fuel "function definition" start.line
    let yields := (← get).yields
    modify fun s => { s with yields := before }
    return .function span decorators name params (localNames params body) yields body

/-- takes a class, after its first word -/
def readClass : Nat → Span → List Expr → Reading Stmt
  | 0, _, _ => unexpected
  | fuel + 1, start, decorators => do
    let name ← takeName
    let bases ← if ← accept "(" then do
        let args ← readArgs fuel
        expect ")"
        pure args
      else pure []
    let span ← spanFrom start
    return .classOf span decorators name bases (← readBlock fuel "class definition" start.line)

/-- takes a pattern with options -/
def readShape : Nat → Reading Shape
  | 0 => unexpected
  | fuel + 1 => do
    let first ← readShapeOption fuel
    let mut options := [first]
    for _ in List.range fuel do
      if ← accept "|" then options := (← readShapeOption fuel) :: options else break
    let shape := match options with
      | [only] => only
      | several => .either several.reverse
    if ← acceptWord "as" then return .named shape (← takeName) else return shape

/-- takes a pattern that may be starred, or several ones -/
def readOpenShape : Nat → Reading Shape
  | 0 => unexpected
  | fuel + 1 => do
    let first ← readShapeItem fuel
    if ← sees "," then do
      let mut items := [first]
      for _ in List.range fuel do
        if ← accept "," then
          if !(← sees ":") && !(← seesWord "if") then items := (← readShapeItem fuel) :: items
        else break
      return .sequence items.reverse
    else match first with
      | .rest _ => return .sequence [first]
      | shape => return shape

/-- takes a pattern in a sequence -/
def readShapeItem : Nat → Reading Shape
  | 0 => unexpected
  | fuel + 1 => do
    if ← accept "*" then
      let name ← takeName
      return .rest (if name == "_" then none else some name)
    else readShape fuel

/-- takes patterns with commas between them, up to a mark -/
def readShapes : Nat → String → Reading (List Shape)
  | 0, _ => unexpected
  | fuel + 1, close => do
    if ← accept close then return []
    else do
      let shape ← readShapeItem fuel
      if !(← accept ",") then
        expect close
        return [shape]
      else return shape :: (← readShapes fuel close)

/-- takes one option of a pattern -/
def readShapeOption : Nat → Reading Shape
  | 0 => unexpected
  | fuel + 1 => do
    let t ← peek
    match t.tok with
    | .op "[" => do
      advance
      return .sequence (← readShapes fuel "]")
    | .op "(" => do
      advance
      let before := (← get).rest
      match ← readShapes fuel ")" with
      | [only] =>
        let taken := before.take (before.length - (← get).rest.length)
        let comma : Bool := match (taken.reverse.drop 1).head? with
          | some ⟨.op ",", _⟩ => true
          | _ => false
        return if comma then .sequence [only] else match only with
          | .rest _ => .sequence [only]
          | shape => shape
      | items => return .sequence items
    | .op "\x7b" => do
      advance
      let mut entries : List (Expr × Shape) := []
      let mut rest : Option String := none
      for _ in List.range fuel do
        if ← sees "\x7d" then break
        else if ← accept "**" then rest := some (← takeName)
        else
          let key ← readLevel fuel operatorLevels
          expect ":"
          entries := entries ++ [(key, ← readShape fuel)]
        if !(← accept ",") then break
      expect "\x7d"
      return .mapping entries rest
    | .name n =>
      if keywords.contains n then return .value (← readLevel fuel operatorLevels)
      else do
        advance
        let mut e : Expr := .name t.span n
        let mut dotted := false
        for _ in List.range fuel do
          if ← accept "." then
            let name ← takeName
            dotted := true
            e := .attribute (← spanFrom t.span) e name
          else break
        if ← accept "(" then do
          let mut items : List Shape := []
          let mut named : List (String × Shape) := []
          for _ in List.range fuel do
            if ← sees ")" then break
            match (← get).rest with
            | ⟨.name k, _⟩ :: ⟨.op "=", _⟩ :: _ => do
              advance
              advance
              named := named ++ [(k, ← readShape fuel)]
            | _ => items := items ++ [← readShape fuel]
            if !(← accept ",") then break
          expect ")"
          return .instanceOf (← spanFrom t.span) e items named
        else if dotted then return .value e
        else return .capture (if n == "_" then none else some n)
    | _ => return .value (← readLevel fuel operatorLevels)

/-- takes the cases of a choice -/
def readChoices : Nat → Reading (List Choice)
  | 0 => unexpected
  | fuel + 1 => do
    let start := (← peek).span
    if ← acceptWord "case" then do
      let shape ← readOpenShape fuel
      let test ← if ← acceptWord "if" then some <$> readNamed fuel else pure none
      let body ← readBlock fuel "'case' statement" start.line
      return .mk shape test body :: (← readChoices fuel)
    else return []

/-- takes a statement, or those of one line -/
def readStmt : Nat → Reading (List Stmt)
  | 0 => unexpected
  | fuel + 1 => do
    let t ← peek
    let word : String := match t.tok with
      | .name n => n
      | _ => ""
    match word with
    | "if" => do
      advance
      return [← readBranch fuel t.span "if"]
    | "while" => do
      advance
      let test ← readTest fuel
      let span ← spanFrom t.span
      let body ← readBlock fuel "'while' statement" t.span.line
      return [.whileLoop span test body (← readElse fuel)]
    | "for" => do
      advance
      let target ← readTargets fuel
      expectWord "in"
      let start := (← peek).span
      let items ← readList fuel
      let span ← spanFrom start
      let body ← readBlock fuel "'for' statement" t.span.line
      return [.each span target items body (← readElse fuel)]
    | "def" => do
      advance
      return [← readFunction fuel t.span []]
    | "class" => do
      advance
      return [← readClass fuel t.span []]
    | "try" => do
      advance
      let body ← readBlock fuel "'try' statement" t.span.line
      let handlers ← readHandlers fuel
      let otherwise ← readElse fuel
      let next := (← peek).span
      let last ← if ← acceptWord "finally" then readBlock fuel "'finally' statement" next.line else pure []
      if handlers.isEmpty && last.isEmpty then
        let message := "expected 'except' or 'finally' block"
        if ← onlyEnds then throw ⟨"SyntaxError", message, 0, 0, 0, 0⟩ else failAt message (← peek).span
      return [.guarded body handlers otherwise last]
    | "with" => do
      advance
      let before ← get
      let grouped : Reading (List (Expr × Option Expr)) := do
        expect "("
        let items ← readManagers fuel
        expect ")"
        if !(← sees ":") then unexpected
        return items
      let items ← if ← sees "(" then
          tryCatch grouped fun _ => do
            set before
            readManagers fuel
        else readManagers fuel
      let span ← spanFrom t.span
      let body ← readBlock fuel "'with' statement" t.span.line
      return [.within span items body]
    | "match" => do
      let before ← get
      let choosing : Reading Stmt := do
        advance
        let start := (← peek).span
        let subject ← readList fuel
        let span ← spanFrom start
        expect ":"
        match (← peek).tok with
        | .newline => advance
        | _ => unexpected
        match (← peek).tok with
        | .indent => advance
        | _ => unexpected
        let cases ← readChoices fuel
        if cases.isEmpty then unexpected
        match (← peek).tok with
        | .dedent => advance
        | .ended => pure ()
        | _ => unexpected
        return .choose span subject cases
      let found ← tryCatch (some <$> choosing) fun _ => do
        set before
        return none
      match found with
      | some s => return [s]
      | none => readLine fuel 1000
    | "async" => do
      advance
      readStmt fuel
    | _ =>
      if ← sees "@" then do
        let mut decorators : List Expr := []
        for _ in List.range fuel do
          if ← accept "@" then
            decorators := decorators ++ [← readNamed fuel]
            match (← peek).tok with
            | .newline => advance
            | _ => unexpected
          else break
        let start := (← peek).span
        if ← acceptWord "class" then return [← readClass fuel start decorators]
        else do
          let _ ← acceptWord "async"
          expectWord "def"
          return [← readFunction fuel start decorators]
      else readLine fuel 1000

end

mutual

/-- what stands where it has no meaning: the end of a function outside of one, or that of a round outside a loop -/
def misplaced? (inside looping : Bool) : Stmt → Option (String × Span)
  | .back span _ => if inside then none else some ("'return' outside function", span)
  | .leave span => if looping then none else some ("'break' outside loop", span)
  | .again span => if looping then none else some ("'continue' not properly in loop", span)
  | .branch _ _ a b => (misplacedIn? inside looping a).orElse fun _ => misplacedIn? inside looping b
  | .whileLoop _ _ a b => (misplacedIn? inside true a).orElse fun _ => misplacedIn? inside looping b
  | .each _ _ _ a b => (misplacedIn? inside true a).orElse fun _ => misplacedIn? inside looping b
  | .function _ _ _ _ _ _ body => misplacedIn? true false body
  | .classOf _ _ _ _ body => misplacedIn? false false body
  | .guarded a handlers b c =>
    (misplacedIn? inside looping a).orElse fun _ => (misplacedInHandlers? inside looping handlers).orElse fun _ =>
      (misplacedIn? inside looping b).orElse fun _ => misplacedIn? inside looping c
  | .within _ _ a => misplacedIn? inside looping a
  | .choose _ _ cases => misplacedInChoices? inside looping cases
  | _ => none

/-- what stands in statements where it has no meaning -/
def misplacedIn? (inside looping : Bool) : List Stmt → Option (String × Span)
  | [] => none
  | s :: rest => (misplaced? inside looping s).orElse fun _ => misplacedIn? inside looping rest

/-- what stands in handlers where it has no meaning -/
def misplacedInHandlers? (inside looping : Bool) : List Handler → Option (String × Span)
  | [] => none
  | .mk _ _ _ body :: rest => (misplacedIn? inside looping body).orElse fun _ => misplacedInHandlers? inside looping rest

/-- what stands in cases where it has no meaning -/
def misplacedInChoices? (inside looping : Bool) : List Choice → Option (String × Span)
  | [] => none
  | .mk _ _ body :: rest => (misplacedIn? inside looping body).orElse fun _ => misplacedInChoices? inside looping rest

end

/-- reads a program; gives the escapes without a meaning too, with their lines. A bracket that is never closed is to blame
for what is wrong on later lines. -/
def readProgram (o : Characters) : Except Fault (List Stmt × List (Nat × Char)) := do
  let (tokens, odd, unclosed) ← tokensOf false 1 0 o
  let statements : Except Fault (List Stmt) := do
    let (statements, s) ← (readStmts (30 * tokens.length + 100)).run ⟨tokens, default, none, false, default⟩
    match (s.rest.head?.map Token.tok).getD .ended with
    | .ended => return statements
    | _ =>
      let span := (s.rest.head?.map Token.span).getD default
      throw ⟨"IndentationError", "unexpected indent", span.line, span.start, span.start, span.line⟩
  match statements, unclosed with
  | .ok statements, none =>
    match misplacedIn? false false statements with
    | some (message, span) =>
      throw ⟨"SyntaxError", message, span.line, span.start, span.stop, 0⟩
    | none => return (statements, odd)
  | .error fault, none => throw fault
  | .ok _, some open_ => throw open_
  | .error fault, some open_ =>
    let stop := (tokens.getLast?.map Token.span).getD default
    throw (if fault.reached ≤ open_.line && (fault.line, fault.start) != (stop.line, stop.start) then fault else open_)

end ScriptBridge.Shell.BlockScript
