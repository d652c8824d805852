/-
Reading programs for records. Operators bind from `?:` (least) over `||`, `&&`, `in`, `~`, comparisons, a command that is
read from, texts side by side, sums, products and signs to powers (most); an assignment takes all that follows it. After
`print`, a `>` outside parentheses leads to a file.
-/
import ScriptBridge.Shell.RecordScript.Token
import ScriptBridge.Table

namespace ScriptBridge.Shell.RecordScript

/-- where a reader has got to: the tokens that are left, how many loops are open, whether a function is read, and the
functions that were called -/
structure Place where
  rest : List (Token × Nat)
  loops : Nat
  inFunction : Bool
  called : List Octets

/-- a reader -/
abbrev Reading (α : Type) := StateT Place (Except Fault) α

namespace Reading

/-- the next token -/
def peek : Reading Token := do return ((← get).rest.head?.map Prod.fst).getD .ended

/-- goes past a token -/
def skip : Reading Unit := modify fun p => { p with rest := p.rest.drop 1 }

/-- ends reading with a complaint -/
def fault {α : Type} (message : Octets) : Reading α := do
  throw (.wrong (((← get).rest.head?.map Prod.snd).getD 1) message)

/-- ends reading at a token that cannot stand there -/
def unexpected {α : Type} : Reading α := do
  fault (octets "syntax error at or near " ++ (← peek).shown)

/-- whether the next token is a mark -/
def isMark (o : String) : Reading Bool := do
  match ← peek with
  | .mark m => return m == o
  | _ => return false

/-- whether the next token is a word -/
def isWord (name : String) : Reading Bool := do
  match ← peek with
  | .word w => return w == name
  | _ => return false

/-- goes past a mark if it is next -/
def accept (o : String) : Reading Bool := do
  if ← isMark o then
    skip
    return true
  else return false

/-- goes past a mark that has to be next -/
def expect (o : String) : Reading Unit := do
  if !(← accept o) then
    match o, ← peek with
    | ")", t => fault (octets "missing ) near " ++ t.shown)
    | "\x7d", .ended => fault (octets "missing \x7d near end of file")
    | _, _ => unexpected

/-- goes past the ends of lines -/
def skipLines : Reading Unit := modify fun p => { p with rest := p.rest.dropWhile fun t => match t.1 with
  | .newline => true
  | _ => false }

/-- goes past the ends of lines and of statements -/
def skipEnds : Reading Unit := modify fun p => { p with rest := p.rest.dropWhile fun t => match t.1 with
  | .newline => true
  | .mark o => o == ";"
  | _ => false }

/-- goes past the end of a statement; a brace ends it too -/
def endStatement : Reading Unit := do
  match ← peek with
  | .newline => skip
  | .ended => pure ()
  | .mark ";" => skip
  | .mark "\x7d" => pure ()
  | _ => unexpected

end Reading

open Reading

/-- whether an expression can be given a value -/
def Expression.isPlace : Expression → Bool
  | .name _ => true
  | .element .. => true
  | .field _ => true
  | _ => false

/-- the operator of an assignment; `none` when the mark is no assignment -/
def assignment? (o : String) : Option (Option Operator) :=
  match o with
  | "=" => some none
  | "+=" => some (some .add)
  | "-=" => some (some .sub)
  | "*=" => some (some .mul)
  | "/=" => some (some .div)
  | "%=" => some (some .rem)
  | "^=" => some (some .pow)
  | _ => none

/-- the comparison of a mark; `toFile` says that `>` leads to a file -/
def comparison? (toFile : Bool) (o : String) : Option Comparison :=
  match o with
  | "<" => some .less
  | "<=" => some .atMost
  | "==" => some .same
  | "!=" => some .different
  | ">" => if toFile then none else some .more
  | ">=" => some .atLeast
  | _ => none

/-- whether a token can begin a value that stands right after another one -/
def Token.beginsValue : Token → Bool
  | .number .. => true
  | .text _ => true
  | .regex _ => true
  | .name _ => true
  | .call _ => true
  | .builtin _ => true
  | .mark o => o == "$" || o == "(" || o == "++" || o == "--"
  | _ => false

mutual

/-- an expression -/
def expression : Nat → Bool → Reading Expression
  | 0, _ => unexpected
  | fuel + 1, toFile => do
    let condition ← eitherOf fuel toFile
    if ← accept "?" then
      skipLines
      let a ← expression fuel toFile
      skipLines
      expect ":"
      skipLines
      return .choice condition a (← expression fuel toFile)
    else return condition

/-- conditions with `||` between them -/
def eitherOf : Nat → Bool → Reading Expression
  | 0, _ => unexpected
  | fuel + 1, toFile => do
    let a ← bothOf fuel toFile
    moreEither fuel toFile a

/-- further conditions after `||` -/
def moreEither : Nat → Bool → Expression → Reading Expression
  | 0, _, _ => unexpected
  | fuel + 1, toFile, a => do
    if ← accept "||" then
      skipLines
      let b ← bothOf fuel toFile
      moreEither fuel toFile (.either a b)
    else return a

/-- conditions with `&&` between them -/
def bothOf : Nat → Bool → Reading Expression
  | 0, _ => unexpected
  | fuel + 1, toFile => do
    let a ← withinOf fuel toFile
    moreBoth fuel toFile a

/-- further conditions after `&&` -/
def moreBoth : Nat → Bool → Expression → Reading Expression
  | 0, _, _ => unexpected
  | fuel + 1, toFile, a => do
    if ← accept "&&" then
      skipLines
      let b ← withinOf fuel toFile
      moreBoth fuel toFile (.both a b)
    else return a

/-- questions whether an array has a key -/
def withinOf : Nat → Bool → Reading Expression
  | 0, _ => unexpected
  | fuel + 1, toFile => do
    let a ← matchingOf fuel toFile
    moreWithin fuel a

/-- further arrays after `in` -/
def moreWithin : Nat → Expression → Reading Expression
  | 0, _ => unexpected
  | fuel + 1, a => do
    if ← isWord "in" then
      skip
      match ← peek with
      | .name array => do
        skip
        moreWithin fuel (.within [a] array)
      | _ => unexpected
    else return a

/-- searches of values -/
def matchingOf : Nat → Bool → Reading Expression
  | 0, _ => unexpected
  | fuel + 1, toFile => do
    let a ← comparisonOf fuel toFile
    moreMatching fuel toFile a

/-- further searches -/
def moreMatching : Nat → Bool → Expression → Reading Expression
  | 0, _, _ => unexpected
  | fuel + 1, toFile, a => do
    if ← accept "~" then
      let b ← comparisonOf fuel toFile
      moreMatching fuel toFile (.matching true a b)
    else if ← accept "!~" then
      let b ← comparisonOf fuel toFile
      moreMatching fuel toFile (.matching false a b)
    else return a

/-- a comparison -/
def comparisonOf : Nat → Bool → Reading Expression
  | 0, _ => unexpected
  | fuel + 1, toFile => do
    let a ← pipedOf fuel
    match ← peek with
    | .mark o =>
      match comparison? toFile o with
      | some comparison => do
        skip
        return .compare comparison a (← pipedOf fuel)
      | none => return a
    | _ => return a

/-- values with commands that are read from -/
def pipedOf : Nat → Reading Expression
  | 0 => unexpected
  | fuel + 1 => do
    let a ← joinedOf fuel
    morePiped fuel a

/-- further readings from commands -/
def morePiped : Nat → Expression → Reading Expression
  | 0, _ => unexpected
  | fuel + 1, a => do
    match (← get).rest with
    | (.mark "|", _) :: (.word "getline", _) :: _ => do
      skip
      skip
      let target ← placeOf? fuel
      morePiped fuel (.readCommand target a)
    | _ => return a

/-- values side by side -/
def joinedOf : Nat → Reading Expression
  | 0 => unexpected
  | fuel + 1 => do
    let a ← sumOf fuel
    moreJoined fuel a

/-- further values side by side -/
def moreJoined : Nat → Expression → Reading Expression
  | 0, _ => unexpected
  | fuel + 1, a => do
    if (← peek).beginsValue then
      let b ← sumOf fuel
      moreJoined fuel (.join a b)
    else return a

/-- sums -/
def sumOf : Nat → Reading Expression
  | 0 => unexpected
  | fuel + 1 => do
    let a ← productOf fuel
    moreSum fuel a

/-- further terms of a sum -/
def moreSum : Nat → Expression → Reading Expression
  | 0, _ => unexpected
  | fuel + 1, a => do
    if ← accept "+" then
      let b ← productOf fuel
      moreSum fuel (.arithmetic .add a b)
    else if ← accept "-" then
      let b ← productOf fuel
      moreSum fuel (.arithmetic .sub a b)
    else return a

/-- products -/
def productOf : Nat → Reading Expression
  | 0 => unexpected
  | fuel + 1 => do
    let a ← signedOf fuel
    moreProduct fuel a

/-- further factors of a product -/
def moreProduct : Nat → Expression → Reading Expression
  | 0, _ => unexpected
  | fuel + 1, a => do
    if ← accept "*" then
      let b ← signedOf fuel
      moreProduct fuel (.arithmetic .mul a b)
    else if ← accept "/" then
      let b ← signedOf fuel
      moreProduct fuel (.arithmetic .div a b)
    else if ← accept "%" then
      let b ← signedOf fuel
      moreProduct fuel (.arithmetic .rem a b)
    else return a

/-- values with signs -/
def signedOf : Nat → Reading Expression
  | 0 => unexpected
  | fuel + 1 => do
    if ← accept "!" then return .negation (← signedOf fuel)
    else if ← accept "-" then return .minus (← signedOf fuel)
    else if ← accept "+" then return .plus (← signedOf fuel)
    else powerOf fuel

/-- powers -/
def powerOf : Nat → Reading Expression
  | 0 => unexpected
  | fuel + 1 => do
    let a ← countedOf fuel
    if ← accept "^" then return .arithmetic .pow a (← signedOf fuel) else return a

/-- values that one is added to or taken from -/
def countedOf : Nat → Reading Expression
  | 0 => unexpected
  | fuel + 1 => do
    if ← accept "++" then
      let a ← valueOf fuel false
      if a.isPlace then return .bump a true true else unexpected
    else if ← accept "--" then
      let a ← valueOf fuel false
      if a.isPlace then return .bump a false true else unexpected
    else
      let a ← valueOf fuel true
      if !a.isPlace then return a
      else if ← accept "++" then return .bump a true false
      else if ← accept "--" then return .bump a false false
      else return a

/-- a value; `assigns` says that an assignment may follow -/
def valueOf : Nat → Bool → Reading Expression
  | 0, _ => unexpected
  | fuel + 1, assigns => do
    let assigned (target : Expression) : Reading Expression := do
      match ← peek with
      | .mark o =>
        match (if assigns then assignment? o else none) with
        | some operator => do
          skip
          skipLines
          return .assign target operator (← expression fuel false)
        | none => return target
      | _ => return target
    match ← peek with
    | .number x _ => do
      skip
      return .number x
    | .text o => do
      skip
      return .text o
    | .regex o => do
      skip
      return .regex o
    | .name o => do
      skip
      if ← accept "[" then
        let keys ← listOf fuel
        expect "]"
        assigned (.element o keys)
      else assigned (.name o)
    | .mark "$" => do
      skip
      let index ← if ← accept "-" then Expression.minus <$> valueOf fuel false
        else if ← accept "++" then (Expression.bump · true true) <$> valueOf fuel false
        else if ← accept "--" then (Expression.bump · false true) <$> valueOf fuel false
        else valueOf fuel false
      assigned (.field index)
    | .mark "(" => do
      skip
      let items ← listOf fuel
      expect ")"
      match items with
      | [a] => return a
      | items =>
        if !(← isWord "in") then unexpected
        skip
        match ← peek with
        | .name array => do
          skip
          return .within items array
        | _ => unexpected
    | .call o => do
      skip
      expect "("
      let args ← if ← isMark ")" then pure [] else listOf fuel
      expect ")"
      modify fun p => { p with called := o :: p.called }
      return .call o args
    | .builtin name => do
      skip
      if ← accept "(" then
        let args ← if ← isMark ")" then pure [] else listOf fuel
        expect ")"
        match builtinNames.find? fun b => b.1 == name with
        | some (_, least, most) =>
          if args.length < least || most < args.length then
            fault (octets ("wrong number of arguments in call to " ++ name))
          else return .builtin name args
        | none => unexpected
      else if name == "length" then return .builtin name []
      else unexpected
    | .word "getline" => do
      skip
      let target ← placeOf? fuel
      if ← accept "<" then return .readFile target (← valueOf fuel false) else return .readRecord target
    | .mark "-" => do
      skip
      return .minus (← signedOf fuel)
    | _ => unexpected

/-- a place to put what is read, if one follows -/
def placeOf? : Nat → Reading (Option Expression)
  | 0 => unexpected
  | fuel + 1 => do
    match ← peek with
    | .name _ => do return some (← valueOf fuel false)
    | .mark "$" => do return some (← valueOf fuel false)
    | _ => return none

/-- expressions with commas between them -/
def listOf : Nat → Reading (List Expression)
  | 0 => unexpected
  | fuel + 1 => do
    skipLines
    let a ← expression fuel false
    skipLines
    if ← accept "," then return a :: (← listOf fuel) else return [a]

end

/-- expressions after `print`, up to where the output goes -/
def printedOf : Nat → Reading (List Expression)
  | 0 => unexpected
  | fuel + 1 => do
    let a ← expression fuel true
    if ← accept "," then
      skipLines
      return a :: (← printedOf fuel)
    else return [a]

/-- whether a statement or its output ends here -/
def endsPrint : Token → Bool
  | .newline => true
  | .ended => true
  | .mark o => [";", "\x7d", ">", ">>", "|"].contains o
  | _ => false

/-- what follows `print` -/
def printOf (fuel : Nat) (formatted : Bool) : Reading Statement := do
  let start ← get
  let grouped : Reading (Option (List Expression)) := do
    if ← accept "(" then
      let items ← if ← isMark ")" then pure [] else listOf fuel
      expect ")"
      if endsPrint (← peek) then return some items else return none
    else return none
  let grouped? : Option (List Expression × Place) := match grouped.run start with
    | .ok (some items, p) => some (items, p)
    | _ => none
  let args ← match grouped? with
    | some (items, p) => do
      set p
      pure items
    | none => if endsPrint (← peek) then pure [] else printedOf fuel
  if formatted && args.isEmpty then fault (octets "no arguments in call to printf")
  let outlet? : Option Outlet := match ← peek with
    | .mark ">" => some .file
    | .mark ">>" => some .append
    | .mark "|" => some .command
    | _ => none
  match outlet? with
  | some outlet => do
    skip
    return .print formatted args (some (outlet, ← expression fuel true))
  | none => return .print formatted args none

mutual

/-- a statement that a line can hold several of -/
def simpleOf : Nat → Reading Statement
  | 0 => unexpected
  | fuel + 1 => do
    match ← peek with
    | .word "print" => do
      skip
      printOf fuel false
    | .word "printf" => do
      skip
      printOf fuel true
    | .word "delete" => do
      skip
      match ← peek with
      | .name array => do
        skip
        if ← accept "[" then
          let keys ← listOf fuel
          expect "]"
          return .delete array keys
        else return .delete array []
      | _ => unexpected
    | _ => return .value (← expression fuel false)

/-- a statement -/
def statementOf : Nat → Reading Statement
  | 0 => unexpected
  | fuel + 1 => do
    let ended (s : Statement) : Reading Statement := do
      endStatement
      return s
    let optional : Reading (Option Expression) := do
      match ← peek with
      | .newline => return none
      | .ended => return none
      | .mark ";" => return none
      | .mark "\x7d" => return none
      | _ => return some (← expression fuel false)
    let body : Reading Statement := do
      modify fun p => { p with loops := p.loops + 1 }
      skipLines
      let s ← statementOf fuel
      modify fun p => { p with loops := p.loops - 1 }
      return s
    match ← peek with
    | .mark "\x7b" => blockOf fuel
    | .mark ";" => do
      skip
      return .block []
    | .word "if" => do
      skip
      expect "("
      let condition ← expression fuel false
      expect ")"
      skipLines
      let first ← statementOf fuel
      let before ← get
      skipEnds
      if ← isWord "else" then
        skip
        skipLines
        return .branch condition first (← statementOf fuel)
      else
        set before
        return .branch condition first (.block [])
    | .word "while" => do
      skip
      expect "("
      let condition ← expression fuel false
      expect ")"
      if ← accept ";" then return .loop condition (.block [])
      return .loop condition (← body)
    | .word "do" => do
      skip
      let s ← body
      skipEnds
      if !(← isWord "while") then unexpected
      skip
      expect "("
      let condition ← expression fuel false
      expect ")"
      ended (.loopAfter s condition)
    | .word "for" => do
      skip
      expect "("
      match (← get).rest with
      | (.name name, _) :: (.word "in", _) :: (.name array, _) :: (.mark ")", _) :: rest => do
        modify fun p => { p with rest }
        return .each name array (← body)
      | _ => do
        let first ← if ← isMark ";" then pure none else some <$> simpleOf fuel
        expect ";"
        skipLines
        let condition ← if ← isMark ";" then pure none else some <$> expression fuel false
        expect ";"
        skipLines
        let step ← if ← isMark ")" then pure none else some <$> simpleOf fuel
        expect ")"
        if ← accept ";" then return .count first condition step (.block [])
        return .count first condition step (← body)
    | .word "next" => do
      skip
      ended .next
    | .word "nextfile" => do
      skip
      ended .nextFile
    | .word "exit" => do
      skip
      ended (.exit (← optional))
    | .word "return" => do
      if !(← get).inFunction then fault (octets "return outside function body")
      skip
      ended (.back (← optional))
    | .word "break" => do
      if (← get).loops = 0 then fault (octets "break statement outside of loop")
      skip
      ended .leave
    | .word "continue" => do
      if (← get).loops = 0 then fault (octets "continue statement outside of loop")
      skip
      ended .again
    | _ => do ended (← simpleOf fuel)

/-- statements in braces -/
def blockOf : Nat → Reading Statement
  | 0 => unexpected
  | fuel + 1 => do
    expect "\x7b"
    let body ← statementsOf fuel
    expect "\x7d"
    return .block body

/-- statements up to a brace -/
def statementsOf : Nat → Reading (List Statement)
  | 0 => unexpected
  | fuel + 1 => do
    skipEnds
    match ← peek with
    | .mark "\x7d" => return []
    | .ended => return []
    | _ => do
      let s ← statementOf fuel
      return s :: (← statementsOf fuel)

end

/-- the names of parameters -/
def parametersOf : Nat → Reading (List Octets)
  | 0 => unexpected
  | fuel + 1 => do
    skipLines
    match ← peek with
    | .name o => do
      skip
      skipLines
      if ← accept "," then return o :: (← parametersOf fuel) else return [o]
    | _ => unexpected

/-- the rules and the functions of a program -/
def itemsOf : Nat → Program → Reading Program
  | 0, _ => unexpected
  | fuel + 1, program => do
    skipEnds
    let rule (pattern : Pattern) (body : Statement) : Reading Program :=
      itemsOf fuel { program with rules := program.rules ++ [⟨pattern, body⟩] }
    match ← peek with
    | .ended => return program
    | .word "BEGIN" => do
      skip
      rule .first (← blockOf fuel)
    | .word "END" => do
      skip
      rule .last (← blockOf fuel)
    | .mark "\x7b" => do rule .every (← blockOf fuel)
    | .word "function" => do
      skip
      let name ← match ← peek with
        | .call o => pure o
        | .name o => pure o
        | _ => unexpected
      if (Table.find? name program.functions).isSome then fault (octets "redefinition of " ++ name)
      skip
      expect "("
      let parameters ← if ← isMark ")" then pure [] else parametersOf fuel
      expect ")"
      skipLines
      modify fun p => { p with inFunction := true }
      let body ← blockOf fuel
      modify fun p => { p with inFunction := false }
      itemsOf fuel { program with functions := program.functions ++ [(name, ⟨parameters, body⟩)] }
    | _ => do
      let start ← expression fuel false
      let pattern ← if ← accept "," then
          skipLines
          Pattern.between start <$> expression fuel false
        else pure (.holds start)
      if ← isMark "\x7b" then rule pattern (← blockOf fuel)
      else
        match ← peek with
        | .newline => rule pattern (.print false [] none)
        | .mark ";" => rule pattern (.print false [] none)
        | .ended => rule pattern (.print false [] none)
        | _ => unexpected

/-- reads a program -/
def Program.read (o : Octets) : Except Fault Program := do
  let all ← tokens (o.length + 2) .newline 1 (o ++ ['\n'])
  let (program, place) ← (itemsOf (40 * all.length + 100) ⟨[], []⟩).run ⟨all, 0, false, []⟩
  match place.called.reverse.find? fun name => (Table.find? name program.functions).isNone with
  | some name => .error (.wrong ((all.getLast?.map Prod.snd).getD 1) (octets "function " ++ name ++ octets " never defined"))
  | none => return program

end ScriptBridge.Shell.RecordScript
