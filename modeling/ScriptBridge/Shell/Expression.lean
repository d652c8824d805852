/-
Expressions of whole numbers and texts, one word for each operand and operator, as `expr` computes them. What is false
is the empty text or zero, and gives the status one.
-/
import ScriptBridge.Shell.Regex
import ScriptBridge.Shell.Utility

namespace ScriptBridge.Shell

/-- why an expression has no value -/
inductive ExpressionFault where
  | missingAfter (word : Octets)
  | unexpected (word : Octets)
  | expecting (wanted : String) (after : Octets)
  | expectingInstead (wanted : String) (found : Octets)
  | division
  | noInteger
  | pattern (fault : RegexFault)
deriving DecidableEq

/-- the wording of a fault -/
def ExpressionFault.message : ExpressionFault → Octets
  | missingAfter word => octets "syntax error: missing argument after '" ++ word ++ ['\'']
  | unexpected word => octets "syntax error: unexpected argument '" ++ word ++ ['\'']
  | expecting wanted after => octets ("syntax error: expecting '" ++ wanted ++ "' after '") ++ after ++ ['\'']
  | expectingInstead wanted found =>
    octets ("syntax error: expecting '" ++ wanted ++ "' instead of '") ++ found ++ ['\'']
  | division => octets "division by zero"
  | noInteger => octets "non-integer argument"
  | pattern fault => octets fault.message

/-- the words of an expression: the last one that was taken, and those that are left -/
structure ExpressionWords where
  last : Octets
  rest : List Octets

/-- a step over the words of an expression -/
abbrev Expressing (α : Type) := StateT ExpressionWords (Except ExpressionFault) α

/-- takes the next word, if it is one of some words -/
def acceptWord (words : List String) : Expressing (Option String) := do
  match (← get).rest with
  | o :: rest =>
    match words.find? fun w => octets w == o with
    | some w => do
      set (⟨o, rest⟩ : ExpressionWords)
      return some w
    | none => return none
  | [] => return none

/-- takes the next word, whatever it is -/
def takeWord : Expressing Octets := do
  let s ← get
  match s.rest with
  | o :: rest => do
    set (⟨o, rest⟩ : ExpressionWords)
    return o
  | [] => throw (.missingAfter s.last)

/-- whether a value counts as false -/
def isFalse (o : Octets) : Bool :=
  o.isEmpty || (let digits := if o.head? == some '-' then o.drop 1 else o
    !digits.isEmpty && digits.all (· == '0'))

/-- the whole number that a text is -/
def wholeOf? (o : Octets) : Option Int :=
  let digits := if o.head? == some '-' then o.drop 1 else o
  if digits.isEmpty || !digits.all Char.isDigit then none
  else
    let n : Int := (digitsIn 10 digits).1
    some (if o.head? == some '-' then -n else n)

/-- the part of a text that a pattern matches at its start: its first group, or else the number of characters -/
def matchStart (o pattern : Octets) : Expressing Octets := do
  match Regex.read .comparing pattern with
  | .error fault => throw (.pattern fault)
  | .ok (r, groups) =>
    match r.longest? ⟨false, false⟩ (.atStart o) with
    | some m => return if groups = 0 then number m.place else (m.groups.lookup 1).getD []
    | none => return if groups = 0 then ['0'] else []

mutual

/-- a value, or an expression between parentheses -/
def expressionValue : Nat → Expressing Octets
  | 0 => throw (.unexpected [])
  | fuel + 1 => do
    let word ← takeWord
    match String.ofList word with
    | "(" => do
      let value ← expressionEither fuel
      let s ← get
      match ← acceptWord [")"] with
      | some _ => return value
      | none =>
        match s.rest with
        | [] => throw (.expecting ")" s.last)
        | found :: _ => throw (.expectingInstead ")" found)
    | ")" => throw (.unexpected word)
    | "+" => takeWord
    | "length" => do
      if (← get).rest.isEmpty then return word else return number (← expressionMatch fuel).length
    | "match" => do
      let o ← expressionMatch fuel
      matchStart o (← expressionMatch fuel)
    | "index" => do
      let o ← expressionMatch fuel
      let chars ← expressionMatch fuel
      return number (((o.findIdx? chars.contains).map (· + 1)).getD 0 : Nat)
    | "substr" => do
      let o ← expressionMatch fuel
      let first ← expressionMatch fuel
      let length ← expressionMatch fuel
      match wholeOf? first, wholeOf? length with
      | some first, some length =>
        return if first ≤ 0 || length ≤ 0 then [] else (o.drop (first.toNat - 1)).take length.toNat
      | _, _ => return []
    | _ => return word

/-- matches at the start of a text -/
def expressionMatch : Nat → Expressing Octets
  | 0 => throw (.unexpected [])
  | fuel + 1 => do expressionMatches fuel (← expressionValue fuel)

/-- the matches that follow a text -/
def expressionMatches : Nat → Octets → Expressing Octets
  | 0, _ => throw (.unexpected [])
  | fuel + 1, o => do
    match ← acceptWord [":"] with
    | some _ => do
      let pattern ← expressionValue fuel
      expressionMatches fuel (← matchStart o pattern)
    | none => return o

/-- products, quotients and remainders -/
def expressionProduct : Nat → Option Octets → Expressing Octets
  | 0, _ => throw (.unexpected [])
  | fuel + 1, first => do
    let first ← match first with
      | some o => pure o
      | none => expressionMatch fuel
    match ← acceptWord ["*", "/", "%"] with
    | none => return first
    | some operator => do
      let second ← expressionMatch fuel
      match wholeOf? first, wholeOf? second with
      | some a, some b =>
        if operator != "*" && b == 0 then throw .division
        else expressionProduct fuel (some (number (if operator == "*" then a * b
          else if operator == "/" then Int.tdiv a b else Int.tmod a b)))
      | _, _ => throw .noInteger

/-- sums and differences -/
def expressionSum : Nat → Option Octets → Expressing Octets
  | 0, _ => throw (.unexpected [])
  | fuel + 1, first => do
    let first ← match first with
      | some o => pure o
      | none => expressionProduct fuel none
    match ← acceptWord ["+", "-"] with
    | none => return first
    | some operator => do
      let second ← expressionProduct fuel none
      match wholeOf? first, wholeOf? second with
      | some a, some b => expressionSum fuel (some (number (if operator == "+" then a + b else a - b)))
      | _, _ => throw .noInteger

/-- comparisons, of numbers where both are some, and otherwise of texts -/
def expressionOrder : Nat → Option Octets → Expressing Octets
  | 0, _ => throw (.unexpected [])
  | fuel + 1, first => do
    let first ← match first with
      | some o => pure o
      | none => expressionSum fuel none
    match ← acceptWord ["<=", "<", "==", "=", "!=", ">=", ">"] with
    | none => return first
    | some operator => do
      let second ← expressionSum fuel none
      let order := match wholeOf? first, wholeOf? second with
        | some a, some b => compare a b
        | _, _ => if first == second then .eq else if inOrder first second then .lt else .gt
      let holds : Bool := match operator with
        | "<" => order == .lt
        | "<=" => order != .gt
        | ">" => order == .gt
        | ">=" => order != .lt
        | "!=" => order != .eq
        | _ => order == .eq
      expressionOrder fuel (some (if holds then ['1'] else ['0']))

/-- values that all have to be true: the first one, or zero -/
def expressionBoth : Nat → Option Octets → Expressing Octets
  | 0, _ => throw (.unexpected [])
  | fuel + 1, first => do
    let first ← match first with
      | some o => pure o
      | none => expressionOrder fuel none
    match ← acceptWord ["&"] with
    | none => return first
    | some _ => do
      let second ← expressionOrder fuel none
      expressionBoth fuel (some (if isFalse first || isFalse second then ['0'] else first))

/-- the first value that is true, or zero -/
def expressionEither : Nat → Expressing Octets
  | 0 => throw (.unexpected [])
  | fuel + 1 => do
    let first ← expressionBoth fuel none
    match ← acceptWord ["|"] with
    | none => return first
    | some _ => do
      let second ← expressionEither fuel
      return if !isFalse first then first else if isFalse second then ['0'] else second

end

/-- computes an expression -/
def expr (c : Call) : Running UtilityRun := do
  let args := if c.args.head? == some ['-', '-'] then c.args.drop 1 else c.args
  c.needOperand args "operand" |>.mapError fun run => { run with status := 2 }
  match (expressionEither (20 * args.length + 20)).run ⟨[], args⟩ with
  | .error fault => c.refuse 2 fault.message
  | .ok (value, s) =>
    match s.rest with
    | found :: _ => c.refuse 2 (ExpressionFault.unexpected found).message
    | [] => return c.done (if isFalse value then 1 else 0) (value ++ ['\n'])

end ScriptBridge.Shell
