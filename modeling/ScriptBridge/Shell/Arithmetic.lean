/-
Arithmetic expansions: whole numbers of 64 bits, variables, the usual operators with their usual strength, and
assignments. A variable that is not set counts as zero. What is not chosen by `?`, `&&` or `||` is read but does
nothing.
-/
import ScriptBridge.Shell.Numeral
import ScriptBridge.Table

namespace ScriptBridge.Shell

/-- a token of an expression -/
inductive CalcToken where
  | value (n : Int)
  | variable (name : Octets)
  | operator (o : String)
deriving DecidableEq

/-- why an expression has no value -/
inductive CalcFault where
  | expecting (what : String)
  | zeroDivision
  | noNumber (o : Octets)
deriving DecidableEq

/-- the wording of a fault in an expression -/
def CalcFault.message (expression : Octets) : CalcFault → Octets
  | expecting what => octets ("arithmetic expression: expecting " ++ what ++ ": \"") ++ expression ++ ['"']
  | zeroDivision => octets "arithmetic expression: division by zero: \"" ++ expression ++ ['"']
  | noNumber o => octets "Illegal number: " ++ o

/-- the operators, longer ones before those that they begin with -/
def calcOperators : List String :=
  ["<<=", ">>=", "<<", ">>", "<=", ">=", "==", "!=", "&&", "||", "+=", "-=", "*=", "/=", "%=", "&=", "|=", "^=",
    "+", "-", "*", "/", "%", "<", ">", "=", "!", "~", "&", "|", "^", "?", ":", "(", ")"]

/-- the tokens of an expression; a character that belongs to none ends it as an operator of its own -/
def calcTokens : Nat → Octets → List CalcToken
  | 0, _ => []
  | _, [] => []
  | fuel + 1, c :: rest =>
    if c == ' ' || c == '\t' || c == '\n' then calcTokens fuel rest
    else if c.isDigit then
      let (n, rest) := wholeNumeral (c :: rest)
      .value (bounded leastWord greatestWord n).1 :: calcTokens fuel rest
    else if c.isAlpha || c == '_' then
      let name := (c :: rest).takeWhile fun d => d.isAlphanum || d == '_'
      .variable name :: calcTokens fuel ((c :: rest).drop name.length)
    else match calcOperators.find? fun o => o.toList.isPrefixOf (c :: rest) with
      | some o => .operator o :: calcTokens fuel ((c :: rest).drop o.length)
      | none => [.operator (String.ofList [c])]

/-- variables by their names -/
abbrev Variables := Table Octets Octets

/-- how strongly an operator binds -/
def strength? (o : String) : Option Nat :=
  match o with
  | "|" => some 3
  | "^" => some 4
  | "&" => some 5
  | "==" | "!=" => some 6
  | "<" | "<=" | ">" | ">=" => some 7
  | "<<" | ">>" => some 8
  | "+" | "-" => some 9
  | "*" | "/" | "%" => some 10
  | _ => none

/-- the operator that an assignment applies, if it is one -/
def assigned? (o : String) : Option (Option String) :=
  match o with
  | "=" => some none
  | "<<=" => some (some "<<")
  | ">>=" => some (some ">>")
  | "+=" => some (some "+")
  | "-=" => some (some "-")
  | "*=" => some (some "*")
  | "/=" => some (some "/")
  | "%=" => some (some "%")
  | "&=" => some (some "&")
  | "|=" => some (some "|")
  | "^=" => some (some "^")
  | _ => none

/-- a number from 64 bits, the highest one the sign -/
def wrap (n : Int) : Int := Int.bmod n 18446744073709551616

/-- applies an operator to two numbers -/
def applyOperator (o : String) (a b : Int) : Except CalcFault Int :=
  let truth (p : Bool) : Except CalcFault Int := .ok (if p then 1 else 0)
  let bits (n : Int) : Nat := (n % 18446744073709551616).toNat
  match o with
  | "|" => .ok (wrap (bits a ||| bits b : Nat))
  | "^" => .ok (wrap (bits a ^^^ bits b : Nat))
  | "&" => .ok (wrap (bits a &&& bits b : Nat))
  | "==" => truth (a == b)
  | "!=" => truth (a != b)
  | "<" => truth (a < b)
  | "<=" => truth (a ≤ b)
  | ">" => truth (a > b)
  | ">=" => truth (a ≥ b)
  | "<<" => .ok (wrap (a * (Nat.pow 2 (b % 64).toNat : Nat)))
  | ">>" => .ok (a / (Nat.pow 2 (b % 64).toNat : Nat))
  | "+" => .ok (wrap (a + b))
  | "-" => .ok (wrap (a - b))
  | "*" => .ok (wrap (a * b))
  | "/" => if b == 0 then .error .zeroDivision else .ok (wrap (Int.tdiv a b))
  | "%" => if b == 0 then .error .zeroDivision else .ok (Int.tmod a b)
  | _ => .error (.expecting "primary")

/-- what the calculation has reached: the variables and the tokens that are left -/
structure CalcState where
  values : Variables
  tokens : List CalcToken

/-- a step of a calculation -/
abbrev Calc (α : Type) := StateT CalcState (Except CalcFault) α

namespace Calc

/-- the operator that comes next, if one does -/
def operator? : Calc (Option String) := do
  match (← get).tokens with
  | .operator o :: _ => return some o
  | _ => return none

/-- drops the next token -/
def advance : Calc Unit := modify fun s => { s with tokens := s.tokens.drop 1 }

/-- the number that a variable holds -/
def lookup (name : Octets) : Calc Int := do
  match (← get).values.get? name with
  | none => return 0
  | some o =>
    let (n, rest) := wholeNumeral o
    if (rest.dropWhile isGap).isEmpty && !(bounded leastWord greatestWord n).2 then return n
    else throw (.noNumber o)

/-- sets a variable -/
def store (name : Octets) (n : Int) : Calc Unit := modify fun s => { s with values := s.values.put name (number n) }

end Calc

open Calc

mutual

/-- an assignment, or what binds more strongly. `quiet` says that it does nothing. -/
def calcWhole : Nat → Bool → Calc Int
  | 0, _ => throw (.expecting "primary")
  | fuel + 1, quiet => do
    match (← get).tokens with
    | .variable name :: .operator o :: _ =>
      match assigned? o with
      | some change => do
        advance
        advance
        let value ← calcWhole fuel quiet
        if quiet then return value
        else do
          let value ← match change with
            | some o => do
              let before ← lookup name
              match applyOperator o before value with
              | .ok n => pure n
              | .error e => throw e
            | none => pure value
          store name value
          return value
      | none => calcChoice fuel quiet
    | _ => calcChoice fuel quiet

/-- a choice between two values, or what binds more strongly -/
def calcChoice : Nat → Bool → Calc Int
  | 0, _ => throw (.expecting "primary")
  | fuel + 1, quiet => do
    let condition ← calcEither fuel quiet
    if (← operator?) == some "?" then do
      advance
      let yes ← calcWhole fuel (quiet || condition == 0)
      if (← operator?) == some ":" then do
        advance
        let no ← calcChoice fuel (quiet || condition != 0)
        return if condition != 0 then yes else no
      else throw (.expecting "':'")
    else return condition

/-- conditions of which one has to hold -/
def calcEither : Nat → Bool → Calc Int
  | 0, _ => throw (.expecting "primary")
  | fuel + 1, quiet => do
    let first ← calcBoth fuel quiet
    if (← operator?) == some "||" then do
      advance
      let second ← calcEither fuel (quiet || first != 0)
      return if first != 0 || second != 0 then 1 else 0
    else return first

/-- conditions that all have to hold -/
def calcBoth : Nat → Bool → Calc Int
  | 0, _ => throw (.expecting "primary")
  | fuel + 1, quiet => do
    let first ← calcBinary fuel quiet 0
    if (← operator?) == some "&&" then do
      advance
      let second ← calcBoth fuel (quiet || first == 0)
      return if first != 0 && second != 0 then 1 else 0
    else return first

/-- operators that bind at least so strongly -/
def calcBinary : Nat → Bool → Nat → Calc Int
  | 0, _, _ => throw (.expecting "primary")
  | fuel + 1, quiet, least => do calcMore fuel quiet least (← calcUnary fuel quiet)

/-- the operators that follow a value -/
def calcMore : Nat → Bool → Nat → Int → Calc Int
  | 0, _, _, _ => throw (.expecting "primary")
  | fuel + 1, quiet, least, first => do
    match ← operator? with
    | none => return first
    | some o =>
      match strength? o with
      | none => return first
      | some s =>
        if s < least then return first
        else do
          advance
          let second ← calcBinary fuel quiet (s + 1)
          if quiet then calcMore fuel quiet least second
          else match applyOperator o first second with
            | .ok n => calcMore fuel quiet least n
            | .error e => throw e

/-- a value with the signs in front of it -/
def calcUnary : Nat → Bool → Calc Int
  | 0, _ => throw (.expecting "primary")
  | fuel + 1, quiet => do
    let tokens := (← get).tokens
    advance
    match tokens with
    | .value n :: _ => return n
    | .variable name :: _ => if quiet then return 0 else lookup name
    | .operator "-" :: _ => return wrap (-(← calcUnary fuel quiet))
    | .operator "+" :: _ => calcUnary fuel quiet
    | .operator "!" :: _ => return if (← calcUnary fuel quiet) == 0 then 1 else 0
    | .operator "~" :: _ => return -(← calcUnary fuel quiet) - 1
    | .operator "(" :: _ => do
      let n ← calcWhole fuel quiet
      if (← operator?) == some ")" then do
        advance
        return n
      else throw (.expecting "')'")
    | _ => throw (.expecting "primary")

end

/-- the value of an expression, with the variables after it -/
def calculate (values : Variables) (o : Octets) : Except CalcFault (Int × Variables) := do
  let tokens := calcTokens (o.length + 1) o
  let (n, s) ← (calcWhole (20 * tokens.length + 20) false).run ⟨values, tokens⟩
  if s.tokens.isEmpty then return (n, s.values) else throw (.expecting "EOF")

end ScriptBridge.Shell
