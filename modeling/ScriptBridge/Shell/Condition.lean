/-
Conditions: tests of texts, numbers and files, joined by `!`, `-a`, `-o` and parentheses. What a word means depends on
the words around it: an operator without an operand is a text like any other.

A reader works on the words from the one that was read last; it gives its value with the words from the last one that
it took.
-/
import ScriptBridge.Shell.Numeral
import ScriptBridge.Shell.Program

namespace ScriptBridge.Shell

/-- what a word of a condition is -/
inductive ConditionWord where
  | ended
  | operand
  | unary (letter : Char)
  | binary (operator : String)
  | not
  | and
  | or
  | opening
  | closing
deriving DecidableEq

/-- the operators between two operands -/
def binaryOperators : List String :=
  ["=", "!=", "<", ">", "-eq", "-ne", "-ge", "-gt", "-le", "-lt", "-nt", "-ot", "-ef"]

/-- what a word is on its own -/
def operatorOf? (o : Octets) : Option ConditionWord :=
  match o with
  | ['-', 'a'] => some .and
  | ['-', 'o'] => some .or
  | ['!'] => some .not
  | ['('] => some .opening
  | [')'] => some .closing
  | _ =>
    if binaryOperators.contains (String.ofList o) then some (.binary (String.ofList o))
    else match o with
      | ['-', c] => if "rwxefdcbpugkstznhOGLS".toList.contains c then some (.unary c) else none
      | _ => none

/-- whether a word is an operator between two operands -/
def isBinary (o : Octets) : Bool := binaryOperators.contains (String.ofList o)

/-- what the first of some words is, where words follow it -/
def conditionWord (words : List Octets) : ConditionWord :=
  match words with
  | [] => .ended
  | o :: rest =>
    match operatorOf? o with
    | some (.unary c) =>
      match rest with
      | [] => .operand
      | [_] => .unary c
      | next :: _ => if isBinary next then .operand else .unary c
    | some .opening => if rest.isEmpty then .operand else .opening
    | some w => w
    | none => .operand

/-! ## Files -/

/-- what is known of a file: a folder, a file with whether it can be run, or a device -/
inductive FileKind where
  | folder
  | file (size : Nat) (executable : Bool)
  | device

/-- what lies at a path -/
def kindOf? (files : Files) (o : Octets) : Option FileKind :=
  match files.node (pathOf o) with
  | .ok (.folder _) => some .folder
  | .ok (.file content executable) => some (.file content.length executable)
  | .ok (.device _) => some .device
  | _ => none

/-- whether a file is a link -/
def isLink (files : Files) (o : Octets) : Bool :=
  match files.locate (pathOf o) false with
  | .ok (.found names) =>
    match files.top.at? names with
    | some (.link _) => true
    | _ => false
  | _ => false

/-- what a test with one operand says of a file -/
def testFile (files : Files) (letter : Char) (o : Octets) : Bool :=
  if letter == 'h' || letter == 'L' then isLink files o
  else match kindOf? files o with
    | none => false
    | some kind =>
      match letter, kind with
      | 'f', .file _ _ => true
      | 'f', _ => false
      | 'd', .folder => true
      | 'd', _ => false
      | 's', .file size _ => size != 0
      | 's', .device => false
      | 'x', .file _ executable => executable
      | 'x', .device => false
      | 'c', .device => true
      | letter, _ => "erwsxOG".toList.contains letter

/-- whether two names lead to the same place -/
def samePlace (files : Files) (a b : Octets) : Bool :=
  match files.locate (pathOf a) true, files.locate (pathOf b) true with
  | .ok (.found x), .ok (.found y) => x == y
  | _, _ => (kindOf? files a).isSome && withoutSlashes a == withoutSlashes b

/-! ## Values -/

/-- the whole number that an operand has to be -/
def conditionNumber (o : Octets) : Except Octets Int :=
  match readNumber? o with
  | some n => if (bounded leastWord greatestWord n).2 then .error (octets "Illegal number: " ++ o) else .ok n
  | none => .error (octets "Illegal number: " ++ o)

/-- a complaint about a word; an empty one is not named -/
def aboutWord (o : Octets) (message : String) : Octets :=
  if o.isEmpty then octets message else o ++ octets (": " ++ message)

/-- a test with two operands -/
def testBinary (files : Files) (a : Octets) (operator : String) (b : Octets) : Except Octets Bool :=
  let compare (f : Int → Int → Bool) : Except Octets Bool := do
    let x ← conditionNumber a
    let y ← conditionNumber b
    return f x y
  match operator with
  | "=" => .ok (a == b)
  | "!=" => .ok (a != b)
  | "<" => .ok (a != b && inOrder a b)
  | ">" => .ok (a != b && inOrder b a)
  | "-eq" => compare fun x y => x == y
  | "-ne" => compare fun x y => x != y
  | "-lt" => compare fun x y => x < y
  | "-le" => compare fun x y => x ≤ y
  | "-gt" => compare fun x y => x > y
  | "-ge" => compare fun x y => x ≥ y
  | "-ef" => .ok (samePlace files a b)
  | _ => .ok false

mutual

/-- conditions with `-o` between them -/
def testEither (files : Files) : Nat → ConditionWord → List Octets → Except Octets (Bool × List Octets)
  | 0, _, _ => .error (octets "too many words")
  | fuel + 1, word, words => do
    let (first, words) ← testBoth files fuel word words
    if conditionWord (words.drop 1) == .or then
      let rest := words.drop 2
      let (second, words) ← testEither files fuel (conditionWord rest) rest
      return (first || second, words)
    else return (first, words)

/-- conditions with `-a` between them -/
def testBoth (files : Files) : Nat → ConditionWord → List Octets → Except Octets (Bool × List Octets)
  | 0, _, _ => .error (octets "too many words")
  | fuel + 1, word, words => do
    let (first, words) ← testNegated files fuel word words
    if conditionWord (words.drop 1) == .and then
      let rest := words.drop 2
      let (second, words) ← testBoth files fuel (conditionWord rest) rest
      return (first && second, words)
    else return (first, words)

/-- a condition that may be negated -/
def testNegated (files : Files) : Nat → ConditionWord → List Octets → Except Octets (Bool × List Octets)
  | 0, _, _ => .error (octets "too many words")
  | fuel + 1, word, words => do
    if word == .not then
      let next := conditionWord (words.drop 1)
      let (value, words) ← testNegated files fuel next (if next == .ended then words else words.drop 1)
      return (!value, words)
    else testPrimary files fuel word words

/-- a condition on operands, or one between parentheses -/
def testPrimary (files : Files) : Nat → ConditionWord → List Octets → Except Octets (Bool × List Octets)
  | 0, _, _ => .error (octets "too many words")
  | fuel + 1, word, words =>
    match word with
    | .ended => .ok (false, words)
    | .opening => do
      let inside := words.drop 1
      if conditionWord inside == .closing then return (false, inside)
      else
        let (value, words) ← testEither files fuel (conditionWord inside) inside
        if conditionWord (words.drop 1) == .closing then return (value, words.drop 1)
        else .error (octets "closing paren expected")
    | .unary letter =>
      match words.drop 1 with
      | [] => .error (aboutWord ['-', letter] "argument expected")
      | o :: rest =>
        match letter with
        | 'z' => .ok (o.isEmpty, o :: rest)
        | 'n' => .ok (!o.isEmpty, o :: rest)
        | 't' => do
          let _ ← conditionNumber o
          return (false, o :: rest)
        | letter => .ok (testFile files letter o, o :: rest)
    | _ =>
      match words with
      | [] => .ok (false, [])
      | o :: rest =>
        match conditionWord rest with
        | .binary operator =>
          match rest.drop 1 with
          | [] => .error (aboutWord (octets operator) "argument expected")
          | b :: more => do
            return (← testBinary files o operator b, b :: more)
        | _ => .ok (!o.isEmpty, words)

end

/-- the value of a whole condition. Three words with an operator in the middle are a test of two operands; four at most
may be negated or stand between parentheses. -/
def testWords (files : Files) : Nat → List Octets → Except Octets Bool
  | 0, _ => .error (octets "too many words")
  | fuel + 1, words =>
    let whole (word : ConditionWord) (words : List Octets) : Except Octets Bool := do
      let (value, rest) ← testEither files (4 * words.length + 8) word words
      match rest with
      | o :: _ :: _ => .error (aboutWord o "unexpected operator")
      | _ => return value
    match words with
    | [] => .ok false
    | [a, operator, b] =>
      if isBinary operator then whole .operand words
      else if a == ['('] && b == [')'] then testWords files fuel [operator]
      else if a == ['!'] then (testWords files fuel [operator, b]).map not
      else whole (conditionWord words) words
    | [a, b, c, d] =>
      if a == ['('] && d == [')'] then testWords files fuel [b, c]
      else if a == ['!'] then (testWords files fuel [b, c, d]).map not
      else whole (conditionWord words) words
    | _ => whole (conditionWord words) words

/-- the exit status of `test`, and what it complains of -/
def test (files : Files) (args : List Octets) : Nat × Octets :=
  match testWords files 8 args with
  | .ok true => (0, [])
  | .ok false => (1, [])
  | .error e => (2, e)

end ScriptBridge.Shell
