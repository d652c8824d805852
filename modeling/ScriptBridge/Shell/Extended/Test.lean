/-
Tests of the extended shell: of texts, numbers, files and variables, joined by `!`, `-a`, `-o` and parentheses. What a
word means depends on how many words there are: up to four they are told apart by their number, and only longer tests
are read as a whole.
-/
import ScriptBridge.Shell.Condition
import ScriptBridge.Shell.Extended.Reader
import ScriptBridge.Shell.Extended.Values

namespace ScriptBridge.Shell.Extended

/-- the switches that have no letter, and those that have one -/
def switchTable : List (String × Option Char) :=
  [("allexport", some 'a'), ("braceexpand", some 'B'), ("emacs", none), ("errexit", some 'e'), ("errtrace", some 'E'),
    ("functrace", some 'T'), ("hashall", some 'h'), ("histexpand", some 'H'), ("history", none), ("ignoreeof", none),
    ("interactive-comments", none), ("keyword", some 'k'), ("monitor", some 'm'), ("noclobber", some 'C'),
    ("noexec", some 'n'), ("noglob", some 'f'), ("nolog", none), ("notify", some 'b'), ("nounset", some 'u'),
    ("onecmd", some 't'), ("physical", some 'P'), ("pipefail", none), ("posix", none), ("privileged", some 'p'),
    ("verbose", some 'v'), ("vi", none), ("xtrace", some 'x')]

/-- whether a switch with a name is on; `none` when there is none -/
def Session.switch? (s : Session) (name : String) : Option Bool :=
  (switchTable.find? fun t => t.1 == name).map fun
    | (_, some c) => s.machine.has c
    | ("interactive-comments", none) => true
    | (name, none) => s.hasSetting name

/-- whether a name, or a value of a list, is set -/
def Session.isSet (s : Session) (o : Octets) : Bool :=
  match readReference o with
  | some (name, none) => (s.value? name).isSome
  | some (name, some (.all _)) => !((s.held? name).getD .nothing).values.isEmpty
  | some (name, some (.one index)) =>
    let key := (literal? index).getD []
    (((s.held? name).getD .nothing).indices).contains key
  | none => false

/-- a test with one operand -/
def Session.testUnary (s : Session) (letter : Char) (o : Octets) : Bool :=
  match letter with
  | 'n' => !o.isEmpty
  | 'z' => o.isEmpty
  | 'o' => (s.switch? (String.ofList o)).getD false
  | 'v' => s.isSet o
  | 'R' => ((s.own? o).map fun v => v.marks.contains 'n').getD false
  | 't' => false
  | 'a' => testFile s.machine.files 'e' o
  | 'N' => false
  | letter => testFile s.machine.files letter o

/-- the number that an operand of a test is -/
def testNumber (o : Octets) : Except Octets Int :=
  match readNumber? o with
  | some n => if (bounded leastWord greatestWord n).2 then .error (o ++ octets ": integer expression expected") else .ok n
  | none => .error (o ++ octets ": integer expression expected")

/-- compares two numbers as an operator says -/
def compareNumbers (operator : String) (x y : Int) : Bool :=
  match operator with
  | "-eq" => x == y
  | "-ne" => x != y
  | "-lt" => x < y
  | "-le" => x ≤ y
  | "-gt" => x > y
  | _ => x ≥ y

/-- a test with two operands that are no numbers -/
def compareTexts (files : Files) (operator : String) (a b : Octets) : Bool :=
  match operator with
  | "=" => a == b
  | "==" => a == b
  | "!=" => a != b
  | "<" => a != b && inOrder a b
  | ">" => a != b && inOrder b a
  | "-ef" => samePlace files a b
  | "-nt" => testFile files 'e' a && !testFile files 'e' b
  | "-ot" => !testFile files 'e' a && testFile files 'e' b
  | _ => false

/-- whether an operator compares numbers -/
def comparesNumbers (operator : Octets) : Bool :=
  ["-eq", "-ne", "-lt", "-le", "-gt", "-ge"].contains (String.ofList operator)

/-- whether a word is an operator between two operands of a test -/
def isTestOperator (o : Octets) : Bool := isBinaryTest o && o != octets "=~"

/-- a test with two operands -/
def Session.testBinary (s : Session) (a operator b : Octets) : Except Octets Bool := do
  if comparesNumbers operator then
    let x ← testNumber a
    let y ← testNumber b
    return compareNumbers (String.ofList operator) x y
  else return compareTexts s.machine.files (String.ofList operator) a b

/-- a test of one operand after an operator -/
def Session.testPrefixed (s : Session) (operator o : Octets) : Except Octets Bool :=
  match operator with
  | ['-', c] =>
    if isUnaryTest operator then
      if c == 't' && (readNumber? o).isNone then .error (o ++ octets ": integer expression expected")
      else .ok (s.testUnary c o)
    else .error (operator ++ octets ": unary operator expected")
  | _ => .error (operator ++ octets ": unary operator expected")

mutual

/-- tests with `-o` between them; the words that are left are given too -/
def testAny (s : Session) : Nat → List Octets → Except Octets (Bool × List Octets)
  | 0, _ => .error (octets "too many arguments")
  | fuel + 1, words => do
    let (first, rest) ← testAll s fuel words
    match rest with
    | ['-', 'o'] :: rest => do
      let (second, rest) ← testAny s fuel rest
      return (first || second, rest)
    | rest => return (first, rest)

/-- tests with `-a` between them -/
def testAll (s : Session) : Nat → List Octets → Except Octets (Bool × List Octets)
  | 0, _ => .error (octets "too many arguments")
  | fuel + 1, words => do
    let (first, rest) ← testTerm s fuel words
    match rest with
    | ['-', 'a'] :: rest => do
      let (second, rest) ← testAll s fuel rest
      return (first && second, rest)
    | rest => return (first, rest)

/-- a single test, or one between parentheses -/
def testTerm (s : Session) : Nat → List Octets → Except Octets (Bool × List Octets)
  | 0, _ => .error (octets "too many arguments")
  | fuel + 1, words =>
    match words with
    | [] => .error (octets "argument expected")
    | ['!'] :: rest => do
      let (value, rest) ← testTerm s fuel rest
      return (!value, rest)
    | ['('] :: rest => do
      let (value, rest) ← testAny s fuel rest
      match rest with
      | [')'] :: rest => return (value, rest)
      | [] => .error (octets "\x60)' expected")
      | other :: _ => .error (octets "\x60)' expected, found " ++ other)
    | a :: rest =>
      match rest with
      | operator :: b :: more =>
        if isTestOperator operator then do return (← s.testBinary a operator b, more)
        else oneOperand a rest
      | rest => oneOperand a rest
where
  oneOperand (a : Octets) (rest : List Octets) : Except Octets (Bool × List Octets) :=
    match a with
    | ['-', _] =>
      if isUnaryTest a then
        match rest with
        | o :: rest => do return (← s.testPrefixed a o, rest)
        | [] => .error (octets "argument expected")
      else .error (a ++ octets ": unary operator expected")
    | a => .ok (!a.isEmpty, rest)

end

/-- the value of a test of any number of words -/
def Session.testWords (s : Session) : Nat → List Octets → Except Octets Bool
  | 0, _ => .error (octets "too many arguments")
  | fuel + 1, words =>
    let whole : Except Octets Bool := do
      let (value, rest) ← testAny s (4 * words.length + 8) words
      match rest with
      | [] => return value
      | ('-' :: o) :: _ => .error (octets "syntax error: \x60-" ++ o ++ octets "' unexpected")
      | _ => .error (octets "too many arguments")
    match words with
    | [] => .ok false
    | [a] => .ok (!a.isEmpty)
    | [a, b] => if a == ['!'] then .ok b.isEmpty else s.testPrefixed a b
    | [a, operator, b] =>
      if isTestOperator operator then s.testBinary a operator b
      else if operator == ['-', 'a'] then .ok (!a.isEmpty && !b.isEmpty)
      else if operator == ['-', 'o'] then .ok (!a.isEmpty || !b.isEmpty)
      else if a == ['!'] then (s.testWords fuel [operator, b]).map not
      else if a == ['('] && b == [')'] then .ok (!operator.isEmpty)
      else .error (operator ++ octets ": binary operator expected")
    | [a, b, c, d] =>
      if a == ['!'] then (s.testWords fuel [b, c, d]).map not
      else if a == ['('] && d == [')'] then s.testWords fuel [b, c]
      else whole
    | _ => whole

end ScriptBridge.Shell.Extended
