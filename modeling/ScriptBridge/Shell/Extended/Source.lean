/-
What a reader of extended scripts works on: the rest of a script with the number of its line, the tokens that it is cut
into, and the ways in which a script can be malformed. Texts between quotes are taken as plain scripts have them;
between `$'` and a quote escapes stand for characters.
-/
import ScriptBridge.Shell.Extended.Script
import ScriptBridge.Shell.Printing
import ScriptBridge.Shell.Source

namespace ScriptBridge.Shell.Extended

/-- a token of a script, with its text where it is not a mark -/
inductive Token where
  | eof
  | newline
  | word (word : Word) (text : Octets)
  | redirect (handle : Option Handle) (direction : Direction) (dropTabs : Bool) (text : Octets)
  | mark (text : String)
deriving Inhabited

namespace Token

/-- the token that a word is where reserved words count -/
def reserved : Token → Token
  | .word w text =>
    match bare? w with
    | some o => if reservedWords.contains (String.ofList o) then .mark (String.ofList o) else .word w text
    | none => .word w text
  | token => token

/-- whether a token is a given mark -/
def isMark (token : Token) (text : String) : Bool :=
  match token with
  | .mark t => t == text
  | _ => false

/-- whether a token ends a list of statements -/
def closes : Token → Bool
  | .eof => true
  | .mark t => [")", ";;", ";&", ";;&", "do", "done", "elif", "else", "esac", "fi", "then", "\x7d"].contains t
  | _ => false

/-- the text of a token in a complaint -/
def text : Token → Octets
  | .eof => octets "newline"
  | .newline => octets "newline"
  | .redirect _ _ _ text => text
  | .word _ text => text
  | .mark t => octets t

/-- what a condition is said to be malformed near, where a token does not belong in it after a text -/
def blamed (token : Token) (before : Octets) : Octets :=
  match token with
  | .newline => before
  | .eof => before
  | .mark t => if t == "&&" || t == "||" then (octets t).drop 1 else octets t
  | token => token.text

end Token

/-- how a script is malformed: at a token, at a mark that has no partner, at its end, or in a condition, of which some
more is said -/
inductive Malformed where
  | near (token : Octets)
  | unclosed (mark : Char)
  | ended
  | endedCondition
  | condition (message : Octets) (token : Octets)
  | counting
  | tooDeep
deriving DecidableEq

/-- a malformed place, with the number of the line that was reached, and the status that a script ends with for it. The
line is zero until it is known where the part began that has no end. -/
structure Fault where
  line : Nat
  cause : Malformed
  status : Nat
deriving DecidableEq

/-- what is complained of: messages with the numbers of their lines; a source line is shown where one is to blame. `o`
is the whole script. -/
def Fault.messages (fault : Fault) (o : Octets) : List (Nat × Octets) :=
  let shown : Octets := ((cutAt '\n' o)[fault.line - 1]?).getD []
  let echo : Nat × Octets := (fault.line, '\x60' :: shown ++ ['\''])
  match fault.cause with
  | .near token => [(fault.line, octets "syntax error near unexpected token \x60" ++ token ++ ['\'']), echo]
  | .unclosed mark => [(fault.line, octets "unexpected EOF while looking for matching \x60" ++ [mark, '\''])]
  | .ended => [((lines o).length + 1, octets "syntax error: unexpected end of file")]
  | .endedCondition =>
    [((lines o).length + 1, octets "unexpected token \x60EOF' in conditional command"),
      ((lines o).length + 1, octets "syntax error: unexpected end of file")]
  | .condition message token =>
    (if message.isEmpty then [] else [(fault.line, message)])
      ++ [(fault.line, octets "syntax error near \x60" ++ token ++ ['\'']), echo]
  | .counting => [(fault.line, octets "syntax error: arithmetic expression required"), echo]
  | .tooDeep => [(fault.line, octets "syntax error: too deep")]

/-- what is left of a script: the text, the number of its line, and how many lines were taken out after that line -/
structure Remainder where
  rest : Octets
  line : Nat
  owed : Nat

/-- what is left of a script, with a token that is read again, what was left where the last token began, and whether
groups of patterns are known. `warnings` tells of here-documents without an end: the line where the script ends, and
what is said of them. -/
structure Source extends Remainder where
  held : Option Token
  start : Remainder
  groups : Bool
  warnings : List (Nat × Octets)

/-- a whole script -/
def Source.ofText (groups : Bool) (o : Octets) : Source := ⟨⟨o, 1, 0⟩, none, ⟨o, 1, 0⟩, groups, []⟩

/-- whether a source has nothing left but what was read already -/
def Source.atEnd (s : Source) : Bool :=
  match s.held with
  | some .eof => true
  | some _ => false
  | none => s.rest.isEmpty

/-- a reader -/
abbrev Reading (α : Type) := StateT Source (Except Fault) α

namespace Reading

/-- gives up -/
def fail {α : Type} (cause : Malformed) : Reading α := do throw ⟨(← get).line, cause, 2⟩

/-- gives up at a token; the end of a line counts to that line -/
def failAt {α : Type} (token : Token) (cause : Malformed) : Reading α := do
  let s ← get
  let line := match token with
    | .newline => s.line - 1
    | _ => s.line
  throw ⟨line, cause, 2⟩

/-- gives up at a token that does not belong there -/
def unexpected {α : Type} (token : Token) : Reading α :=
  match token with
  | .eof => fail .ended
  | token => failAt token (.near token.text)

/-- does a reading; a part that has no end is blamed on the line where this begins, or on one inside -/
def fromHere {α : Type} (reading : Reading α) : Reading α := do
  let line := (← get).line
  tryCatch reading fun fault => throw { fault with line := if fault.line = 0 then line else fault.line }

/-- has a token read again -/
def hold (token : Token) : Reading Unit := modify fun s => { s with held := some token }

/-- the next character, which is not taken; lines are joined in front of it -/
def peek : Reading (Option Char) := do
  let s ← get
  let (n, rest) := Shell.Reading.joined s.rest
  set { s with rest, line := s.line + n }
  return rest.head?

/-- takes one character, as it stands -/
def takeRaw : Reading (Option Char) := do
  let s ← get
  match s.rest with
  | [] => return none
  | '\n' :: rest => do
    set { s with rest, line := s.line + 1 + s.owed, owed := 0 }
    return some '\n'
  | c :: rest => do
    set { s with rest }
    return some c

/-- takes a character that was looked at -/
def drop : Reading Unit := do
  let _ ← takeRaw

/-- takes the next character, if it is a given one -/
def accept (c : Char) : Reading Bool := do
  if (← peek) == some c then do
    drop
    return true
  else return false

/-- takes a text that comes next, if it does -/
def acceptText (text : String) : Reading Bool := do
  let s ← get
  if text.toList.isPrefixOf s.rest then do
    set { s with rest := s.rest.drop text.length }
    return true
  else return false

/-- drops blanks, joined lines and a comment -/
def dropGap : Reading Unit := modify fun s =>
  let (n, rest) := Shell.Reading.withoutGap s.rest
  { s with rest, line := s.line + n }

/-- takes characters while they pass a test, with joined lines left out -/
def takeWhile (p : Char → Bool) : Nat → Reading Octets
  | 0 => return []
  | fuel + 1 => do
    match ← peek with
    | some c =>
      if p c then do
        drop
        return c :: (← takeWhile p fuel)
      else return []
    | none => return []

/-- does a reading; gives the text that it took too -/
def withText {α : Type} (reading : Reading α) : Reading (α × Octets) := do
  let before := (← get).rest
  let value ← reading
  let after := (← get).rest
  return (value, before.take (before.length - after.length))

/-- does a reading with groups of patterns known -/
def withGroups {α : Type} (reading : Reading α) : Reading α := do
  let before := (← get).groups
  modify fun s => { s with groups := true }
  let value ← reading
  modify fun s => { s with groups := before }
  return value

end Reading

/-! ## Texts up to a mark -/

/-- the character that a code stands for where characters are bytes; beyond ASCII it is written as its escape -/
def codeText (letter : Char) (size n : Nat) : Octets :=
  if n < 128 then [Char.ofNat n]
  else
    let digits := (Nat.toDigits 16 n).map Char.toUpper
    let (letter, size) := if letter == 'U' && n < 65536 then ('u', 4) else (letter, size)
    '\\' :: letter :: List.replicate (size - digits.length) '0' ++ digits

/-- the text of an escape in a quoted text, after the backslash -/
def ansiEscape : Octets → Octets × Octets
  | 'E' :: rest => ([Char.ofNat 27], rest)
  | '\'' :: rest => (['\''], rest)
  | '"' :: rest => (['"'], rest)
  | '?' :: rest => (['?'], rest)
  | 'c' :: c :: rest => ([Char.ofNat (c.toUpper.toNat % 32)], rest)
  | 'x' :: rest =>
    let (n, length) := digitsIn 16 (rest.take 2)
    if length = 0 then (['\\', 'x'], rest) else ([Char.ofNat n], rest.drop length)
  | 'u' :: rest =>
    let (n, length) := digitsIn 16 (rest.take 4)
    if length = 0 then (['\\', 'u'], rest) else (codeText 'u' 4 n, rest.drop length)
  | 'U' :: rest =>
    let (n, length) := digitsIn 16 (rest.take 8)
    if length = 0 then (['\\', 'U'], rest) else (codeText 'U' 8 n, rest.drop length)
  | rest =>
    match escapedChar? rest with
    | some (c, rest) => ([c], rest)
    | none => (['\\'], rest)

/-- the text up to a quote, with its escapes replaced, and what follows the quote. A zero byte ends the text. -/
def takeAnsi : Nat → Octets → Option (Octets × Octets)
  | 0, _ => none
  | _, [] => none
  | _, '\'' :: rest => some ([], rest)
  | fuel + 1, '\\' :: rest =>
    let (o, after) := ansiEscape rest
    (takeAnsi fuel after).map fun (body, rest) => (if o == [Char.ofNat 0] then [] else o ++ body, rest)
  | fuel + 1, c :: rest => (takeAnsi fuel rest).map fun (body, rest) => (c :: body, rest)

/-- whether a text, after two opening parentheses, goes on to two closing ones that belong to them, or has no end -/
def isCalculation : Nat → Nat → Octets → Bool
  | 0, _, _ => false
  | _, _, [] => true
  | fuel + 1, depth, c :: rest =>
    match c with
    | '(' => isCalculation fuel (depth + 1) rest
    | ')' => if depth = 0 then rest.head? == some ')' else isCalculation fuel (depth - 1) rest
    | '\\' => isCalculation fuel depth (rest.drop 1)
    | '\'' => isCalculation fuel depth ((rest.dropWhile (· != '\'')).drop 1)
    | _ => isCalculation fuel depth rest

end ScriptBridge.Shell.Extended
