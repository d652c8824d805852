/-
What a reader of scripts works on: the rest of a script with the number of its line, the tokens that it is cut into,
and the ways in which a script can be malformed.

A backslash at the end of a line joins it with the next one, except between single quotes and in comments. The text of
a here-document is taken out of the script when its mark is read; `takeHere` gives it with the script that is left.
-/
import ScriptBridge.Shell.Script
import ScriptBridge.Table

namespace ScriptBridge.Shell

/-- a token of a script. A redirection is told apart by its direction; `dropTabs` says that a here-document loses the
tabs at the start of its lines. -/
inductive Token where
  | eof
  | newline
  | redirect (descriptor : Nat) (direction : Direction) (dropTabs : Bool)
  | word (word : Word)
  | mark (text : String)
deriving Inhabited

namespace Token

/-- the token that a word is where reserved words count -/
def reserved : Token → Token
  | .word w =>
    if isQuoted w then .word w
    else match literal? w with
      | some o => if reservedWords.contains (String.ofList o) then .mark (String.ofList o) else .word w
      | none => .word w
  | token => token

/-- whether a token is a given mark -/
def isMark (token : Token) (text : String) : Bool :=
  match token with
  | .mark t => t == text
  | _ => false

/-- whether a token ends a list of statements -/
def closes : Token → Bool
  | .eof => true
  | .mark t => [")", ";;", "do", "done", "elif", "else", "esac", "fi", "then", "\x7d"].contains t
  | _ => false

/-- the name of a token in a complaint -/
def name : Token → String
  | .eof => "end of file"
  | .newline => "newline"
  | .redirect .. => "redirection"
  | .word _ => "word"
  | .mark t => "\"" ++ t ++ "\""

end Token

/-- how a script is malformed -/
inductive Malformed where
  | unexpected (found : String)
  | expected (found wanted : String)
  | unclosedQuote
  | unclosedArithmetic
  | unclosedBrace
  | unclosedBackquote
  | loopVariable
  | functionName
  | descriptor
  | tooDeep
deriving DecidableEq

/-- the wording of a complaint -/
def Malformed.message : Malformed → String
  | unexpected found => found ++ " unexpected"
  | expected found wanted => found ++ " unexpected (expecting " ++ wanted ++ ")"
  | unclosedQuote => "Unterminated quoted string"
  | unclosedArithmetic => "Missing '))'"
  | unclosedBrace => "Missing '\x7d'"
  | unclosedBackquote => "EOF in backquote substitution"
  | loopVariable => "Bad for loop variable"
  | functionName => "Bad function name"
  | descriptor => "Bad fd number"
  | tooDeep => "too deep"

/-- a malformed place, with the number of the line that was reached -/
structure Fault where
  line : Nat
  cause : Malformed
deriving DecidableEq

/-- what is left of a script: the text, the number of its line, how many lines were taken out after that line, and a
token that is read again. The texts of aliases stand in for words that begin commands; `within` are those that are being
read, each with the length of what follows its text, in which the alias stands for itself. -/
structure Source where
  rest : Octets
  line : Nat
  owed : Nat
  held : Option Token
  aliases : Table Octets Octets
  within : List (Octets × Nat)

/-- a whole script -/
def Source.ofText (aliases : Table Octets Octets) (o : Octets) : Source := ⟨o, 1, 0, none, aliases, []⟩

/-- a reader -/
abbrev Reading (α : Type) := StateT Source (Except Fault) α

namespace Reading

/-- gives up -/
def fail {α : Type} (cause : Malformed) : Reading α := do throw ⟨(← get).line, cause⟩

/-- gives up at a token -/
def unexpected {α : Type} (token : Token) (wanted : Option String) : Reading α :=
  match wanted with
  | none => fail (.unexpected token.name)
  | some w => fail (.expected token.name w)

/-- has a token read again -/
def hold (token : Token) : Reading Unit := modify fun s => { s with held := some token }

/-- puts the text of the alias that a word is in place of the word; gives whether it was one -/
def replaceAlias (word : Word) : Reading Bool := do
  let s ← get
  if isQuoted word then return false
  else match literal? word with
    | none => return false
    | some name =>
      match s.aliases.get? name with
      | none => return false
      | some body =>
        let within := s.within.filter fun w => w.2 ≤ s.rest.length
        if within.any fun w => w.1 == name then return false
        else do
          set { s with rest := body ++ s.rest, within := (name, s.rest.length) :: within }
          return true

/-- joins lines at the start of a text; gives how many were joined -/
def joined : Octets → Nat × Octets
  | '\\' :: '\n' :: rest => let (n, rest) := joined rest; (n + 1, rest)
  | o => (0, o)

/-- drops blanks, joined lines and a comment at the start of a text; gives how many lines were joined -/
def withoutGap : Octets → Nat × Octets
  | '\\' :: '\n' :: rest => let (n, rest) := withoutGap rest; (n + 1, rest)
  | '#' :: rest => (0, rest.dropWhile (· != '\n'))
  | c :: rest => if c == ' ' || c == '\t' then withoutGap rest else (0, c :: rest)
  | [] => (0, [])

/-- the next character, which is not taken; lines are joined in front of it -/
def peek : Reading (Option Char) := do
  let s ← get
  let (n, rest) := joined s.rest
  set { s with rest, line := s.line + n }
  return rest.head?

/-- takes one character, as it stands -/
def takeRaw : Reading (Option Char) := do
  let s ← get
  match s.rest with
  | [] => return none
  | '\n' :: rest => do
    set { s with rest, line := s.line + 1 + s.owed, owed := 0 }
    return some '\n'
  | c :: rest => do
    set { s with rest }
    return some c

/-- takes the next character, if it is a given one -/
def accept (c : Char) : Reading Bool := do
  if (← peek) == some c then do
    let _ ← takeRaw
    return true
  else return false

/-- drops blanks, joined lines and a comment -/
def dropGap : Reading Unit := modify fun s =>
  let (n, rest) := withoutGap s.rest
  { s with rest, line := s.line + n }

/-- takes characters while they pass a test, with joined lines left out -/
def takeWhile (p : Char → Bool) : Nat → Reading Octets
  | 0 => return []
  | fuel + 1 => do
    match ← peek with
    | some c =>
      if p c then do
        let _ ← takeRaw
        return c :: (← takeWhile p fuel)
      else return []
    | none => return []

end Reading

/-! ## Texts up to a mark -/

/-- the text between single quotes, after the first one -/
def takeQuoted (o : Octets) : Option (Octets × Octets) :=
  let body := o.takeWhile (· != '\'')
  match o.drop body.length with
  | [] => none
  | _ :: rest => some (body, rest)

/-- the text between backquotes, after the first one. A backslash before a backquote, another backslash or a dollar
sign is dropped, inside quotes also one before a quote. -/
def takeBackquoted (quoted : Bool) : Octets → Option (Octets × Octets)
  | [] => none
  | '\x60' :: rest => some ([], rest)
  | '\\' :: '\n' :: rest => takeBackquoted quoted rest
  | '\\' :: c :: rest =>
    (takeBackquoted quoted rest).map fun (body, rest) =>
      (if c == '\x60' || c == '\\' || c == '$' || (quoted && c == '"') then c :: body else '\\' :: c :: body, rest)
  | c :: rest => (takeBackquoted quoted rest).map fun (body, rest) => (c :: body, rest)

/-- a character that ends a word -/
def endsWord (c : Char) : Bool := " \t\n;&|<>()".toList.contains c

/-- the mark of a here-document, and whether a part of it is quoted -/
def takeMark : Octets → Option ((Octets × Bool) × Octets)
  | [] => some (([], false), [])
  | '\\' :: '\n' :: rest => takeMark rest
  | '\\' :: c :: rest => (takeMark rest).map fun ((body, _), rest) => ((c :: body, true), rest)
  | c :: rest =>
    if endsWord c then some (([], false), c :: rest)
    else if c == '\'' || c == '"' then
      let inside := rest.takeWhile (· != c)
      if h : inside.length < rest.length then
        (takeMark (rest.drop (inside.length + 1))).map fun ((body, _), rest) => ((inside ++ body, true), rest)
      else none
    else (takeMark rest).map fun ((body, quoted), rest) => ((c :: body, quoted), rest)
termination_by o => o.length
decreasing_by all_goals simp only [List.length_cons, List.length_drop]; omega

/-- the lines of a here-document up to its mark, what follows them, and how many lines were taken; the end of the
script may stand for the mark -/
def takeBody (mark : Octets) (dropTabs : Bool) : Nat → Octets → (Octets × Octets) × Nat
  | 0, o => (([], o), 0)
  | _, [] => (([], []), 0)
  | fuel + 1, o =>
    let line := o.takeWhile (· != '\n')
    let rest := o.drop line.length
    let shown := if dropTabs then line.dropWhile (· == '\t') else line
    if shown == mark then (([], rest.drop 1), 1)
    else
      let ((body, after), n) := takeBody mark dropTabs fuel (rest.drop 1)
      ((shown ++ rest.take 1 ++ body, after), n + 1)

/-- the body of a here-document that begins after this line, the script without it, and how many lines it had -/
def takeHere (mark : Octets) (dropTabs : Bool) (o : Octets) : (Octets × Octets) × Nat :=
  let line := o.takeWhile (· != '\n')
  let rest := o.drop line.length
  let ((body, after), n) := takeBody mark dropTabs (o.length + 1) (rest.drop 1)
  ((body, line ++ rest.take 1 ++ after), n)

end ScriptBridge.Shell
