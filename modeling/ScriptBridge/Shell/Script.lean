/-
Shell scripts as trees. A word is a list of parts; what an unquoted part expands to may be split into several words,
what a quoted part expands to stays together. A statement runs words as a command or joins other statements.
-/
import ScriptBridge.Shell.Octets

namespace ScriptBridge.Shell

/-- what is done with the value of a parameter. `orEmpty` says that an empty value counts as none; a malformed change
fails when it comes to it. -/
inductive Change where
  | keep
  | length
  | default (orEmpty : Bool)
  | assign (orEmpty : Bool)
  | require (orEmpty : Bool)
  | instead (orEmpty : Bool)
  | dropStart (longest : Bool)
  | dropEnd (longest : Bool)
  | malformed
deriving DecidableEq

/-- what a redirection does with a descriptor -/
inductive Direction where
  | read
  | write
  | replace
  | append
  | both
  | copy
  | here
deriving DecidableEq

mutual

/-- a part of a word -/
inductive Part where
  | plain (c : Char)
  | fixed (chars : Octets)
  | parameter (quoted : Bool) (name : Octets) (change : Change) (word : List Part)
  | arithmetic (quoted : Bool) (body : List Part)
  | output (quoted : Bool) (body : List Statement)

/-- a redirection of a descriptor to what a word names -/
inductive Redirect where
  | mk (descriptor : Nat) (direction : Direction) (target : List Part)

/-- a statement. Statements that expand words keep the number of their line. -/
inductive Statement where
  | simple (line : Nat) (assigns : List (Octets × List Part)) (words : List (List Part)) (redirects : List Redirect)
  | pipeline (negated : Bool) (stages : List Statement)
  | both (first second : Statement)
  | either (first second : Statement)
  | group (body : List Statement)
  | subshell (line : Nat) (body : List Statement) (redirects : List Redirect)
  | branch (condition body otherwise : List Statement)
  | loop (ends : Bool) (condition body : List Statement)
  | each (line : Nat) (name : Octets) (words : Option (List (List Part))) (body : List Statement)
  | choice (line : Nat) (word : List Part) (cases : List (List (List Part) × List Statement))
  | function (name : Octets) (body : Statement)
  | redirected (line : Nat) (body : Statement) (redirects : List Redirect)
  | background (body : Statement)

end

/-- whether a statement is a command that is run by its name -/
def Statement.isSimple : Statement → Bool
  | .simple .. => true
  | _ => false

instance : Inhabited Part := ⟨.plain ' '⟩
instance : Inhabited Statement := ⟨.group []⟩

/-- a word -/
abbrev Word := List Part

/-- whether a word has a quoted part -/
def isQuoted (word : Word) : Bool :=
  word.any fun
    | .fixed _ => true
    | _ => false

/-- the text of a word without expansions -/
def literal? (word : Word) : Option Octets :=
  word.foldr (fun part acc =>
    match part, acc with
    | .plain c, some t => some (c :: t)
    | .fixed chars, some t => some (chars ++ t)
    | _, _ => none) (some [])

/-- the words that have a meaning of their own where a command may begin -/
def reservedWords : List String :=
  ["!", "case", "do", "done", "elif", "else", "esac", "fi", "for", "if", "in", "then", "until", "while", "\x7b", "\x7d"]

/-- the builtins that are special: a function cannot have their names, and a failure of theirs ends the shell -/
def specialNames : List String :=
  [".", ":", "break", "continue", "eval", "exec", "exit", "export", "local", "readonly", "return", "set", "shift",
    "times", "trap", "unset"]

/-- whether a character may stand in a name -/
def isNameChar (c : Char) : Bool := c.isAlphanum || c == '_'

/-- whether a text is a name -/
def isName (o : Octets) : Bool :=
  match o with
  | [] => false
  | c :: _ => !c.isDigit && o.all isNameChar

/-- the name and the value of a word that is an assignment -/
def assignment? (word : Word) : Option (Octets × Word) :=
  let isPlainName : Part → Bool
    | .plain c => isNameChar c
    | _ => false
  let name := word.takeWhile isPlainName
  let chars := name.filterMap fun
    | .plain c => some c
    | _ => none
  match word.drop name.length with
  | .plain '=' :: value => if isName chars then some (chars, value) else none
  | _ => none

end ScriptBridge.Shell
