/-
Scripts of the extended shell as trees. Beside what a plain script has, a word may hold a list of values, a parameter
may pick one value of a list or all of them, and conditions and calculations are commands of their own.
-/
import ScriptBridge.Shell.Octets

namespace ScriptBridge.Shell.Extended

/-- which of the places where a pattern matches are replaced -/
inductive Replaced where
  | first
  | every
  | start
  | finish
deriving DecidableEq

/-- what is done with the case of a letter -/
inductive Casing where
  | upper
  | lower
  | toggle
deriving DecidableEq

/-- what a redirection does with a descriptor; `outputs` leads both output and complaints to a file -/
inductive Direction where
  | read
  | write
  | replace
  | append
  | both
  | copyIn
  | copyOut
  | here
  | line
  | outputs (appends : Bool)
deriving DecidableEq

/-- how the cases of a choice go on after one was run: not at all, into the next one, or with the next test -/
inductive Ending where
  | ends
  | falls
  | tests
deriving DecidableEq

/-- whether the time is told that a pipeline takes, and in which form -/
inductive Timing where
  | untimed
  | full
  | brief
deriving DecidableEq

/-- the descriptor of a redirection: a number, or a variable that takes a free one -/
inductive Handle where
  | number (n : Nat)
  | variable (name : Octets)
deriving DecidableEq

mutual

/-- a part of a word; an assignment among the arguments of a builtin that declares variables is a part of its own -/
inductive Part where
  | plain (c : Char)
  | fixed (chars : Octets)
  | parameter (quoted : Bool) (source : Octets) (parameter : Parameter)
  | arithmetic (quoted : Bool) (body : List Part)
  | output (quoted : Bool) (body : List Statement)
  | process (writes : Bool) (body : List Statement)
  | items (entries : List Entry)
  | assigning (assignment : Assignment)

/-- one parameter, or the values of a list, and what is done with it. `indirect` says that its value names the
parameter that is meant. -/
inductive Parameter where
  | mk (name : Octets) (subscript : Option Subscript) (indirect : Bool) (change : Change)

/-- which values of a list are meant: all of them, or one -/
inductive Subscript where
  | all (joined : Bool)
  | one (index : List Part)

/-- what is done with the value of a parameter. `orEmpty` says that an empty value counts as none; a malformed change
fails when it comes to it. -/
inductive Change where
  | keep
  | length
  | default (orEmpty : Bool) (word : List Part)
  | assign (orEmpty : Bool) (word : List Part)
  | require (orEmpty : Bool) (word : List Part)
  | instead (orEmpty : Bool) (word : List Part)
  | dropStart (longest : Bool) (pattern : List Part)
  | dropEnd (longest : Bool) (pattern : List Part)
  | replace (which : Replaced) (pattern replacement : List Part)
  | slice (offset : List Part) (length : Option (List Part))
  | recase (casing : Casing) (all : Bool) (pattern : List Part)
  | transform (letter : Char)
  | names (joined : Bool)
  | indices (joined : Bool)
  | malformed

/-- a value in a list between parentheses; `adds` says that it is added to what stands at its place -/
inductive Entry where
  | mk (index : Option (List Part)) (adds : Bool) (value : List Part)

/-- an assignment; `adds` says that the value is added to the one before -/
inductive Assignment where
  | mk (name : Octets) (index : Option (List Part)) (adds : Bool) (value : List Part)

/-- a redirection of a descriptor to what a word names, with the source of that word -/
inductive Redirect where
  | mk (handle : Handle) (direction : Direction) (source : Octets) (target : List Part)

/-- a condition on words -/
inductive Condition where
  | unary (operator : Octets) (word : List Part)
  | binary (first : List Part) (operator : Octets) (second : List Part)
  | word (word : List Part)
  | not (condition : Condition)
  | both (first second : Condition)
  | either (first second : Condition)

/-- a statement. Statements that expand words keep the number of their line. -/
inductive Statement where
  | simple (line : Nat) (assigns : List Assignment) (words : List (List Part)) (redirects : List Redirect)
  | pipeline (negated : Bool) (timing : Timing) (stages : List Statement)
  | both (first second : Statement)
  | either (first second : Statement)
  | group (body : List Statement)
  | subshell (line : Nat) (body : List Statement)
  | branch (condition body otherwise : List Statement)
  | loop (ends : Bool) (condition body : List Statement)
  | each (line : Nat) (name : Octets) (words : Option (List (List Part))) (body : List Statement)
  | select (line : Nat) (name : Octets) (words : Option (List (List Part))) (body : List Statement)
  | count (line : Nat) (start test step : List Part) (body : List Statement)
  | choice (line : Nat) (word : List Part) (cases : List Case)
  | condition (line : Nat) (test : Condition)
  | calculation (line : Nat) (body : List Part)
  | function (line : Nat) (name : Octets) (body : Statement)
  | redirected (line : Nat) (body : Statement) (redirects : List Redirect)
  | background (body : Statement)

/-- a case of a choice -/
inductive Case where
  | mk (patterns : List (List Part)) (body : List Statement) (ending : Ending)

end

/-- whether a statement is a command that is run by its name, even in a shell of its own -/
def Statement.isSimple : Statement → Bool
  | .simple .. => true
  | .subshell _ [.simple ..] => true
  | _ => false

instance : Inhabited Part := ⟨.plain ' '⟩
instance : Inhabited Statement := ⟨.group []⟩
instance : Inhabited Condition := ⟨.word []⟩

/-- a word -/
abbrev Word := List Part

/-- whether a word has a quoted part -/
def isQuoted (word : Word) : Bool :=
  word.any fun
    | .fixed _ => true
    | _ => false

/-- the text of a word without expansions -/
def literal? (word : Word) : Option Octets :=
  word.foldr (fun part acc =>
    match part, acc with
    | .plain c, some t => some (c :: t)
    | .fixed chars, some t => some (chars ++ t)
    | _, _ => none) (some [])

/-- the text of a word that is written without quotes and expansions -/
def bare? (word : Word) : Option Octets := if isQuoted word then none else literal? word

/-- a text as a word -/
def quotedWord (o : Octets) : Word := [.fixed o]

/-- the words that have a meaning of their own where a command may begin -/
def reservedWords : List String :=
  ["if", "then", "else", "elif", "fi", "case", "esac", "for", "select", "while", "until", "do", "done", "in", "function",
    "time", "\x7b", "\x7d", "!", "[[", "]]", "coproc"]

/-- the builtins whose arguments may be assignments -/
def declaringNames : List String := ["declare", "typeset", "local", "export", "readonly"]

/-- whether a character may stand in a name -/
def isNameChar (c : Char) : Bool := c.isAlphanum || c == '_'

/-- whether a text is a name -/
def isName (o : Octets) : Bool :=
  match o with
  | [] => false
  | c :: _ => !c.isDigit && o.all isNameChar

end ScriptBridge.Shell.Extended
