/-
Programs that work through records: rules of a pattern and statements, and functions. Expressions have no types; what
a value counts as is decided where it is used.
-/
import ScriptBridge.Number.Extended
import ScriptBridge.Shell.Octets

namespace ScriptBridge.Shell.RecordScript

/-- an operator of arithmetic -/
inductive Operator where
  | add
  | sub
  | mul
  | div
  | rem
  | pow
deriving DecidableEq, Inhabited

/-- a comparison of two values -/
inductive Comparison where
  | less
  | atMost
  | same
  | different
  | more
  | atLeast
deriving DecidableEq, Inhabited

/-- an expression. `text` is a constant, `regex` a search of the record unless a pattern is wanted; `bump` adds or takes
one, before or after the value is used; the three readings take a line from the records, from a file or from what a
command prints. -/
inductive Expression where
  | number (x : Extended)
  | text (o : Octets)
  | regex (o : Octets)
  | name (o : Octets)
  | element (array : Octets) (keys : List Expression)
  | field (index : Expression)
  | assign (target : Expression) (operator : Option Operator) (value : Expression)
  | bump (target : Expression) (up before : Bool)
  | either (a b : Expression)
  | both (a b : Expression)
  | choice (condition a b : Expression)
  | negation (a : Expression)
  | minus (a : Expression)
  | plus (a : Expression)
  | arithmetic (operator : Operator) (a b : Expression)
  | compare (comparison : Comparison) (a b : Expression)
  | join (a b : Expression)
  | matching (wanted : Bool) (a pattern : Expression)
  | within (keys : List Expression) (array : Octets)
  | call (function : Octets) (args : List Expression)
  | builtin (function : String) (args : List Expression)
  | readRecord (target : Option Expression)
  | readFile (target : Option Expression) (file : Expression)
  | readCommand (target : Option Expression) (command : Expression)
deriving Inhabited

/-- where output goes -/
inductive Outlet where
  | file
  | append
  | command
deriving DecidableEq, Inhabited

/-- a statement. `count` is the loop of a condition, a step and a body; `each` goes through the keys of an array. -/
inductive Statement where
  | value (e : Expression)
  | print (formatted : Bool) (args : List Expression) (outlet : Option (Outlet × Expression))
  | branch (condition : Expression) (body otherwise : Statement)
  | loop (condition : Expression) (body : Statement)
  | loopAfter (body : Statement) (condition : Expression)
  | count (first : Option Statement) (condition : Option Expression) (step : Option Statement) (body : Statement)
  | each (name array : Octets) (body : Statement)
  | block (body : List Statement)
  | next
  | nextFile
  | exit (status : Option Expression)
  | back (value : Option Expression)
  | leave
  | again
  | delete (array : Octets) (keys : List Expression)
deriving Inhabited

/-- which records a rule is for -/
inductive Pattern where
  | first
  | last
  | every
  | holds (condition : Expression)
  | between (start stop : Expression)
deriving Inhabited

/-- statements for some records -/
structure Rule where
  pattern : Pattern
  body : Statement
deriving Inhabited

/-- a function with the names of its parameters -/
structure Definition where
  parameters : List Octets
  body : Statement
deriving Inhabited

/-- a program -/
structure Program where
  rules : List Rule
  functions : List (Octets × Definition)
deriving Inhabited

/-- what is wrong with a program, and the line that it is in; some faults are known only after all of it was read -/
inductive Fault where
  | wrong (line : Nat) (message : Octets)
  | character (line : Nat) (c : Char)

/-- the wording of a fault -/
def Fault.message : Fault → Octets
  | wrong line message => octets "line " ++ number line ++ octets ": " ++ message
  | character line c => number line ++ octets ": unexpected character '" ++ [c, '\'']

end ScriptBridge.Shell.RecordScript
