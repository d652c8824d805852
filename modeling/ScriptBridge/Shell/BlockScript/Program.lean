/-
Programs whose blocks are told by their indentation, as trees: expressions, and statements with blocks of further ones.
What can fail keeps its span in the text, so that a failure can be shown there.
-/
import ScriptBridge.Number.Extended
import ScriptBridge.Shell.Octets

namespace ScriptBridge.Shell.BlockScript

/-- a text of characters of all scripts -/
abbrev Characters := List Char

/-- where something stands: its first line with the column where it starts, its last line with the column where it
stops, and the columns of what is most to blame in it -/
structure Span where
  line : Nat
  start : Nat
  endLine : Nat
  stop : Nat
  anchor : Option (Nat × Nat)
deriving DecidableEq, Inhabited

/-- the span from the start of one to the stop of another -/
def Span.through (a b : Span) : Span := ⟨a.line, a.start, b.endLine, b.stop, none⟩

/-- what is written as it is meant -/
inductive Literal where
  | none
  | bool (b : Bool)
  | int (n : Int)
  | real (x : Extended)
  | text (o : Characters)
  | bytes (o : Octets)
  | ellipsis
deriving Inhabited

/-- what a comprehension makes -/
inductive Made where
  | list
  | set
  | dict
  | generator
deriving DecidableEq

mutual

/-- an expression. A key that is missing in a map stands for the entries of another map. -/
inductive Expr where
  | literal (value : Literal)
  | name (span : Span) (name : String)
  | list (items : List Expr)
  | tuple (items : List Expr)
  | set (items : List Expr)
  | dict (span : Span) (entries : List (Option Expr × Expr))
  | starred (inner : Expr)
  | unary (span : Span) (operator : String) (inner : Expr)
  | binary (span : Span) (operator : String) (first second : Expr)
  | compare (span : Span) (first : Expr) (others : List (String × Expr))
  | both (first second : Expr)
  | either (first second : Expr)
  | conditional (test yes no : Expr)
  | lambda (params : Params) (locals : List String) (body : Expr)
  | call (span : Span) (function : Expr) (args : List Arg)
  | attribute (span : Span) (object : Expr) (name : String)
  | subscript (span : Span) (object index : Expr)
  | slice (start stop step : Option Expr)
  | comprehension (span : Span) (made : Made) (key : Option Expr) (element : Expr) (clauses : List Clause)
  | formatted (parts : List Piece)
  | assigning (name : String) (value : Expr)
  | yields (all : Bool) (value : Option Expr)

/-- an argument of a call -/
inductive Arg where
  | plain (value : Expr)
  | named (name : String) (value : Expr)
  | several (value : Expr)
  | mapped (value : Expr)

/-- a part of a comprehension -/
inductive Clause where
  | each (span : Span) (target : Expr) (items : Expr)
  | test (condition : Expr)

/-- a piece of a formatted text; `shown` is the source of an expression that is shown with its value -/
inductive Piece where
  | plain (o : Characters)
  | field (shown : Characters) (value : Expr) (conversion : Option Char) (spec : List Piece)

/-- parameters: positional ones, of which so many can only be given by position, one for the other positional
arguments, named ones, and one for the other named arguments -/
inductive Params where
  | mk (plain : List (String × Option Expr)) (positional : Nat) (rest : Option String)
    (named : List (String × Option Expr)) (others : Option String)

end

instance : Inhabited Expr := ⟨.literal .none⟩
instance : Inhabited Params := ⟨.mk [] 0 none [] none⟩

mutual

/-- a pattern that a value is matched with -/
inductive Shape where
  | value (e : Expr)
  | capture (name : Option String)
  | sequence (items : List Shape)
  | rest (name : Option String)
  | mapping (entries : List (Expr × Shape)) (rest : Option String)
  | instanceOf (span : Span) (name : Expr) (items : List Shape) (named : List (String × Shape))
  | either (options : List Shape)
  | named (inner : Shape) (name : String)

/-- a statement, with the names that its block makes local where it has one of its own; the span of an assignment is that
of its first target -/
inductive Stmt where
  | expr (span : Span) (e : Expr)
  | assign (span : Span) (targets : List Expr) (value : Expr)
  | augment (span : Span) (target : Expr) (operator : String) (value : Expr)
  | annotate (span : Span) (target : Expr) (value : Option Expr)
  | branch (span : Span) (test : Expr) (body otherwise : List Stmt)
  | whileLoop (span : Span) (test : Expr) (body otherwise : List Stmt)
  | each (span : Span) (target items : Expr) (body otherwise : List Stmt)
  | function (span : Span) (decorators : List Expr) (name : String) (params : Params) (locals : List String)
      (yields : Bool) (body : List Stmt)
  | classOf (span : Span) (decorators : List Expr) (name : String) (bases : List Arg) (body : List Stmt)
  | back (span : Span) (value : Option Expr)
  | raise (span : Span) (value cause : Option Expr)
  | guarded (body : List Stmt) (handlers : List Handler) (otherwise last : List Stmt)
  | within (span : Span) (items : List (Expr × Option Expr)) (body : List Stmt)
  | bring (span : Span) (modules : List (String × Option String))
  | bringFrom (span : Span) (module : String) (names : List (String × Option String))
  | outer (names : List String)
  | delete (span : Span) (targets : List Expr)
  | assert (span : Span) (test : Expr) (message : Option Expr)
  | choose (span : Span) (subject : Expr) (cases : List Choice)
  | pass
  | leave (span : Span)
  | again (span : Span)

/-- what is done about some exceptions -/
inductive Handler where
  | mk (span : Span) (kind : Option Expr) (name : Option String) (body : List Stmt)

/-- a case of a choice -/
inductive Choice where
  | mk (shape : Shape) (test : Option Expr) (body : List Stmt)

end

instance : Inhabited Stmt := ⟨.pass⟩

end ScriptBridge.Shell.BlockScript
