/-
Programs whose variables are told by the mark in front of their names, as trees and as texts. A mark says whether one
value is meant, a list or a table; texts hold variables that are filled in, and matching has forms of its own.

While a program is read, its source is what is left of its text, the line that was reached, and what was said about
names so far. Blanks and comments are passed over, texts are taken up to the mark that ends them, and the text of a
document that begins on the next line is taken out of the lines.
-/
import ScriptBridge.Number.Extended
import ScriptBridge.Shell.Numeral
import ScriptBridge.Shell.Octets

namespace ScriptBridge.Shell.SigilScript

/-! ## Programs -/

/-- what is written as it is meant -/
inductive Literal where
  | undefined
  | int (n : Int)
  | real (x : Extended)
  | text (o : Octets)
deriving Inhabited

/-- how the case of a part of a text is changed -/
inductive Casing where
  | upper
  | lower
  | firstUpper
  | firstLower
  | quoted
  | fold
deriving DecidableEq

/-- how long a name is known: in its block, everywhere, or everywhere until the block ends -/
inductive Reach where
  | block
  | everywhere
  | lasting
  | passing
deriving DecidableEq

mutual

/-- an expression -/
inductive Expr where
  | literal (value : Literal)
  | text (parts : List Part)
  | declare (reach : Reach) (targets : List Expr) (grouped : Bool)
  | scalar (name : String)
  | array (name : String)
  | table (name : String)
  | function (name : String)
  | handle (name : String)
  | scalarAt (reference : Expr)
  | arrayAt (reference : Expr)
  | tableAt (reference : Expr)
  | lastIndex (array : Expr)
  | item (array index : Expr)
  | entry (table key : Expr)
  | items (array indices : Expr)
  | entries (table keys : Expr)
  | pairs (table keys : Expr)
  | pick (list indices : Expr)
  | call (name : String) (args : List Expr) (bare : Bool)
  | callAt (function : Expr) (args : List Expr) (bare : Bool)
  | method (object : Expr) (name : String) (dynamic : Option Expr) (args : List Expr)
  | builtin (name : String) (args : List Expr)
  | print (name : String) (target : Option Expr) (args : List Expr)
  | each (name : String) (block : List Stmt) (list : Expr)
  | sort (order : Option Expr) (block : List Stmt) (list : Expr)
  | unary (operator : String) (inner : Expr)
  | step (operator : String) (before : Bool) (target : Expr)
  | binary (operator : String) (first second : Expr)
  | both (first second : Expr)
  | either (first second : Expr)
  | ifDefined (first second : Expr)
  | conditional (test yes no : Expr)
  | assign (operator : String) (target value : Expr)
  | range (mark : Nat) (lasting : Bool) (first last : Expr)
  | list (members : List Expr)
  | search (target : Option Expr) (negated : Bool) (matcher : Matcher)
  | arrayOf (members : List Expr)
  | tableOf (members : List Expr)
  | functionOf (body : List Stmt)
  | referTo (inner : Expr)
  | readFrom (source : Expr)
  | files (pattern : List Part)
  | command (parts : List Part)
  | test (letter : Char) (inner : Expr)
  | run (guarded : Bool) (body : List Stmt)

/-- a part of a text that is filled in -/
inductive Part where
  | plain (o : Octets)
  | value (e : Expr)
  | joined (e : Expr)
  | cased (casing : Casing) (parts : List Part)

/-- what a text is matched with -/
inductive Matcher where
  | find (pattern : List Part) (flags : String)
  | exchange (pattern : List Part) (new : Expr) (flags : String)
  | turn (source target : Octets) (flags : String)
  | given (e : Expr)
  | quote (pattern : List Part) (flags : String)

/-- a statement, with its line where it can fail -/
inductive Stmt where
  | expr (line : Nat) (e : Expr)
  | branch (line : Nat) (cases : List (Expr × List Stmt)) (otherwise : List Stmt)
  | loop (line : Nat) (label : String) (test : Option Expr) (step : Option Expr) (body after : List Stmt)
  | trailing (line : Nat) (body : List Stmt) (test : Expr)
  | each (line : Nat) (label : String) (name : Option Expr) (list : Expr) (body : List Stmt)
  | block (label : String) (body : List Stmt)
  | function (name : String) (body : List Stmt)
  | package (name : String)
  | bring (line : Nat) (name : String) (names : List String)

end

instance : Inhabited Expr := ⟨.literal .undefined⟩
instance : Inhabited Stmt := ⟨.block "" []⟩

/-! ## The text of a program -/

/-- what is wrong with the form of a program: the words for it, and its line; `rows` says that they are complete -/
structure Fault where
  message : String
  line : Nat
  rows : Bool
deriving Inhabited

/-- what is left of a program. `skipped` are the lines of documents that were taken out of it already; `previous` and
`current` are what was left at the last two tokens; `opened` are the names that are known in the blocks around, and
`faults` what was said about names. -/
structure Source where
  file : String
  rest : Octets
  line : Nat
  skipped : Nat
  previous : Octets
  current : Octets
  functions : List String
  opened : List (List String)
  strict : Bool
  speaks : Bool
  package : String
  faults : List String
  data : Option Octets

/-- the characters of bytes; bytes that make no character stand for themselves -/
def charactersOf (o : Octets) : Octets :=
  let rec go : Nat → Octets → Octets
    | 0, _ => []
    | _, [] => []
    | fuel + 1, c :: rest =>
      let n := c.toNat
      let size := if n < 0xC2 then 1 else if n < 0xE0 then 2 else if n < 0xF0 then 3 else if n < 0xF5 then 4 else 1
      if size = 1 then c :: go fuel rest
      else match Text.decode? (toBytes (c :: rest.take (size - 1))) with
        | some [d] => d :: go fuel (rest.drop (size - 1))
        | _ => c :: go fuel rest
  go (o.length + 1) o

/-- a reader -/
abbrev Reading (α : Type) := StateT Source (Except Fault) α

namespace Reading

/-- gives up with words that are followed by the place -/
def failAt {α : Type} (message : String) : Reading α := do throw ⟨message, (← get).line, false⟩

/-- the line of the text -/
def line : Reading Nat := do return (← get).line

/-- drops characters; lines are counted -/
def drop : Nat → Reading Unit
  | 0 => return ()
  | n + 1 => do
    modify fun s => match s.rest with
      -- the end of the last line begins no other one
      | ['\n'] => { s with rest := [] }
      | '\n' :: rest => { s with rest, line := s.line + 1 + s.skipped, skipped := 0 }
      | _ :: rest => { s with rest }
      | [] => s
    drop n

/-- passes over a document for readers, up to the line that ends it -/
def passDocument : Nat → Reading Unit
  | 0 => return ()
  | fuel + 1 => do
    let row := (← get).rest.takeWhile (· != '\n')
    drop (row.length + 1)
    if (← get).rest.isEmpty || (octets "=cut").isPrefixOf row then return () else passDocument fuel

/-- passes over blanks and comments; `fresh` says that a line begins here -/
def passBlanks : Nat → Bool → Reading Unit
  | 0, _ => return ()
  | fuel + 1, fresh => do
    match (← get).rest with
    | '\n' :: _ => do
      drop 1
      passBlanks fuel true
    | '#' :: rest => do
      drop (rest.takeWhile (· != '\n')).length
      drop 1
      passBlanks fuel true
    | '=' :: c :: _ =>
      if fresh && c.isAlpha then do
        passDocument fuel
        passBlanks fuel true
      else return ()
    | c :: _ =>
      if c == ' ' || c == '\t' || c == '\r' || c == '\x0c' then do
        drop 1
        passBlanks fuel false
      else return ()
    | [] => return ()

/-- passes over blanks -/
def blanks : Reading Unit := do
  let s ← get
  passBlanks (s.rest.length + 2) false

/-- notes that a token begins here -/
def mark : Reading Unit := modify fun s =>
  if s.current.length == s.rest.length then s else { s with previous := s.current, current := s.rest }

/-- whether a character may begin a name -/
def startsName (c : Char) : Bool := c.isAlpha || c == '_'

/-- whether a character may stand in a name -/
def inName (c : Char) : Bool := c.isAlphanum || c == '_'

/-- the name at the start of a text, with the packages in front of it -/
def nameAt (o : Octets) : Octets :=
  let rec go : Nat → Octets → Octets
    | 0, _ => []
    | fuel + 1, o =>
      let part := o.takeWhile inName
      match o.drop part.length with
      | ':' :: ':' :: c :: rest => if inName c then part ++ ':' :: ':' :: go fuel (c :: rest) else part
      | '\'' :: _ => part
      | _ => part
  match o with
  | c :: _ => if startsName c || c == ':' then go (o.length + 1) o else []
  | [] => []

/-- the size of the token at the start of a text -/
def tokenSize (o : Octets) : Nat :=
  match o with
  | [] => 0
  | c :: rest =>
    if startsName c then (nameAt o).length
    else if c.isDigit then (o.takeWhile fun d => d.isAlphanum || d == '.' || d == '_').length
    else if c == '$' || c == '@' || c == '%' || c == '&' then
      1 + (match rest with
        | d :: _ => if startsName d then (rest.takeWhile inName).length else 0
        | [] => 0)
    else if c == '"' || c == '\'' then
      match rest.findIdx? (· == c) with
      | some n => n + 2
      | none => 1
    else 1

/-- gives up at the next token -/
def unexpected {α : Type} : Reading α := do
  blanks
  let s ← get
  if s.rest.isEmpty then
    throw ⟨"syntax error at " ++ s.file ++ " line " ++ toString s.line ++ ", at EOF\n", s.line, true⟩
  else
    let before := if s.current.length == s.rest.length then s.previous else s.current
    let size := tokenSize s.rest
    -- after a name that is looked ahead from, the blanks behind it belong to it
    let first := s.rest.headD ' '
    let blank := if first == '$' || first == '@' then ((s.rest.drop size).takeWhile (· == ' ')).length else 0
    let shown := if before.length ≤ s.rest.length || before.length > s.rest.length + 200 || before.isEmpty then s.rest.take size
      else before.take (before.length - s.rest.length + size + blank)
    let near := String.ofList shown
    throw ⟨"syntax error at " ++ s.file ++ " line " ++ toString s.line ++ ", near \"" ++ near ++ "\"\n", s.line, true⟩

/-- whether a text comes next, after blanks -/
def sees (text : String) : Reading Bool := do
  blanks
  return text.toList.isPrefixOf (← get).rest

/-- takes a text that comes next -/
def accept (text : String) : Reading Bool := do
  if ← sees text then do
    mark
    drop text.length
    return true
  else return false

/-- takes a text that has to come next -/
def expect (text : String) : Reading Unit := do if !(← accept text) then unexpected

/-- the word that comes next -/
def peekWord : Reading String := do
  blanks
  return String.ofList (nameAt (← get).rest)

/-- takes a word if it comes next -/
def acceptWord (word : String) : Reading Bool := do
  if (← peekWord) == word then do
    mark
    drop word.length
    return true
  else return false

/-- the mark that ends what another one begins -/
def partner (c : Char) : Char :=
  match c with
  | '(' => ')'
  | '[' => ']'
  | '<' => '>'
  | '\x7b' => '\x7d'
  | c => c

/-- takes a text up to the mark that ends it; marks in it that have a backslash in front are kept with it -/
def takeUpTo (opening closing : Char) (what : String) : Reading Octets := do
  let start := (← get).line
  let rec go : Nat → Nat → Octets → Octets → Option (Octets × Nat)
    | 0, _, _, _ => none
    | _, _, [], _ => none
    | fuel + 1, depth, c :: o, done =>
      match c, o with
      | '\\', d :: rest => go fuel depth rest (d :: '\\' :: done)
      | c, o =>
        if c == closing then
          match depth with
          | 0 => some (done.reverse, done.length + 1)
          | depth + 1 => go fuel depth o (c :: done)
        else if c == opening then go fuel (depth + 1) o (c :: done)
        else go fuel depth o (c :: done)
  let s ← get
  match go (s.rest.length + 1) 0 s.rest [] with
  | some (o, n) => do
    drop n
    return o
  | none =>
    throw ⟨if what.isEmpty then s!"Can't find string terminator {quoted closing} anywhere before EOF" else what, start, false⟩
where
  /-- a mark between quotes -/
  quoted (c : Char) : String := if c == '"' then "'\"'" else "\"" ++ String.singleton c ++ "\""

/-- takes a text that begins with a mark -/
def takeQuoted (what : String) : Reading (Char × Octets) := do
  match (← get).rest with
  | c :: _ => do
    drop 1
    return (c, ← takeUpTo c (partner c) what)
  | [] => failAt (if what.isEmpty then "Can't find string terminator" else what)

/-- a text between plain quotes: only the mark and the backslash can be escaped -/
def plainText (mark : Char) : Octets → Octets
  | '\\' :: c :: o => if c == '\\' || c == mark || c == partner mark then c :: plainText mark o else '\\' :: c :: plainText mark o
  | c :: o => c :: plainText mark o
  | [] => []

/-- takes the lines of a document out of those that follow; they are given without the blanks that all have, where that is
asked for -/
def takeDocument (word : Octets) (indented : Bool) : Reading Octets := do
  let s ← get
  let head := s.rest.takeWhile (· != '\n')
  let body := s.rest.drop (head.length + 1)
  let rec go : Nat → Octets → List Octets → Option (List Octets × Octets)
    | 0, _, _ => none
    | fuel + 1, o, rows =>
      let row := o.takeWhile (· != '\n')
      let plain := if indented then row.dropWhile fun c => c == ' ' || c == '\t' else row
      if plain == word then some (rows.reverse, o.drop (row.length + 1))
      else if o.length ≤ row.length then none
      else go fuel (o.drop (row.length + 1)) (row :: rows)
  match go (body.length + 2) body [] with
  | none => failAt s!"Can't find string terminator \"{String.ofList word}\" anywhere before EOF"
  | some (rows, after) => do
    set { s with rest := head ++ '\n' :: after, skipped := s.skipped + rows.length + 1 }
    let gap (row : Octets) : Nat := (row.takeWhile fun c => c == ' ' || c == '\t').length
    let solid := rows.filter fun row => gap row < row.length
    let common := if indented then (solid.map gap).foldl min ((solid.map gap).headD 0) else 0
    return rows.flatMap fun row => row.drop common ++ ['\n']

/-- makes a name known in the block around -/
def declareName (name : String) : Reading Unit := modify fun s =>
  match s.opened with
  | names :: rest => { s with opened := (name :: names) :: rest }
  | [] => { s with opened := [[name]] }

/-- whether a name is known everywhere -/
def isGlobalName (name : String) : Bool :=
  let plain := name.toList.drop 1
  name.contains ':' || !(plain.head?.any startsName) ||
    ["$_", "@_", "$a", "$b", "@ARGV", "%ENV", "@INC", "%INC", "$ARGV", "$0", "@F", "%SIG", "$ENV", "%ARGV"].contains name

/-- notes the use of a name -/
def useName (name : String) : Reading Unit := do
  let s ← get
  if s.strict && !isGlobalName name && !s.opened.any fun names => names.contains name then
    let row := s!"Global symbol \"{name}\" requires explicit package name (did you forget to declare \"my {name}\"?) at "
      ++ s.file ++ " line " ++ toString s.line ++ ".\n"
    set { s with faults := s.faults ++ [row] }

/-- a reader inside a block, whose names are forgotten after it -/
def inBlock {α : Type} (r : Reading α) : Reading α := do
  modify fun s => { s with opened := [] :: s.opened }
  let a ← r
  modify fun s => { s with opened := s.opened.drop 1 }
  return a

end Reading

end ScriptBridge.Shell.SigilScript
