/-
The tokens of a program for records. A slash begins a regular expression unless a value stands before it; a name with a
parenthesis right after it is a call.
-/
import ScriptBridge.Shell.Printing
import ScriptBridge.Shell.RecordScript.Program

namespace ScriptBridge.Shell.RecordScript

/-- a token -/
inductive Token where
  | number (x : Extended) (shown : Octets)
  | text (o : Octets)
  | regex (o : Octets)
  | name (o : Octets)
  | call (o : Octets)
  | builtin (name : String)
  | word (name : String)
  | mark (o : String)
  | newline
  | ended
deriving Inhabited

/-- the words that have a meaning of their own -/
def wordNames : List String :=
  ["BEGIN", "END", "function", "if", "else", "while", "for", "do", "break", "continue", "next", "nextfile", "exit",
    "return", "delete", "in", "getline", "print", "printf"]

/-- the functions that are always there, with the least and the greatest number of arguments -/
def builtinNames : List (String × Nat × Nat) :=
  [("length", 0, 1), ("substr", 2, 3), ("index", 2, 2), ("split", 2, 3), ("sub", 2, 3), ("gsub", 2, 3), ("match", 2, 2),
    ("sprintf", 1, 255), ("sin", 1, 1), ("cos", 1, 1), ("atan2", 2, 2), ("exp", 1, 1), ("log", 1, 1), ("sqrt", 1, 1),
    ("int", 1, 1), ("rand", 0, 0), ("srand", 0, 1), ("tolower", 1, 1), ("toupper", 1, 1), ("system", 1, 1),
    ("close", 1, 1), ("fflush", 0, 1)]

/-- the marks, the longer ones first -/
def markNames : List String :=
  ["&&", "||", "++", "--", "+=", "-=", "*=", "/=", "%=", "^=", "==", "<=", ">=", "!=", "!~", ">>", "\x7b",
    "\x7d", "(", ")", "[", "]", ";", ",", "+", "-", "*", "/", "%", "^", "!", ">", "<", "|", "?", ":", "~", "$", "="]

namespace Token

/-- whether a slash after a token divides -/
def endsValue : Token → Bool
  | number .. => true
  | text _ => true
  | regex _ => true
  | name _ => true
  | builtin _ => true
  | mark o => o == ")" || o == "]" || o == "$" || o == "++" || o == "--"
  | _ => false

/-- how a token is shown in a complaint -/
def shown : Token → Octets
  | number _ o => o
  | text o => '"' :: o ++ ['"']
  | regex o => '/' :: o ++ ['/']
  | name o => o
  | call o => o
  | builtin o => octets o
  | word o => octets o
  | mark o => octets o
  | newline => octets "end of line"
  | ended => octets "end of file"

end Token

/-- a text with its escapes replaced -/
def withoutEscapes : Nat → Octets → Octets
  | 0, o => o
  | _, [] => []
  | fuel + 1, '\\' :: rest =>
    match rest with
    | '"' :: rest => '"' :: withoutEscapes fuel rest
    | '/' :: rest => '/' :: withoutEscapes fuel rest
    | '\n' :: rest => withoutEscapes fuel rest
    | rest =>
      match escapedChar? rest with
      | some (c, rest) => c :: withoutEscapes fuel rest
      | none => match rest with
        | c :: rest => '\\' :: c :: withoutEscapes fuel rest
        | [] => ['\\']
  | fuel + 1, c :: rest => c :: withoutEscapes fuel rest

/-- the text up to a mark that no backslash stands before, and what follows the mark -/
def upToMark (mark : Char) : Nat → Octets → Option (Octets × Octets)
  | 0, _ => none
  | _, [] => none
  | fuel + 1, '\\' :: c :: rest => (upToMark mark fuel rest).map fun (o, more) => ('\\' :: c :: o, more)
  | fuel + 1, c :: rest =>
    if c == mark then some ([], rest)
    else if c == '\n' then none
    else (upToMark mark fuel rest).map fun (o, more) => (c :: o, more)

/-- a regular expression up to its slash; one between brackets does not end it -/
def upToSlash : Nat → Bool → Octets → Option (Octets × Octets)
  | 0, _, _ => none
  | _, _, [] => none
  | fuel + 1, inside, '\\' :: c :: rest =>
    (upToSlash fuel inside rest).map fun (o, more) => (if c == '/' then (c :: o, more) else ('\\' :: c :: o, more))
  | fuel + 1, inside, c :: rest =>
    if c == '\n' || (c == '/' && !inside) then if c == '/' then some ([], rest) else none
    else
      let inside := if c == '[' then true else if c == ']' then false else inside
      (upToSlash fuel inside rest).map fun (o, more) => (c :: o, more)

/-- cuts a program into tokens with their lines -/
def tokens : Nat → Token → Nat → Octets → Except Fault (List (Token × Nat))
  | 0, _, line, _ => .ok [(.ended, line)]
  | _, _, line, [] => .ok [(.ended, line)]
  | fuel + 1, last, line, c :: rest =>
    let onward (t : Token) (rest : Octets) : Except Fault (List (Token × Nat)) :=
      (tokens fuel t line rest).map fun more => (t, line) :: more
    if c == ' ' || c == '\t' || c == '\r' then tokens fuel last line rest
    else if c == '\n' then (tokens fuel .newline (line + 1) rest).map fun more => (.newline, line) :: more
    else if c == '#' then tokens fuel last line (rest.dropWhile (· != '\n'))
    else if c == '\\' then
      match rest with
      | '\n' :: rest => tokens fuel last (line + 1) rest
      | '\r' :: '\n' :: rest => tokens fuel last (line + 1) rest
      | _ => .error (.character line '\\')
    else if c == '"' then
      match upToMark '"' (rest.length + 1) rest with
      | some (o, more) => onward (.text (withoutEscapes (o.length + 1) o)) more
      | none => .error (.wrong line (octets "runaway string constant \"" ++ rest.takeWhile (· != '\n') ++ octets " ..."))
    else if c == '/' && !last.endsValue then
      match upToSlash (rest.length + 1) false rest with
      | some (o, more) => onward (.regex o) more
      | none => .error (.wrong line (octets "runaway regular expression /" ++ rest.takeWhile (· != '\n') ++ octets " ..."))
    else if c.isDigit || (c == '.' && (rest.head?.map Char.isDigit).getD false) then
      let hexadecimal := c == '0' && (rest.head?.map fun x => x == 'x' || x == 'X').getD false
      let (x, more) := if hexadecimal then realNumeral (c :: rest)
        else (decimalNumeral? false (c :: rest)).getD (.zero, rest)
      onward (.number x ((c :: rest).take (rest.length + 1 - more.length))) more
    else if c.isAlpha || c == '_' then
      let name := (c :: rest).takeWhile fun d => d.isAlphanum || d == '_'
      let more := (c :: rest).drop name.length
      let key := String.ofList name
      if wordNames.contains key then onward (.word key) more
      else if (builtinNames.find? fun b => b.1 == key).isSome then onward (.builtin key) more
      else if more.head? == some '(' then onward (.call name) more
      else onward (.name name) more
    else match markNames.find? fun m => m.toList.isPrefixOf (c :: rest) with
      | some m => onward (.mark m) ((c :: rest).drop m.length)
      | none => .error (.character line c)

end ScriptBridge.Shell.RecordScript
