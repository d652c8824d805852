/-
Reading programs. What a mark means hangs on whether a value or an operator is awaited, so tokens are taken where they are
needed. Texts are read like programs where they hold variables.
-/
import ScriptBridge.Shell.SigilScript.Source

namespace ScriptBridge.Shell.SigilScript

open Reading

/-! ## Words -/

/-- the functions that take one value, which binds more strongly than comparisons -/
def unaryWords : List String :=
  ["defined", "ref", "scalar", "lc", "uc", "lcfirst", "ucfirst", "length", "chr", "ord", "int", "abs", "sqrt", "hex", "oct",
    "exp", "log", "sin", "cos", "quotemeta", "rand", "srand", "shift", "pop", "exists", "delete", "each", "keys", "values",
    "exit", "umask", "sleep", "localtime", "gmtime", "caller", "undef", "pos", "fc", "readline", "close", "chdir", "rmdir",
    "readlink", "stat", "lstat", "require", "chomp", "chop", "alarm", "lock", "study", "fileno", "eof", "getc", "closedir",
    "readdir", "glob"]

/-- the functions that take a list -/
def listWords : List String :=
  ["push", "unshift", "splice", "join", "split", "sprintf", "die", "warn", "reverse", "unlink", "open", "pack", "unpack",
    "index", "rindex", "substr", "kill", "system", "exec", "chmod", "chown", "utime", "rename", "link", "symlink", "mkdir",
    "binmode", "seek", "read", "sysread", "syswrite", "opendir", "select", "atan2", "bless", "truncate", "tell", "vec",
    "waitpid"]

/-- the functions that take nothing -/
def plainWords : List String := ["wantarray", "time", "times", "wait", "fork", "getppid", "break"]

/-- the words that join or end expressions -/
def joiningWords : List String :=
  ["x", "eq", "ne", "lt", "gt", "le", "ge", "cmp", "and", "or", "not", "xor", "if", "unless", "while", "until", "for",
    "foreach", "isa"]

/-- operators of two operands by levels, the weakest first -/
def operatorLevels : List (List String) :=
  [["||", "//"], ["&&"], ["|", "^"], ["&"], ["==", "!=", "<=>", "eq", "ne", "cmp"],
    ["<=", ">=", "<", ">", "lt", "gt", "le", "ge"], ["<<", ">>"], ["+", "-", "."], ["*", "/", "%", "x"]]

/-- the operators that give a target a value -/
def assignMarks : List String :=
  ["**=", "||=", "&&=", "//=", "<<=", ">>=", "+=", "-=", "*=", "/=", ".=", "%=", "x=", "&=", "|=", "^=", "="]

/-- the marks of variables that are not letters -/
def specialMarks : List Char := "&\x60'+!@/\\,;.-0\"$<>()[]:?|^=~".toList

/-- whether an expression stands for one value -/
def isOne : Expr → Bool
  | .array _ => false
  | .table _ => false
  | .arrayAt _ => false
  | .tableAt _ => false
  | .list _ => false
  | .items .. => false
  | .entries .. => false
  | .pairs .. => false
  | .declare _ targets grouped => !grouped && (match targets with
    | [.array _] => false
    | [.table _] => false
    | _ => true)
  | _ => true

/-- what an expression is called where it cannot be given a value -/
def constantFault? : Expr → Bool
  | .literal _ => true
  | .text _ => true
  | .list members => members.attach.any fun ⟨e, _⟩ => constantFault? e
  | _ => false

/-- an expression that is true as long as there are lines, where it takes one -/
def asLineTest (e : Expr) : Expr :=
  match e with
  | .readFrom _ | .files _ | .builtin "readline" _ | .builtin "shift" [] =>
    match e with
    | .builtin "shift" [] => e
    | e => .builtin "defined" [.assign "" (.scalar "_") e]
  | .assign "" target (.readFrom source) =>
    if isOne target then .builtin "defined" [.assign "" target (.readFrom source)] else e
  | .assign "" target (.files pattern) =>
    if isOne target then .builtin "defined" [.assign "" target (.files pattern)] else e
  | .assign "" target (.builtin "readline" args) =>
    if isOne target then .builtin "defined" [.assign "" target (.builtin "readline" args)] else e
  | .assign "" target (.builtin "readdir" args) =>
    if isOne target then .builtin "defined" [.assign "" target (.builtin "readdir" args)] else e
  | e => e

/-- the name of a variable with its mark -/
def marked (mark : Char) (name : Octets) : String := String.ofList (mark :: name)

/-- the meaning of a letter after a backslash, in a text -/
def letterMeant? (c : Char) : Option Char :=
  match c with
  | 'n' => some '\n'
  | 't' => some '\t'
  | 'r' => some '\r'
  | 'a' => some '\x07'
  | 'b' => some '\x08'
  | 'e' => some '\x1b'
  | 'f' => some '\x0c'
  | _ => none

/-- the casing that a letter begins -/
def casingOf? (c : Char) : Option Casing :=
  match c with
  | 'U' => some .upper
  | 'L' => some .lower
  | 'Q' => some .quoted
  | 'F' => some .fold
  | 'u' => some .firstUpper
  | 'l' => some .firstLower
  | _ => none

/-- characters in front of parts -/
def consPart (o : Octets) : List Part → List Part
  | .plain p :: rest => .plain (o ++ p) :: rest
  | parts => .plain o :: parts

/-- whether what follows a brace at the start of a statement is an entry of a table, and not a block -/
def opensTable (o : Octets) : Bool :=
  let gap (c : Char) : Bool := c == ' ' || c == '\n' || c == '\t'
  let o := o.dropWhile gap
  match o with
  | '\x7d' :: o => (o.dropWhile gap).head?.any fun c => ")\x7d,;".toList.contains c
  | c :: more =>
    let rest : Octets :=
      if startsName c then o.dropWhile inName
      else if c == '"' || c == '\'' then past c more
      else ['.']
    match rest.dropWhile gap with
    | ',' :: _ => !c.isLower
    | '=' :: '>' :: _ => true
    | _ => false
  | [] => false
where
  /-- what follows a text between quotes -/
  past (c : Char) : Octets → Octets
    | '\\' :: _ :: o => past c o
    | d :: o => if d == c then o else past c o
    | [] => []

/-- takes a number -/
def takeNumber : Reading Literal := do
  mark
  let s ← get
  let based (base lead : Nat) (kind : String) : Reading Literal := do
    let digits := (s.rest.drop lead).takeWhile fun c => c.isAlphanum || c == '_'
    match digits.find? fun c => c != '_' && (digitOf? base c).isNone with
    | some c =>
      if c.isDigit && base < 10 then failAt s!"Illegal {kind} digit '{c}'"
    | none => pure ()
    drop (lead + digits.length)
    return .int (digitsIn base (digits.filter (· != '_'))).1
  match s.rest with
  | '0' :: c :: d :: _ =>
    if (c == 'x' || c == 'X') && (digitOf? 16 d).isSome then return ← based 16 2 "hexadecimal"
    else if (c == 'b' || c == 'B') && d.isDigit then return ← based 2 2 "binary"
    else if c.isDigit || c == '_' then return ← based 8 1 "octal"
  | '0' :: c :: _ => if c.isDigit then return ← based 8 1 "octal"
  | _ => pure ()
  let isDigit (c : Char) : Bool := c.isDigit || c == '_'
  let whole := s.rest.takeWhile isDigit
  let after := s.rest.drop whole.length
  let fraction : Octets := match after with
    | '.' :: '.' :: _ => []
    | '.' :: more => '.' :: more.takeWhile isDigit
    | _ => []
  let after := after.drop fraction.length
  let exponent : Octets := match after with
    | e :: more =>
      let signs := (more.takeWhile fun c => c == '+' || c == '-').take 1
      let digits := (more.drop signs.length).takeWhile isDigit
      if (e == 'e' || e == 'E') && !digits.isEmpty then e :: signs ++ digits else []
    | [] => []
  drop (whole.length + fraction.length + exponent.length)
  if fraction.isEmpty && exponent.isEmpty then
    let n := (digitsIn 10 (whole.filter (· != '_'))).1
    if n < 18446744073709551616 then return .int n else return .real (.ofInt n)
  else
    let o := (whole ++ fraction ++ exponent).filter (· != '_')
    let o := if o.head? == some '.' then '0' :: o else o
    return .real ((decimalNumeral? false o).map Prod.fst |>.getD .zero)

/-- whether an operator comes next; words have to end there -/
def operatorHere? (marks : List String) : Reading (Option String) := do
  blanks
  let rest := (← get).rest
  return marks.find? fun m =>
    let o := m.toList
    o.isPrefixOf rest &&
      (let after := rest.drop o.length
        if (m.toList.head?.any Char.isAlpha) then
          (match after with
            | c :: _ => if m == "x" then !(startsName c) && c != '=' else !(inName c)
            | [] => true) && !(after.dropWhile (· == ' ') |> fun a => ['=', '>'].isPrefixOf a)
        else
          match after with
          | c :: d :: _ =>
            -- a longer operator is not taken for a shorter one
            !(c == '=' && !(["==", "!=", "<=", ">=", "<=>"].contains m) && d != '~' && d != '=')
              && !(m == "*" && c == '*') && !(m == "&" && c == '&') && !(m == "|" && c == '|')
              && !(m == "<" && c == '<') && !(m == ">" && c == '>') && !(m == "." && c == '.')
              && !(m == "-" && c == '-') && !(m == "+" && c == '+') && !(m == "<=" && c == '>')
              && !(m == "%" && c == '=') && !(m == "-" && c == '=') && !(m == "/" && c == '/')
          | [c] => c != '='
          | [] => true)

/-- takes an operator that comes next -/
def acceptOperator (marks : List String) : Reading (Option String) := do
  match ← operatorHere? marks with
  | some m => do
    mark
    drop m.length
    return some m
  | none => return none

/-- whether a value may begin with a character, where it may be left out -/
def mayStart (rest : Octets) : Bool :=
  match rest with
  | [] => false
  | c :: more =>
    if startsName c then nameAt rest == octets "not" || !joiningWords.contains (String.ofList (nameAt rest))
    else if c == '-' then (match more with
      | d :: _ => d != ' ' && d != '=' && d != '>' && d != '-'
      | [] => false)
    else if c == '<' then (match more with
      | d :: _ => d == '$' || startsName d || d == '<' || d == '>'
      | [] => false)
    else if c == '%' || c == '&' then (match more with
      | d :: _ => startsName d || d == '$' || d == '\x7b' || (c == '%' && d == '+')
      | [] => false)
    else if c == '/' then false
    else if c == '.' then more.head?.any Char.isDigit
    else c.isDigit || "$@(\\\"'\x60[\x7b!~+".toList.contains c

mutual

/-- takes an expression, of the weakest operators -/
def readExpr : Nat → Reading Expr
  | 0 => unexpected
  | fuel + 1 => do
    let first ← readAnd fuel
    readOr fuel first

/-- takes further operands of the weakest operators -/
def readOr : Nat → Expr → Reading Expr
  | 0, _ => unexpected
  | fuel + 1, first => do
    if ← acceptWord "or" then do
      let second ← readAnd fuel
      readOr fuel (.either first second)
    else if ← acceptWord "xor" then do
      let second ← readAnd fuel
      readOr fuel (.binary "xor" first second)
    else return first

/-- takes operands that are joined by the word for both -/
def readAnd : Nat → Reading Expr
  | 0 => unexpected
  | fuel + 1 => do
    let first ← readNot fuel
    if ← acceptWord "and" then return .both first (← readAnd fuel) else return first

/-- takes an operand with the word for the opposite -/
def readNot : Nat → Reading Expr
  | 0 => unexpected
  | fuel + 1 => do
    if (← peekWord) == "not" then do
      let _ ← acceptWord "not"
      return .unary "!" (← readNot fuel)
    else readComma fuel

/-- takes values with commas between them -/
def readComma : Nat → Reading Expr
  | 0 => unexpected
  | fuel + 1 => do
    let first ← readAssign fuel
    if (← sees ",") || (← sees "=>") then do
      let more ← readMore fuel
      return .list (first :: more)
    else return first

/-- takes further values after commas -/
def readMore : Nat → Reading (List Expr)
  | 0 => unexpected
  | fuel + 1 => do
    if (← accept ",") || (← accept "=>") then
      blanks
      let rest := (← get).rest
      let ends : Bool := match rest with
        | [] => true
        | c :: _ => ")]\x7d;:".toList.contains c
      if ends || ["if", "unless", "while", "until", "for", "foreach", "or", "and"].contains (← peekWord)
          && !(← followedByArrow) then return []
      else if (← sees ",") || (← sees "=>") then readMore fuel
      else do
        let e ← readAssign fuel
        return e :: (← readMore fuel)
    else return []

/-- whether the word that comes next is a key -/
def followedByArrow : Reading Bool := do
  blanks
  let rest := (← get).rest
  let after := (rest.drop (nameAt rest).length).dropWhile fun c => c == ' ' || c == '\n' || c == '\t'
  return ['=', '>'].isPrefixOf after

/-- takes an expression that may give a target a value -/
def readAssign : Nat → Reading Expr
  | 0 => unexpected
  | fuel + 1 => do
    let target ← readConditional fuel
    blanks
    let rest := (← get).rest
    let found := assignMarks.find? fun m =>
      m.toList.isPrefixOf rest && !(m == "=" && (['=', '='].isPrefixOf rest || ['=', '~'].isPrefixOf rest
        || ['=', '>'].isPrefixOf rest))
    match found with
    | some m => do
      mark
      drop m.length
      let value ← readAssign fuel
      if constantFault? target then
        blanks
        let kind := match target with
          | .list _ => "list"
          | _ => "scalar"
        let s ← get
        let place := if s.rest.isEmpty then "at EOF"
          else "near \"" ++ String.ofList (s.current.take (s.current.length - s.rest.length + 1)) ++ "\""
        let row := s!"Can't modify constant item in {kind} assignment at " ++ s.file ++ " line " ++ toString s.line ++ ", "
          ++ place ++ "\n"
        set { s with faults := s.faults ++ [row] }
      return .assign (String.ofList m.toList.dropLast) target value
    | none => return target

/-- takes an expression that may hang on a test -/
def readConditional : Nat → Reading Expr
  | 0 => unexpected
  | fuel + 1 => do
    let test ← readRange fuel
    if (← sees "?") then do
      let _ ← accept "?"
      let yes ← readAssign fuel
      expect ":"
      let no ← readAssign fuel
      return .conditional test yes no
    else return test

/-- takes a range -/
def readRange : Nat → Reading Expr
  | 0 => unexpected
  | fuel + 1 => do
    let first ← readLevel fuel operatorLevels
    let mark := (← get).rest.length
    if ← accept "..." then return .range mark true first (← readLevel fuel operatorLevels)
    else if ← accept ".." then return .range mark false first (← readLevel fuel operatorLevels)
    else return first

/-- takes operands of the strongest levels, joined by operators of the weaker ones -/
def readLevel : Nat → List (List String) → Reading Expr
  | 0, _ => unexpected
  | fuel + 1, [] => readBound fuel
  | fuel + 1, level :: stronger => do
    let first ← readLevel fuel stronger
    readOperands fuel level stronger first

/-- takes further operands of a level -/
def readOperands : Nat → List String → List (List String) → Expr → Reading Expr
  | 0, _, _, _ => unexpected
  | fuel + 1, level, stronger, first => do
    match ← acceptOperator level with
    | none => return first
    | some m => do
      let second ← readLevel fuel stronger
      readOperands fuel level stronger (match m with
        | "||" => .either first second
        | "&&" => .both first second
        | "//" => .ifDefined first second
        | m => .binary m first second)

/-- takes a value that may be matched with something -/
def readBound : Nat → Reading Expr
  | 0 => unexpected
  | fuel + 1 => do
    let target ← readUnary fuel
    readMatches fuel target

/-- takes what a value is matched with -/
def readMatches : Nat → Expr → Reading Expr
  | 0, _ => unexpected
  | fuel + 1, target => do
    let negated ← sees "!~"
    if (← accept "=~") || (← accept "!~") then do
      let e ← readUnary fuel
      let bound := match e with
        | .search none _ (.quote pattern flags) =>
          .search (some target) negated (.given (.search none false (.quote pattern flags)))
        | .search none _ m => .search (some target) negated m
        | e => .search (some target) negated (.given e)
      readMatches fuel bound
    else return target

/-- takes an operand with operators in front of it -/
def readUnary : Nat → Reading Expr
  | 0 => unexpected
  | fuel + 1 => do
    blanks
    match (← get).rest with
    | '!' :: c :: _ =>
      if c == '~' then unexpected
      else do
        let _ ← accept "!"
        return .unary "!" (← readUnary fuel)
    | '~' :: _ => do
      let _ ← accept "~"
      return .unary "~" (← readUnary fuel)
    | '\\' :: _ => do
      let _ ← accept "\\"
      return .referTo (← readUnary fuel)
    | '+' :: '+' :: _ => do
      let _ ← accept "++"
      return .step "++" true (← readUnary fuel)
    | '-' :: '-' :: _ => do
      let _ ← accept "--"
      return .step "--" true (← readUnary fuel)
    | '+' :: _ => do
      let _ ← accept "+"
      readUnary fuel
    | '-' :: c :: d =>
      let alone : Bool := match d with
        | e :: _ => !inName e
        | [] => true
      let after := d.dropWhile (· == ' ')
      if "rwxfezsdlpSbctMAC".toList.contains c && alone && !(['=', '>'].isPrefixOf after) && !([','].isPrefixOf after) then do
        let _ ← accept "-"
        drop 1
        blanks
        let rest := (← get).rest
        if mayStart rest then return .test c (← readUnary fuel) else return .test c (.scalar "_")
      else if startsName c then do
        let word := nameAt (c :: d)
        let known := (← get).functions
        if unaryWords.contains (String.ofList word) || known.contains (String.ofList word)
            || ((d.drop (word.length - 1)).head? == some '(') then do
          let _ ← accept "-"
          return .unary "-" (← readUnary fuel)
        else do
          let _ ← accept "-"
          drop word.length
          return .literal (.text ('-' :: word))
      else do
        let _ ← accept "-"
        return .unary "-" (← readUnary fuel)
    | _ => readPower fuel

/-- takes a power -/
def readPower : Nat → Reading Expr
  | 0 => unexpected
  | fuel + 1 => do
    let base ← readStepped fuel
    blanks
    match (← get).rest with
    | '*' :: '*' :: '=' :: _ => return base
    | '*' :: '*' :: _ => do
      let _ ← accept "**"
      return .binary "**" base (← readUnary fuel)
    | _ => return base

/-- takes a value that may be stepped after it was used -/
def readStepped : Nat → Reading Expr
  | 0 => unexpected
  | fuel + 1 => do
    let e ← readTerm fuel
    let e ← readArrows fuel e false
    if ← accept "++" then return .step "++" false e
    else if ← accept "--" then return .step "--" false e
    else return e

/-- takes the key of a table, with the mark that ends it -/
def readKey : Nat → Reading Expr
  | 0 => unexpected
  | fuel + 1 => do
    blanks
    let rest := (← get).rest
    let sign := if rest.head? == some '-' then 1 else 0
    let word := (rest.drop sign).takeWhile inName
    let after := (rest.drop (sign + word.length)).dropWhile fun c => c == ' ' || c == '\t' || c == '\n'
    if (word.head?.any startsName) && after.head? == some '\x7d' then do
      mark
      drop (sign + word.length)
      expect "\x7d"
      return .literal (.text (rest.take sign ++ word))
    else do
      let e ← readExpr fuel
      expect "\x7d"
      return e

/-- takes what follows a value: indices, keys, calls and methods; `inside` says that a text is read -/
def readArrows : Nat → Expr → Bool → Reading Expr
  | 0, _, _ => unexpected
  | fuel + 1, e, inside => do
    if !inside then
      -- an arrow may stand on the next line
      let s ← get
      blanks
      if !(['-', '>'].isPrefixOf (← get).rest) then
        let after := (← get).rest
        let joined : Bool := after.length == s.rest.length
        if !joined then set { s with rest := s.rest }
    let direct : Bool := match e with
      | .item .. => true
      | .entry .. => true
      | .callAt _ _ false => true
      | .method .. => false
      | _ => false
    match (← get).rest with
    | '-' :: '>' :: '[' :: _ => do
      drop 3
      let i ← readExpr fuel
      expect "]"
      readArrows fuel (.item (.arrayAt e) i) inside
    | '-' :: '>' :: '\x7b' :: _ => do
      drop 3
      let k ← readKey fuel
      readArrows fuel (.entry (.tableAt e) k) inside
    | '-' :: '>' :: '@' :: '*' :: _ => do
      drop 4
      return .arrayAt e
    | '-' :: '>' :: '%' :: '*' :: _ => do
      drop 4
      return .tableAt e
    | '-' :: '>' :: '$' :: '*' :: _ => do
      drop 4
      return .scalarAt e
    | '-' :: '>' :: '$' :: '#' :: '*' :: _ => do
      drop 5
      return .lastIndex (.arrayAt e)
    | '-' :: '>' :: '@' :: '[' :: _ => do
      drop 4
      let i ← readExpr fuel
      expect "]"
      return .items (.arrayAt e) i
    | '-' :: '>' :: '@' :: '\x7b' :: _ => do
      drop 4
      let k ← readKey fuel
      return .entries (.tableAt e) k
    | '-' :: '>' :: _ => do
      if inside then return e
      else do
        mark
        drop 2
        blanks
        let rest := (← get).rest
        match rest with
        | '(' :: _ => do
          let args ← readArgs fuel
          readArrows fuel (.callAt e args false) inside
        | '$' :: _ => do
          drop 1
          let name := nameAt (← get).rest
          drop name.length
          useName (marked '$' name)
          let args ← if ((← get).rest.head? == some '(') then readArgs fuel else pure []
          readArrows fuel (.method e "" (some (.scalar (String.ofList name))) args) inside
        | '[' :: _ => do
          drop 1
          let i ← readExpr fuel
          expect "]"
          readArrows fuel (.item (.arrayAt e) i) inside
        | '\x7b' :: _ => do
          drop 1
          let k ← readKey fuel
          readArrows fuel (.entry (.tableAt e) k) inside
        | _ => do
          let name := nameAt rest
          if name.isEmpty then unexpected
          drop name.length
          let args ← if ((← get).rest.head? == some '(') then readArgs fuel else pure []
          readArrows fuel (.method e (String.ofList name) none args) inside
    | '[' :: _ =>
      if direct then do
        drop 1
        let i ← readExpr fuel
        expect "]"
        readArrows fuel (.item (.arrayAt e) i) inside
      else return e
    | '\x7b' :: _ =>
      if direct then do
        drop 1
        let k ← readKey fuel
        readArrows fuel (.entry (.tableAt e) k) inside
      else return e
    | '(' :: _ =>
      if direct && !inside then do
        let args ← readArgs fuel
        readArrows fuel (.callAt e args false) inside
      else return e
    | _ => return e

/-- takes arguments between parentheses -/
def readArgs : Nat → Reading (List Expr)
  | 0 => unexpected
  | fuel + 1 => do
    expect "("
    if ← accept ")" then return []
    else do
      let e ← readExpr fuel
      expect ")"
      return match e with
        | .list members => members
        | e => [e]

/-- takes arguments, with or without parentheses -/
def readLooseArgs : Nat → Reading (List Expr)
  | 0 => unexpected
  | fuel + 1 => do
    blanks
    let s ← get
    match s.rest with
    | '(' :: _ => readArgs fuel
    | rest =>
      let starts : Bool := mayStart rest || (match rest with
        | '/' :: _ => true
        | '<' :: _ => true
        | '-' :: _ => true
        | _ => false)
      if starts then
        match ← readComma fuel with
        | .list members => return members
        | e => return [e]
      else return []

/-- takes arguments that go up to the end of what is around -/
def readLooseList : Nat → Reading (List Expr)
  | 0 => unexpected
  | fuel + 1 => do
    blanks
    let rest := (← get).rest
    if mayStart rest || rest.head? == some '<' || rest.head? == some '-' then
      match ← readComma fuel with
      | .list members => return members
      | e => return [e]
    else return []

/-- takes the name of a variable after its mark; an expression stands for it between braces -/
def readVariableName : Nat → Bool → Reading (Except Expr String)
  | 0, _ => unexpected
  | fuel + 1, inside => do
    let rest := (← get).rest
    match rest with
    | '\x7b' :: more =>
      let blank := (more.takeWhile fun c => c == ' ').length
      let name := nameAt (more.drop blank)
      let name := if name.isEmpty then (more.drop blank).takeWhile Char.isDigit else name
      let after := (more.drop (blank + name.length)).dropWhile (· == ' ')
      if !name.isEmpty && after.head? == some '\x7d' then do
        drop (more.length - after.length + 2)
        return .ok (String.ofList name)
      else match more with
        | '^' :: word =>
          let word := word.takeWhile inName
          if (more.drop (word.length + 1)).head? == some '\x7d' then do
            drop (word.length + 3)
            return .ok ("^" ++ String.ofList word)
          else unexpected
        | _ => do
          drop 1
          let body ← inBlock (readStmts fuel true)
          expect "\x7d"
          return .error (match body with
            | [.expr _ e] => e
            | body => .run false body)
    | '$' :: next =>
      let starts : Bool := match next with
        | c :: _ => startsName c || c == '\x7b' || c == '$' || c == ':'
        | [] => false
      if starts then do
        drop 1
        match ← readVariableName fuel inside with
        | .ok n => do
          useName ("$" ++ n)
          return .error (.scalar n)
        | .error e => return .error (.scalarAt e)
      else do
        drop 1
        return .ok "$"
    | '^' :: c :: _ =>
      if c.isUpper then do
        drop 2
        return .ok (String.ofList ['^', c])
      else do
        drop 1
        return .ok "^"
    | c :: _ =>
      let name := nameAt rest
      if !name.isEmpty && name != [':', ':'] then do
        drop name.length
        return .ok (String.ofList name)
      else if c.isDigit then
        let digits := rest.takeWhile Char.isDigit
        drop digits.length
        return .ok (String.ofList digits)
      else if specialMarks.contains c then do
        drop 1
        return .ok (String.singleton c)
      else unexpected
    | [] => unexpected

/-- takes a variable of one value, after its mark, with what follows it -/
def readScalar : Nat → Bool → Reading Expr
  | 0, _ => unexpected
  | fuel + 1, inside => do
    match (← get).rest with
    | '#' :: c :: _ =>
      if c == '\x7b' || c == '$' || startsName c then do
        drop 1
        match ← readVariableName fuel inside with
        | .ok n => do
          useName ("@" ++ n)
          return .lastIndex (.array n)
        | .error e => return .lastIndex (.arrayAt e)
      else unexpected
    | _ => do
      let name ← readVariableName fuel inside
      let rest := (← get).rest
      let isIndex : Bool := match rest with
        | '[' :: more => !inside || indexes more
        | _ => false
      match name, rest with
      | .ok n, '[' :: _ =>
        if isIndex then do
          useName ("@" ++ n)
          drop 1
          let i ← readExpr fuel
          expect "]"
          readArrows fuel (.item (.array n) i) inside
        else do
          useName ("$" ++ n)
          return .scalar n
      | .ok n, '\x7b' :: _ =>
        if inside && (n.toList.all fun c => !inName c) && n != "+" && n != "!" then return .scalar n
        else do
          useName ("%" ++ n)
          drop 1
          let k ← readKey fuel
          readArrows fuel (.entry (.table n) k) inside
      | .error e, '[' :: _ =>
        if isIndex then do
          drop 1
          let i ← readExpr fuel
          expect "]"
          readArrows fuel (.item (.arrayAt e) i) inside
        else return .scalarAt e
      | .error e, '\x7b' :: _ => do
        drop 1
        let k ← readKey fuel
        readArrows fuel (.entry (.tableAt e) k) inside
      | .ok n, _ => do
        useName ("$" ++ n)
        if inside then readArrows fuel (.scalar n) inside else return .scalar n
      | .error e, _ => return .scalarAt e
where
  /-- whether what stands between brackets in a text is an index -/
  indexes (o : Octets) : Bool :=
    let inner := o.takeWhile (· != ']')
    match inner with
    | [] => false
    | '$' :: name => !name.isEmpty
    | '-' :: digits => !digits.isEmpty && digits.all Char.isDigit
    | c :: _ => if c.isDigit then inner.all fun c => c.isDigit || " +-*/".toList.contains c else c == '$'

/-- takes a variable of many values, after its mark -/
def readArray : Nat → Bool → Reading Expr
  | 0, _ => unexpected
  | fuel + 1, inside => do
    let name ← readVariableName fuel inside
    let array : Expr := match name with
      | .ok n => .array n
      | .error e => .arrayAt e
    let table : Expr := match name with
      | .ok n => .table n
      | .error e => .tableAt e
    match (← get).rest with
    | '[' :: _ => do
      drop 1
      let i ← readExpr fuel
      expect "]"
      return .items array i
    | '\x7b' :: _ => do
      match name with
      | .ok n => useName ("%" ++ n)
      | .error _ => pure ()
      drop 1
      let k ← readKey fuel
      return .entries table k
    | _ => do
      match name with
      | .ok n => useName ("@" ++ n)
      | .error _ => pure ()
      return array

/-- takes the parts of a text, up to its end or the end of a casing -/
def readParts : Nat → Bool → Reading (List Part)
  | 0, _ => unexpected
  | fuel + 1, pattern => do
    let plain (n : Nat) (o : Octets) : Reading (List Part) := do
      drop n
      return consPart o (← readParts fuel pattern)
    match (← get).rest with
    | [] => return []
    | '\\' :: c :: rest =>
      match casingOf? c with
      | some casing => do
        drop 2
        match casing, (← get).rest with
        | .upper, '\\' :: 'u' :: _ => do
          drop 2
          let parts ← readParts fuel pattern
          let more ← readParts fuel pattern
          return .cased .firstUpper [.cased .upper parts] :: more
        | .lower, '\\' :: 'u' :: _ => do
          drop 2
          let parts ← readParts fuel pattern
          let more ← readParts fuel pattern
          return .cased .firstUpper [.cased .lower parts] :: more
        | .firstUpper, _ => do return [.cased .firstUpper (← readParts fuel pattern)]
        | .firstLower, _ => do return [.cased .firstLower (← readParts fuel pattern)]
        | casing, _ => do
          let parts ← readParts fuel pattern
          let more ← readParts fuel pattern
          return .cased casing parts :: more
      | none =>
        if c == 'E' then do
          drop 2
          return []
        else if pattern then plain 2 ['\\', c]
        else match letterMeant? c with
          | some d => plain 2 [d]
          | none =>
            match c, rest with
            | 'x', '\x7b' :: more =>
              let digits := more.takeWhile (· != '\x7d')
              plain (digits.length + 4) [Char.ofNat (digitsIn 16 (digits.filter fun c => c != ' ' && c != '_')).1]
            | 'x', more =>
              let digits := (more.take 2).takeWhile fun c => (digitOf? 16 c).isSome
              plain (2 + digits.length) [Char.ofNat (digitsIn 16 digits).1]
            | 'N', '\x7b' :: 'U' :: '+' :: more =>
              let digits := more.takeWhile (· != '\x7d')
              plain (digits.length + 6) [Char.ofNat (digitsIn 16 digits).1]
            | 'c', d :: _ => plain 3 [Char.ofNat (d.toUpper.toNat ^^^ 64)]
            | c, more =>
              if (digitOf? 8 c).isSome then
                let digits := c :: (more.take 2).takeWhile fun c => (digitOf? 8 c).isSome
                plain (1 + digits.length) [Char.ofNat (digitsIn 8 digits).1]
              else plain 2 [c]
    | '$' :: rest =>
      let starts : Bool := match rest with
        | [] => false
        | c :: more =>
          if startsName c || c == '\x7b' || c.isDigit then true
          else if c == '$' then (more.head?.any fun d => startsName d || d == '\x7b' || d == '$') || !pattern
          else if c == ':' then (match more with
            | ':' :: d :: _ => startsName d
            | _ => false)
          else if c == '#' then (more.head?.any fun d => d == '\x7b' || d == '$' || startsName d)
          else if pattern then c == '&' || (c == '+' && more.head? == some '\x7b')
          else if c == '-' then more.head? == some '['
          else if c == '^' then more.head?.any Char.isUpper
          else "&\x60'+!@/\\,;.0?|<>()]".toList.contains c
      if starts then do
        drop 1
        let e ← readScalar fuel true
        return .value e :: (← readParts fuel pattern)
      else plain 1 ['$']
    | '@' :: c :: _ =>
      if startsName c || c == '\x7b' || c == '$' || (!pattern && (c == '-' || c == '+')) then do
        drop 1
        let e ← readArray fuel true
        return .joined e :: (← readParts fuel pattern)
      else plain 1 ['@']
    | c :: _ => plain 1 [c]

/-- the parts of a text -/
def partsOf : Nat → Bool → Octets → Reading (List Part)
  | 0, _, _ => unexpected
  | fuel + 1, pattern, o => do
    let before ← get
    set { before with rest := o }
    let parts ← allParts fuel pattern
    modify fun s => { s with rest := before.rest, line := before.line, skipped := before.skipped, previous := before.previous,
                             current := before.current }
    return parts

/-- the parts that are left, past the ends of casings -/
def allParts : Nat → Bool → Reading (List Part)
  | 0, _ => unexpected
  | fuel + 1, pattern => do
    let parts ← readParts fuel pattern
    if (← get).rest.isEmpty then return parts else return parts ++ (← allParts fuel pattern)

/-- takes the flags of a matcher -/
def takeFlags : Reading String := do
  let flags := (← get).rest.takeWhile Char.isAlpha
  drop flags.length
  return String.ofList flags

/-- takes a text between marks of its own, after the word that says its kind -/
def readQuoteLike : Nat → String → Reading Expr
  | 0, _ => unexpected
  | fuel + 1, word => do
    let s ← get
    if (s.rest.head?.any fun c => c == ' ' || c == '\n' || c == '\t') then blanks
    match word with
    | "q" => do
      let (c, o) ← takeQuoted ""
      return .literal (.text (plainText c o))
    | "qq" => do
      let (c, o) ← takeQuoted ""
      return .text (← partsOf fuel false (unescaped c o))
    | "qw" => do
      let (_, o) ← takeQuoted ""
      return .list ((words o).map fun w => .literal (.text w))
    | "qx" => do
      let (_, o) ← takeQuoted ""
      return .command (← partsOf fuel false o)
    | "m" => do
      let (c, o) ← takeQuoted "Search pattern not terminated"
      let flags ← takeFlags
      return .search none false (.find (← patternParts fuel c o) flags)
    | "qr" => do
      let (c, o) ← takeQuoted "Search pattern not terminated"
      let flags ← takeFlags
      return .search none false (.quote (← patternParts fuel c o) flags)
    | "s" => do
      let (c, o) ← takeQuoted "Substitution pattern not terminated"
      let (d, new) ← readSecond c "Substitution replacement not terminated"
      let flags ← takeFlags
      let pattern ← patternParts fuel c o
      let replacement ← if flags.contains 'e' then do
          let before ← get
          set { before with rest := freed d new }
          let body ← inBlock (readStmts fuel false)
          modify fun s => { s with rest := before.rest, line := before.line, skipped := before.skipped }
          let e : Expr := match body with
            | [.expr _ e] => e
            | body => .run false body
          pure (if 2 ≤ (flags.toList.filter (· == 'e')).length then .builtin "eval" [e] else e)
        else if d == '\'' then pure (.literal (.text new))
        else Expr.text <$> partsOf fuel false (unescaped d new)
      return .search none false (.exchange pattern replacement flags)
    | _ => do
      let (c, o) ← takeQuoted "Transliteration pattern not terminated"
      let (_, new) ← readSecond c "Transliteration replacement not terminated"
      let flags ← takeFlags
      return .search none false (.turn o new flags)
where
  /-- takes the second text after the mark of the first one -/
  readSecond (c : Char) (what : String) : Reading (Char × Octets) := do
    if partner c != c then do
      blanks
      takeQuoted what
    else do
      let o ← takeUpTo c c what
      return (c, o)
  /-- a text whose mark is not escaped any more -/
  unescaped (c : Char) : Octets → Octets
    | '\\' :: d :: o =>
      if d == c && c != '"' && !inName c && c != '\\' && c != '$' && c != '@' then d :: unescaped c o
      else '\\' :: d :: unescaped c o
    | d :: o => d :: unescaped c o
    | [] => []
  /-- a text whose mark, at either end, is not escaped any more -/
  freed (c : Char) : Octets → Octets
    | '\\' :: d :: o => if d == c || d == partner c then d :: freed c o else '\\' :: d :: freed c o
    | d :: o => d :: freed c o
    | [] => []
  /-- the words of a text -/
  words (o : Octets) : List Octets :=
    let isBlank (c : Char) : Bool := c == ' ' || c == '\n' || c == '\t' || c == '\r'
    (o.splitBy fun a b => isBlank a == isBlank b).filter fun w => !(w.head?.any isBlank)

/-- the parts of an expression that is matched; a plain mark keeps variables out of it -/
def patternParts : Nat → Char → Octets → Reading (List Part)
  | 0, _, _ => unexpected
  | fuel + 1, c, o => if c == '\'' then return [.plain o] else partsOf fuel true o

/-- takes a block -/
def readBlock : Nat → Reading (List Stmt)
  | 0 => unexpected
  | fuel + 1 => do
    expect "\x7b"
    let body ← inBlock (readStmts fuel true)
    closeBlock
    return body

/-- takes the mark that ends a block -/
def closeBlock : Reading Unit := do
  blanks
  let s ← get
  if s.rest.isEmpty then
    throw ⟨"Missing right curly or square bracket at " ++ s.file ++ " line " ++ toString s.line ++ ", at end of line\n"
      ++ "syntax error at " ++ s.file ++ " line " ++ toString s.line ++ ", at EOF\n", s.line, true⟩
  else expect "\x7d"

/-- takes the targets of a declaration -/
def readTargets : Nat → Reach → Reading Expr
  | 0, _ => unexpected
  | fuel + 1, reach => do
    let one : Reading Expr := do
      blanks
      let rest := (← get).rest
      match reach, rest with
      | .passing, _ => readStepped fuel
      | _, c :: name =>
        let n := nameAt name
        if (c == '$' || c == '@' || c == '%') && !n.isEmpty then do
          mark
          drop (1 + n.length)
          declareName (marked c n)
          return match c with
            | '$' => .scalar (String.ofList n)
            | '@' => .array (String.ofList n)
            | _ => .table (String.ofList n)
        else if (octets "undef").isPrefixOf rest then do
          drop 5
          return .builtin "undef" []
        else unexpected
      | _, [] => unexpected
    if (← sees "(") then do
      let _ ← accept "("
      let mut targets : List Expr := []
      for _ in [:fuel] do
        if ← accept ")" then return .declare reach targets true
        if !targets.isEmpty then
          expect ","
          if ← accept ")" then return .declare reach targets true
        targets := targets ++ [← one]
      unexpected
    else return .declare reach [← one] false

/-- takes the block and the list of a function that goes through a list -/
def readEach : Nat → String → Reading Expr
  | 0, _ => unexpected
  | fuel + 1, name => do
    let grouped ← accept "("
    blanks
    let isBlock : Bool := match (← get).rest with
      | '\x7b' :: o => !opensTable o
      | _ => false
    let body? : Option (List Stmt) ← if isBlock then some <$> readBlock fuel else pure none
    let finish (e : Expr) : Reading Expr := do
      if grouped then expect ")"
      return e
    let restList : Reading Expr := do
      if (← sees ")") || (← sees ";") then return .list [] else readComma fuel
    match body? with
    | some body => do finish (.each name body (← restList))
    | none => do
      let first ← readAssign fuel
      let at_ ← line
      expect ","
      finish (.each name [.expr at_ first] (← restList))

/-- takes the order and the list of a sort -/
def readSort : Nat → Reading Expr
  | 0 => unexpected
  | fuel + 1 => do
    let grouped ← accept "("
    let finish (e : Expr) : Reading Expr := do
      if grouped then expect ")"
      return e
    let restList : Reading Expr := do
      if (← sees ")") || (← sees ";") then return .list [] else readComma fuel
    blanks
    let s ← get
    match s.rest with
    | '\x7b' :: _ => do
      let body ← readBlock fuel
      let _ ← accept ","
      finish (.sort none body (← restList))
    | '$' :: rest =>
      let name := nameAt rest
      let after := (rest.drop name.length).dropWhile (· == ' ')
      if !name.isEmpty && (after.head?.any fun c => c == '@' || c == '(' || c.isDigit || startsName c)
          && !joiningWords.contains (String.ofList (nameAt after)) then do
        mark
        drop (1 + name.length)
        useName (marked '$' name)
        finish (.sort (some (.scalar (String.ofList name))) [] (← restList))
      else do finish (.sort none [] (← restList))
    | rest =>
      let name := nameAt rest
      let after := (rest.drop name.length).dropWhile (· == ' ')
      let word := String.ofList name
      let isOrder : Bool := !name.isEmpty && (after.head?.any fun c => c == '@' || c == '%' || c.isDigit || startsName c)
        && !unaryWords.contains word && !listWords.contains word && word != "map" && word != "grep" && word != "qw"
        && word != "sort" && word != "x" && word != "do"
      if isOrder then do
        mark
        drop name.length
        finish (.sort (some (.function word)) [] (← restList))
      else do finish (.sort none [] (← restList))

/-- takes where a print goes, if that is said -/
def readPrintTarget : Nat → Reading (Option Expr)
  | 0 => unexpected
  | fuel + 1 => do
    blanks
    let s ← get
    match s.rest with
    | '\x7b' :: _ => do
      let body ← readBlock fuel
      return some (match body with
        | [.expr _ e] => e
        | body => .run false body)
    | '$' :: rest =>
      let name := nameAt rest
      let after := rest.drop name.length
      let gap := after.takeWhile (· == ' ')
      let starts : Bool := match after.drop gap.length with
        | c :: d :: _ =>
          c == '"' || c == '\'' || c == '$' || c == '@' || (c == '<' && d == '<') || c.isDigit ||
            (startsName c && !joiningWords.contains (String.ofList (nameAt (after.drop gap.length))))
            || c == '\\'
        | [c] => c.isDigit
        | [] => false
      if !name.isEmpty && !gap.isEmpty && starts then do
        mark
        drop (1 + name.length)
        useName (marked '$' name)
        return some (.scalar (String.ofList name))
      else return none
    | rest =>
      let name := nameAt rest
      let word := String.ofList name
      let after := (rest.drop name.length).dropWhile (· == ' ')
      let standard : Bool := ["STDOUT", "STDERR", "STDIN"].contains word
      let ends : Bool := match after with
        | [] => true
        | c :: d :: _ => !(c == ',' || c == '(' || (c == '-' && d == '>') || (c == '=' && d == '>') || c == '.' || c == ';'
            || c == ')' || c == '\x7d' || c == '?' || c == '*' || c == '+' || c == ':')
            || (standard && (c == ';' || c == ')' || c == '\x7d'))
        | [c] => !(c == ',' || c == '(' || c == '.') && (standard || c != ';')
      let isHandle : Bool := !name.isEmpty && name.all (fun c => c.isUpper || c.isDigit || c == '_') && ends
        && !s.functions.contains word && (!after.isEmpty || standard)
        && !joiningWords.contains (String.ofList (nameAt after))
      if isHandle then do
        mark
        drop name.length
        return some (.handle word)
      else return none

/-- takes a document that begins on the next line -/
def readDocument : Nat → Reading Expr
  | 0 => unexpected
  | fuel + 1 => do
    drop 2
    let indented : Bool := (← get).rest.head? == some '~'
    if indented then drop 1
    match (← get).rest with
    | '"' :: _ => do
      let (_, word) ← takeQuoted ""
      return .text (← partsOf fuel false (← takeDocument word indented))
    | '\'' :: _ => do
      let (_, word) ← takeQuoted ""
      return .literal (.text (← takeDocument word indented))
    | rest => do
      let word := rest.takeWhile inName
      drop word.length
      return .text (← partsOf fuel false (← takeDocument word indented))

/-- takes a word with what it takes -/
def readWord : Nat → String → Reading Expr
  | 0, _ => unexpected
  | fuel + 1, word => do
    let quoteLike : Bool := ["q", "qq", "qw", "qx", "m", "qr", "s", "tr", "y"].contains word
    mark
    drop word.length
    let after := (← get).rest
    let past := after.dropWhile fun c => c == ' ' || c == '\t' || c == '\n'
    let isKey : Bool := ['=', '>'].isPrefixOf past
    if isKey then return .literal (.text word.toList)
    else if quoteLike && (match past with
        | c :: _ => !inName c && c != ',' && c != ';' && c != ')' && (c != '=' || after.head? == some '=')
            && (c != '#' || after.head? == some '#')
        | [] => true) then readQuoteLike fuel word
    else
      let single (name : String) : Reading Expr := do
        blanks
        let rest := (← get).rest
        match rest with
        | '(' :: _ => return .builtin name (← readArgs fuel)
        | rest =>
          if mayStart rest || (rest.head? == some '/' && name == "defined") then
            if (name == "shift" || name == "pop") && !(rest.head?.any fun c => c == '@' || c == '$') then
              return .builtin name []
            else return .builtin name [← readLevel fuel (operatorLevels.drop 6)]
          else return .builtin name []
      match word with
      | "my" | "state" => readTargets fuel (if word == "my" then .block else .lasting)
      | "our" => readTargets fuel .everywhere
      | "local" => readTargets fuel .passing
      | "print" | "printf" => readPrint fuel word
      | "say" =>
        if (← get).speaks then readPrint fuel "say"
        else do
          let s ← get
          match past with
          | c :: _ =>
            if c == '"' || c == '\'' || c == '$' then
              let size := tokenSize past
              let shown := String.ofList (word.toList ++ after.take (after.length - past.length + size))
              let kind := if c == '$' then "Scalar" else "String"
              let place := " at " ++ s.file ++ " line " ++ toString s.line ++ ", near \"" ++ shown ++ "\"\n"
              throw ⟨s!"{kind} found where operator expected (Do you need to predeclare \"say\"?)" ++ place
                ++ "syntax error" ++ place, s.line, true⟩
            else return .call word (← readLooseArgs fuel) false
          | [] => return .literal (.text word.toList)
      | "return" => do
        blanks
        let rest := (← get).rest
        let starts : Bool := mayStart rest || (match rest with
          | '/' :: _ => true
          | '<' :: _ => true
          | '-' :: _ => true
          | _ => false)
        if starts then return .builtin "return" [← readComma fuel] else return .builtin "return" []
      | "map" | "grep" => readEach fuel word
      | "sort" => readSort fuel
      | "sub" => do
        let head ← readSignature fuel
        let body ← readBlock fuel
        return .functionOf (head ++ body)
      | "do" =>
        if ← sees "\x7b" then return .run false (← readBlock fuel)
        else return .builtin "do" [← readUnary fuel]
      | "eval" =>
        if ← sees "\x7b" then return .run true (← readBlock fuel)
        else single "eval"
      | "last" | "next" | "redo" => do
        let label ← peekWord
        if !label.isEmpty && !joiningWords.contains label then do
          let _ ← acceptWord label
          return .builtin word [.literal (.text label.toList)]
        else return .builtin word []
      | "not" => return .unary "!" (← readComma fuel)
      | "__FILE__" => return .literal (.text (← get).file.toList)
      | "__LINE__" => return .literal (.int (← line))
      | "__PACKAGE__" => return .literal (.text (← get).package.toList)
      | "STDIN" | "STDOUT" | "STDERR" | "ARGV" | "DATA" => return .handle word
      | word =>
        if (← get).functions.contains word then do
          -- a function without parameters takes nothing, and one may take a block
          if (← get).functions.contains ("()" ++ word) then
            if ← accept "(" then expect ")"
            return .call word [] false
          else if (← get).functions.contains ("&" ++ word) && past.head? == some '\x7b' then do
            let body ← readBlock fuel
            let _ ← accept ","
            let args ← readLooseList fuel
            return .call word (.functionOf body :: args) false
          else if (after.head? == some '(') || past.head? == some '(' then return .call word (← readArgs fuel) false
          else if ['-', '>'].isPrefixOf past then return .literal (.text word.toList)
          else return .call word (← readLooseArgs fuel) false
        else if unaryWords.contains word then single word
        else if listWords.contains word then do
          return .builtin word (← readLooseArgs fuel)
        else if plainWords.contains word then do
          if ← accept "(" then expect ")"
          return .builtin word []
        else if past.head? == some '(' then return .call word (← readArgs fuel) false
        else if ['-', '>'].isPrefixOf past then return .literal (.text word.toList)
        else if (':' :: ':' :: []).isPrefixOf past then do
          drop 2
          return .literal (.text word.toList)
        else do
          -- a method that stands in front of its class
          let class_ := nameAt past
          let isObject : Bool := match past with
            | '$' :: _ => word == "new"
            | c :: _ => startsName c && !joiningWords.contains (String.ofList class_) && word.front?.any Char.isLower
                && !unaryWords.contains (String.ofList class_) && !listWords.contains (String.ofList class_)
            | [] => false
          if isObject && !class_.isEmpty then do
            blanks
            drop class_.length
            let args ← if ← sees "(" then readArgs fuel else pure []
            return .method (.literal (.text class_)) word none args
          else return .call word [] true

/-- takes what is printed -/
def readPrint : Nat → String → Reading Expr
  | 0, _ => unexpected
  | fuel + 1, word => do
    blanks
    if (← get).rest.head? == some '(' then
      let _ ← accept "("
      let target ← readPrintTarget fuel
      if ← accept ")" then return .print word target []
      let e ← readExpr fuel
      expect ")"
      return .print word target (match e with
        | .list members => members
        | e => [e])
    else
      let target ← readPrintTarget fuel
      return .print word target (← readLooseArgs fuel)

/-- takes a value, up to what follows it -/
def readTerm : Nat → Reading Expr
  | 0 => unexpected
  | fuel + 1 => do
    blanks
    let rest := (← get).rest
    match rest with
    | [] => unexpected
    | '$' :: _ => do
      mark
      drop 1
      readScalar fuel false
    | '@' :: _ => do
      mark
      drop 1
      readArray fuel false
    | '%' :: _ => do
      mark
      drop 1
      readTable fuel
    | '&' :: _ => do
      mark
      drop 1
      readFunction fuel
    | '*' :: c :: _ =>
      if startsName c then do
        mark
        drop 1
        let name := nameAt (rest.drop 1)
        drop name.length
        return .handle (String.ofList name)
      else if c == '\x7b' then do
        mark
        drop 2
        let e ← readExpr fuel
        expect "\x7d"
        return .builtin "*" [e]
      else unexpected
    | '"' :: _ => do
      mark
      let (_, o) ← takeQuoted ""
      return asLiteral (← partsOf fuel false o)
    | '\'' :: _ => do
      mark
      let (c, o) ← takeQuoted ""
      return .literal (.text (plainText c o))
    | '\x60' :: _ => do
      mark
      let (_, o) ← takeQuoted ""
      return .command (← partsOf fuel false o)
    | '/' :: _ => do
      mark
      let (c, o) ← takeQuoted "Search pattern not terminated"
      let flags ← takeFlags
      return .search none false (.find (← patternParts fuel c o) flags)
    | '<' :: '<' :: c :: _ =>
      if c == '"' || c == '\'' || c == '~' || startsName c then do
        mark
        readDocument fuel
      else readAngle fuel
    | '<' :: _ => readAngle fuel
    | '(' :: _ => do
      mark
      drop 1
      if ← accept ")" then readPick fuel (.list [])
      else do
        let e ← readExpr fuel
        expect ")"
        readPick fuel (match e with
          | .list members => .list members
          | e => .list [e])
    | '[' :: _ => do
      mark
      drop 1
      let members ← readUpTo fuel "]"
      return .arrayOf members
    | '\x7b' :: _ => do
      mark
      drop 1
      let members ← readUpTo fuel "\x7d"
      return .tableOf members
    | '.' :: c :: _ => if c.isDigit then return .literal (← takeNumber) else unexpected
    | c :: _ =>
      if c.isDigit then return .literal (← takeNumber)
      else if startsName c then do
        let word := String.ofList (nameAt rest)
        let e ← readWord fuel word
        if word == "qw" then readPick fuel e else return e
      else unexpected
where
  /-- a text that holds nothing to be filled in stands for itself -/
  asLiteral (parts : List Part) : Expr :=
    match parts with
    | [] => .literal (.text [])
    | [.plain o] => .literal (.text o)
    | parts => .text parts

/-- takes values up to a mark -/
def readUpTo : Nat → String → Reading (List Expr)
  | 0, _ => unexpected
  | fuel + 1, close => do
    if ← accept close then return []
    else do
      let e ← readExpr fuel
      expect close
      return match e with
        | .list members => members
        | e => [e]

/-- takes the indices of a list in parentheses, if there are some -/
def readPick : Nat → Expr → Reading Expr
  | 0, _ => unexpected
  | fuel + 1, e => do
    if ← sees "[" then do
      let _ ← accept "["
      let i ← readExpr fuel
      expect "]"
      readPick fuel (.pick e i)
    else return e

/-- takes a table after its mark -/
def readTable : Nat → Reading Expr
  | 0 => unexpected
  | fuel + 1 => do
    let name ← readVariableName fuel false
    let note (mark : String) : Reading Unit := do
      match name with
      | .ok n => useName (mark ++ n)
      | .error _ => pure ()
    match (← get).rest with
    | '\x7b' :: _ => do
      note "%"
      drop 1
      let k ← readKey fuel
      return .pairs (match name with
        | .ok n => .table n
        | .error e => .tableAt e) k
    | '[' :: _ => do
      note "@"
      drop 1
      let i ← readExpr fuel
      expect "]"
      return .pairs (match name with
        | .ok n => .array n
        | .error e => .arrayAt e) i
    | _ => do
      note "%"
      return match name with
        | .ok n => .table n
        | .error e => .tableAt e

/-- takes a function after its mark -/
def readFunction : Nat → Reading Expr
  | 0 => unexpected
  | fuel + 1 => do
    let name ← readVariableName fuel false
    blanks
    let called : Bool := (← get).rest.head? == some '('
    match name with
    | .ok n => if called then return .call n (← readArgs fuel) false else return .function n
    | .error e => if called then return .callAt e (← readArgs fuel) false else return .callAt e [] true

/-- takes what is read from a file, or the names of files -/
def readAngle : Nat → Reading Expr
  | 0 => unexpected
  | fuel + 1 => do
    let rest := (← get).rest
    if (octets "<<>>").isPrefixOf rest then do
      drop 4
      return .readFrom (.handle "")
    else do
      let inner := (rest.drop 1).takeWhile fun c => c != '>' && c != '\n'
      if (rest.drop (inner.length + 1)).head? != some '>' then unexpected
      mark
      match inner with
      | [] => do
        drop 2
        return .readFrom (.handle "")
      | '$' :: name =>
        if name.all inName then do
          drop (inner.length + 2)
          useName (marked '$' name)
          return .readFrom (.scalar (String.ofList name))
        else do
          drop (inner.length + 2)
          return .files (← partsOf fuel false inner)
      | inner => do
        drop (inner.length + 2)
        if inner.all fun c => inName c || c == ':' then return .readFrom (.handle (String.ofList inner))
        else return .files (← partsOf fuel false inner)

/-- takes the statements of a block, or of the whole text -/
def readStmts : Nat → Bool → Reading (List Stmt)
  | 0, _ => unexpected
  | fuel + 1, inner => do
    blanks
    let s ← get
    match s.rest with
    | [] => return []
    | ';' :: _ => do
      mark
      drop 1
      readStmts fuel inner
    | '\x7d' :: _ =>
      if inner then return []
      else
        let place := " at " ++ s.file ++ " line " ++ toString s.line ++ ", "
        throw ⟨"Unmatched right curly bracket" ++ place ++ "at end of line\nsyntax error" ++ place ++ "near \"\x7d\"\n", s.line,
          true⟩
    | _ => do
      let stmts ← readStmt fuel
      return stmts ++ (← readStmts fuel inner)

/-- takes a statement; one that only tells how to read gives none -/
def readStmt : Nat → Reading (List Stmt)
  | 0 => unexpected
  | fuel + 1 => do
    let line ← line
    let rest := (← get).rest
    let word := String.ofList (nameAt rest)
    let after := rest.drop word.length
    let past := after.dropWhile fun c => c == ' ' || c == '\t' || c == '\n'
    let asExpr : Reading (List Stmt) := readPlain fuel
    if rest.head? == some '\x7b' then
      if opensTable (rest.drop 1) then asExpr
      else do
        let body ← readBlock fuel
        let after ← readContinue fuel
        return [.block "" (body ++ after)]
    else if ['=', '>'].isPrefixOf past then asExpr
    else
      let isLabel : Bool := !word.isEmpty && past.head? == some ':' && !([':', ':'].isPrefixOf past) &&
        word.all (fun c => c.isUpper || c.isDigit || c == '_')
      if isLabel then do
        drop word.length
        expect ":"
        blanks
        readLoop fuel word
      else match word with
        | "while" | "until" | "for" | "foreach" => readLoop fuel ""
        | "if" | "unless" => do
          drop word.length
          mark
          let (e, body) ← inBlock (readTested fuel)
          let test : Expr := if word == "unless" then .unary "!" e else e
          let (cases, otherwise) ← readElse fuel
          return [.branch line ((test, body) :: cases) otherwise]
        | "sub" =>
          if (past.head?.any startsName) then do
            mark
            drop 3
            let name ← peekWord
            drop name.length
            blanks
            let form := (← get).rest
            let marks := (if form.head? == some '(' && (form.drop 1).head? == some '&' then ["&" ++ name] else [])
              ++ (if (octets "()").isPrefixOf form then ["()" ++ name] else [])
            -- a function of the language is still meant by its own name
            let isOwn : Bool := !(unaryWords ++ listWords ++ plainWords).contains name
            if isOwn then modify fun s => { s with functions := name :: marks ++ s.functions }
            let (head, body) ← inBlock (do
              let head ← readSignature fuel
              let body ← readBlock fuel
              return (head, body))
            return [.function (← qualified name) (head ++ body)]
          else asExpr
        | "BEGIN" | "END" | "INIT" | "CHECK" | "UNITCHECK" =>
          if past.head? == some '\x7b' then do
            drop word.length
            let body ← readBlock fuel
            return [.function (if word == "END" then "END" else "BEGIN") body]
          else asExpr
        | "package" => do
          drop 7
          let name ← peekWord
          drop name.length
          let before := (← get).package
          modify fun s => { s with package := name }
          if ← sees "\x7b" then do
            let body ← readBlock fuel
            modify fun s => { s with package := before }
            return [.package name, .block "" body, .package before]
          else return [.package name]
        | "use" | "no" => do
          drop word.length
          readUse fuel (word == "use")
        | "__END__" | "__DATA__" => do
          let data := (after.dropWhile (· != '\n')).drop 1
          modify fun s => { s with rest := [], data := some data }
          return []
        | _ => asExpr

/-- the name of a function with its package -/
def qualified (name : String) : Reading String := do
  if name.contains ':' then return name else return (← get).package ++ "::" ++ name

/-- takes a test in parentheses and the block that hangs on it -/
def readTested : Nat → Reading (Expr × List Stmt)
  | 0 => unexpected
  | fuel + 1 => do
    expect "("
    let e ← readExpr fuel
    expect ")"
    return (e, ← readBlock fuel)

/-- takes the further branches of a statement -/
def readElse : Nat → Reading (List (Expr × List Stmt) × List Stmt)
  | 0 => unexpected
  | fuel + 1 => do
    if ← acceptWord "elsif" then do
      let first ← inBlock (readTested fuel)
      let (cases, otherwise) ← readElse fuel
      return (first :: cases, otherwise)
    else if ← acceptWord "else" then return ([], ← readBlock fuel)
    else return ([], [])

/-- takes the block that follows the rounds of a loop -/
def readContinue : Nat → Reading (List Stmt)
  | 0 => unexpected
  | fuel + 1 => do if ← acceptWord "continue" then readBlock fuel else return []

/-- takes a loop, after its label -/
def readLoop : Nat → String → Reading (List Stmt)
  | 0, _ => unexpected
  | fuel + 1, label => do
    let line ← line
    match ← peekWord with
    | "while" | "until" => do
      let word ← peekWord
      let _ ← acceptWord word
      inBlock (do
        expect "("
        let test ← if ← sees ")" then pure none else some <$> readExpr fuel
        expect ")"
        let body ← readBlock fuel
        let after ← readContinue fuel
        let test := test.map asLineTest
        return [.loop line label (if word == "until" then test.map (.unary "!") else test) none body after])
    | "for" | "foreach" => do
      let _ ← acceptWord (← peekWord)
      inBlock (readFor fuel label)
    | "" =>
      if ← sees "\x7b" then do
        let body ← readBlock fuel
        return [.block label (body ++ (← readContinue fuel))]
      else unexpected
    | _ => readStmt fuel

/-- takes a loop over a list, or one that steps -/
def readFor : Nat → String → Reading (List Stmt)
  | 0, _ => unexpected
  | fuel + 1, label => do
    let line ← line
    let overList (name : Option Expr) : Reading (List Stmt) := do
      expect "("
      let list ← if ← sees ")" then pure (.list []) else readExpr fuel
      expect ")"
      let body ← readBlock fuel
      let after ← readContinue fuel
      return [.each line label name list (if after.isEmpty then body else [.block "" body] ++ after)]
    if (← acceptWord "my") || (← acceptWord "our") || (← acceptWord "state") then do
      blanks
      expect "$"
      let name ← peekWord
      drop name.length
      declareName ("$" ++ name)
      overList (some (.declare .block [.scalar name] false))
    else if ← sees "$" then do
      let _ ← accept "$"
      let name ← peekWord
      drop name.length
      useName ("$" ++ name)
      overList (some (.scalar name))
    else do
      expect "("
      let first ← if (← sees ";") || (← sees ")") then pure none else some <$> readExpr fuel
      if ← accept ";" then do
        let test ← if ← sees ";" then pure none else some <$> readExpr fuel
        expect ";"
        let step ← if ← sees ")" then pure none else some <$> readExpr fuel
        expect ")"
        let body ← readBlock fuel
        let start : List Stmt := match first with
          | some e => [.expr line e]
          | none => []
        return [.branch line [(.literal (.int 1), start ++ [.loop line label (test.map asLineTest) step body []])] []]
      else do
        expect ")"
        let body ← readBlock fuel
        let after ← readContinue fuel
        return [.each line label none (first.getD (.list [])) (if after.isEmpty then body else [.block "" body] ++ after)]

/-- takes an expression that stands for a statement, with what it hangs on -/
def readPlain : Nat → Reading (List Stmt)
  | 0 => unexpected
  | fuel + 1 => do
    let line ← line
    let e ← readExpr fuel
    let word ← peekWord
    let stmt : Stmt ← match word with
      | "if" => do
        let _ ← acceptWord word
        pure (.expr line (.both (← readExpr fuel) e))
      | "unless" => do
        let _ ← acceptWord word
        pure (.expr line (.either (← readExpr fuel) e))
      | "while" | "until" => do
        let _ ← acceptWord word
        let test := asLineTest (← readExpr fuel)
        let test : Expr := if word == "until" then .unary "!" test else test
        pure (match e with
          | .run false body => .trailing line body test
          | e => .loop line "" (some test) none [.expr line e] [])
      | "for" | "foreach" => do
        let _ ← acceptWord word
        pure (.each line "" none (← readExpr fuel) [.expr line e])
      | _ => pure (.expr line e)
    blanks
    match (← get).rest with
    | [] => return [stmt]
    | ';' :: _ => do
      mark
      drop 1
      return [stmt]
    | '\x7d' :: _ => return [stmt]
    | _ => misplaced

/-- gives up at a value where an operator was awaited -/
def misplaced {α : Type} : Reading α := do
  let s ← get
  let kind? : Option String := match s.rest with
    | c :: d :: _ =>
      if c.isDigit then some "Number"
      else if c == '"' || c == '\'' then some "String"
      else if c == '$' && (startsName d) then some "Scalar"
      else if c == '@' && startsName d then some "Array"
      else if startsName c then some "Bareword"
      else none
    | [c] => if c.isDigit then some "Number" else if startsName c then some "Bareword" else none
    | [] => none
  match kind? with
  | none => unexpected
  | some kind =>
    let size := tokenSize s.rest
    let before := if s.current.length == s.rest.length then s.previous else s.current
    let near := String.ofList
      (if before.length < s.rest.length then s.rest.take size else before.take (before.length - s.rest.length + size))
    let place := " at " ++ s.file ++ " line " ++ toString s.line ++ ", near \"" ++ near ++ "\"\n"
    let token := String.ofList (s.rest.take size)
    let earlier := String.ofList (nameAt before)
    let isQuote : Bool := ["q", "qq", "qw", "m", "qr", "s", "tr", "y"].contains earlier
    let advice := if earlier.isEmpty || s.functions.contains earlier || unaryWords.contains earlier || isQuote
      then s!" (Missing operator before \"{token}\"?)" else s!" (Do you need to predeclare \"{earlier}\"?)"
    let blank := if kind == "Bareword" then ((s.rest.drop size).takeWhile (· == ' ')).length else 0
    let later := " at " ++ s.file ++ " line " ++ toString s.line ++ ", near \"" ++ near
      ++ String.ofList (List.replicate blank ' ') ++ "\"\n"
    throw ⟨kind ++ " found where operator expected" ++ advice ++ place ++ "syntax error" ++ later, s.line, true⟩

/-- takes what stands for the parameters of a function: marks that say how it is called, or names -/
def readSignature : Nat → Reading (List Stmt)
  | 0 => unexpected
  | fuel + 1 => do
    if !(← sees "(") then return []
    let rest := (← get).rest
    let inner := (rest.drop 1).takeWhile (· != ')')
    if inner.all fun c => "$@%&*;\\[]+_ ".toList.contains c then do
      drop (inner.length + 2)
      return []
    else do
      let line ← line
      let _ ← accept "("
      let mut targets : List Expr := []
      let mut defaults : List Stmt := []
      for _ in [:fuel] do
        if ← accept ")" then break
        if !targets.isEmpty then
          expect ","
          if ← accept ")" then break
        blanks
        match (← get).rest with
        | c :: name =>
          let n := nameAt name
          drop (1 + n.length)
          declareName (marked c n)
          let target : Expr := match c with
            | '$' => .scalar (String.ofList n)
            | '@' => .array (String.ofList n)
            | _ => .table (String.ofList n)
          let place := targets.length
          targets := targets ++ [if n.isEmpty then .builtin "undef" [] else target]
          if (← accept "//=") || (← accept "||=") || (← accept "=") then
            let value ← readAssign fuel
            let missing : Expr := .binary "<=" (.array "_") (.literal (.int place))
            defaults := defaults ++ [.expr line (.both missing (.assign "" target value))]
        | [] => unexpected
      return .expr line (.assign "" (.declare .block targets true) (.array "_")) :: defaults

/-- takes what a program is read with, or what it brings in -/
def readUse : Nat → Bool → Reading (List Stmt)
  | 0, _ => unexpected
  | fuel + 1, on => do
    let line ← line
    blanks
    let rest := (← get).rest
    let version := rest.takeWhile fun c => c.isDigit || c == '.' || c == '_' || c == 'v'
    if (version.any Char.isDigit) && ((version.filter (· == 'v')).isEmpty || version.head? == some 'v') then do
      drop version.length
      let minor := versionMinor version
      modify fun s => { s with speaks := s.speaks || 10 ≤ minor, strict := s.strict || 12 ≤ minor }
      return []
    else do
      let name ← peekWord
      if name.isEmpty then unexpected
      mark
      drop name.length
      blanks
      let number := (← get).rest.takeWhile fun c => c.isDigit || c == '.' || c == '_'
      if !number.isEmpty then drop number.length
      match name with
      | "constant" => readConstants fuel
      | _ => do
        let names ← if (← sees ";") || (← sees "\x7d") then pure none else some <$> readExpr fuel
        let listed := (names.map literals).getD []
        match name with
        | "strict" =>
          if names.isNone || listed.contains "vars" then modify fun s => { s with strict := on }
          return [.bring line (if on then "strict" else "") listed]
        | "feature" => do
          if listed.any fun n => n == "say" || n.startsWith ":" then modify fun s => { s with speaks := on }
          return []
        | "vars" => do
          listed.forM declareName
          return []
        | "utf8" => do
          if on then modify fun s => { s with rest := charactersOf s.rest }
          return []
        | _ =>
          if on then do
            let brought : List String := listed.flatMap fun n =>
              let n := if n.startsWith "&" then String.ofList (n.toList.drop 1) else n
              [n]
            let blocks := brought.filterMap fun n => if blockFunctions.contains n then some ("&" ++ n) else none
            let plain := broughtAlways name
            let constants := (brought ++ plain).filterMap fun n =>
              if n.length = (n.toList.filter fun c => c.isUpper || c == '_').length then some ("()" ++ n) else none
            modify fun s => { s with functions := brought ++ plain ++ blocks ++ constants ++ s.functions }
            return [.bring line name (match names with
              | none => ["*"]
              | some _ => listed)]
          else return []
where
  /-- the functions of modules that take a block -/
  blockFunctions : List String :=
    ["first", "any", "all", "none", "notall", "reduce", "pairmap", "pairgrep", "max_by", "min_by", "sort_by", "first_index"]
  /-- the minor number of a version -/
  versionMinor (o : Octets) : Nat :=
    match cutAt '.' (o.filter fun c => c != 'v' && c != '_') with
    | _ :: minor :: more =>
      if o.head? == some 'v' || !more.isEmpty then (digitsIn 10 minor).1
      else (digitsIn 10 ((minor ++ ['0', '0', '0']).take 3)).1
    | _ => 0
  /-- the texts that a list is made of -/
  literals : Expr → List String
    | .literal (.text o) => [String.ofList o]
    | .literal (.int n) => [toString n]
    | .text [.plain o] => [String.ofList o]
    | .list members => members.attach.flatMap fun ⟨e, _⟩ => literals e
    | _ => []
  /-- the functions that a module brings without being asked -/
  broughtAlways (name : String) : List String :=
    match name with
    | "POSIX" => ["floor", "ceil", "fmod", "strftime", "strtol", "isatty", "INT_MAX", "INT_MIN", "DBL_MAX", "DBL_MIN", "UINT_MAX",
        "LONG_MAX", "LONG_MIN", "EXIT_SUCCESS", "EXIT_FAILURE", "FLT_MAX", "tolower", "toupper"]
    | "Data::Dumper" => ["Dumper"]
    | "File::Basename" => ["basename", "dirname", "fileparse"]
    | "Carp" => ["croak", "carp", "confess"]
    | "Cwd" => ["cwd", "getcwd"]
    | "JSON::PP" => ["encode_json", "decode_json"]
    | "Encode" => ["encode", "decode", "encode_utf8", "decode_utf8"]
    | "MIME::Base64" => ["encode_base64", "decode_base64"]
    | "Getopt::Long" => ["GetOptions"]
    | "Text::Wrap" => ["wrap"]
    | "Text::ParseWords" => ["shellwords", "quotewords"]
    | "Time::Local" => ["timelocal", "timegm"]
    | _ => []

/-- takes names that always have the same values -/
def readConstants : Nat → Reading (List Stmt)
  | 0 => unexpected
  | fuel + 1 => do
    let line ← line
    if (← sees ";") then return []
    let e ← if ← accept "\x7b" then Expr.tableOf <$> readUpTo fuel "\x7d" else readComma fuel
    let rec keys : List Expr → List String
      | .literal (.text o) :: _ :: more => String.ofList o :: keys more
      | _ :: _ :: more => keys more
      | _ => []
    let names : List String := match e with
      | .tableOf members => keys members
      | .list (.literal (.text o) :: _) => [String.ofList o]
      | .literal (.text o) => [String.ofList o]
      | _ => []
    let package := (← get).package
    modify fun s => { s with functions := names ++ names.map (fun n => "()" ++ n) ++ s.functions }
    return [.expr line (.builtin "constant" [.literal (.text package.toList), e])]

end

/-- reads a program; what was said about names is given with it -/
def readProgram (file : String) (text : Octets) (speaks : Bool) : Except Fault (List Stmt × Source) := do
  let s : Source := ⟨file, text, 1, 0, [], [], [], [[]], false, speaks, "main", [], none⟩
  (readStmts (64 * (text.length + 64)) false).run s

end ScriptBridge.Shell.SigilScript
