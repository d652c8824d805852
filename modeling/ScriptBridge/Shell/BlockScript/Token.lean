/-
Cutting a program into tokens. Between brackets lines count for nothing; elsewhere a line ends a statement, and a line
that is indented more or less than the one before opens or closes blocks. A formatted text is cut into what stands for
itself and the sources of its expressions, which are read later.
-/
import ScriptBridge.Shell.BlockScript.Program
import ScriptBridge.Shell.Numeral

namespace ScriptBridge.Shell.BlockScript

/-- a piece of a formatted text, with the source of its expression and where that begins; `shown` says that the source
is shown too -/
inductive RawPiece where
  | plain (o : Characters)
  | field (source : Characters) (line column : Nat) (shown : Bool) (conversion : Option Char) (spec : List RawPiece)
deriving Inhabited

/-- what a token is -/
inductive Tok where
  | name (n : String)
  | number (value : Literal)
  | text (value : Literal)
  | formatted (pieces : List RawPiece)
  | op (o : String)
  | newline
  | indent
  | dedent
  | ended
deriving Inhabited

/-- a token with its place -/
structure Token where
  tok : Tok
  span : Span
deriving Inhabited

/-- what is wrong with the form of a program: the kind of failure, a message, a line, the columns to blame, and the line
that was reached when it was found, which is zero where all had been read. A fault in line zero
lies at the end. -/
structure Fault where
  kind : String
  message : String
  line : Nat
  start : Nat
  stop : Nat
  reached : Nat
deriving Inhabited

/-- what is left of a program: its characters, the place there, the brackets that are open with their places, the
indentations of the blocks around, and the escapes without a meaning that were met, with their lines -/
structure Scan where
  rest : Characters
  line : Nat
  column : Nat
  opened : List (Char × Nat × Nat)
  indents : List Nat
  odd : List (Nat × Char)

/-- a scanner -/
abbrev Scanning (α : Type) := StateT Scan (Except Fault) α

namespace Scanning

/-- gives up at a place -/
def failAt {α : Type} (message : String) (line start stop : Nat) : Scanning α :=
  throw ⟨"SyntaxError", message, line, start, stop, line⟩

/-- takes one character -/
def take : Scanning (Option Char) := do
  let s ← get
  match s.rest with
  | [] => return none
  | '\n' :: rest => do
    set { s with rest, line := s.line + 1, column := 0 }
    return some '\n'
  | c :: rest => do
    set { s with rest, column := s.column + 1 }
    return some c

/-- takes so many characters -/
def drop : Nat → Scanning Unit
  | 0 => pure ()
  | n + 1 => do
    let _ ← take
    drop n

/-- whether a text comes next -/
def sees (text : String) : Scanning Bool := do return text.toList.isPrefixOf (← get).rest

/-- takes characters while they pass a test -/
def takeWhile (p : Char → Bool) : Scanning Characters := do
  let found := (← get).rest.takeWhile p
  drop found.length
  return found

end Scanning

open Scanning

/-! ## Texts -/

/-- the character of a code; what is no character stands for itself in a private place -/
def charOf (n : Nat) : Char := if 0xD800 ≤ n && n < 0xE000 then Char.ofNat (0x10F800 + (n - 0xD800)) else Char.ofNat n

/-- takes an escape in a text, after its backslash -/
def takeEscape (bytes : Bool) : Scanning Characters := do
  let line := (← get).line
  let start := (← get).column
  match ← take with
  | none => return ['\\']
  | some '\n' => return []
  | some c =>
    let coded (digits : Nat) (message : String) : Scanning Characters := do
      let found := ((← get).rest.take digits).takeWhile fun d => (digitOf? 16 d).isSome
      if found.length = digits then do
        drop digits
        return [charOf (digitsIn 16 found).1]
      else failAt message line start (start + 1)
    match c with
    | '\\' => return ['\\']
    | '\'' => return ['\'']
    | '"' => return ['"']
    | 'a' => return [Char.ofNat 7]
    | 'b' => return [Char.ofNat 8]
    | 'f' => return [Char.ofNat 12]
    | 'n' => return ['\n']
    | 'r' => return ['\r']
    | 't' => return ['\t']
    | 'v' => return [Char.ofNat 11]
    | 'x' => coded 2 (if bytes then "(value error) invalid \\x escape at position 0"
        else "(unicode error) 'unicodeescape' codec can't decode bytes in position 0-1: truncated \\xXX escape")
    | c =>
      if (digitOf? 8 c).isSome then do
        let more := ((← get).rest.take 2).takeWhile fun d => (digitOf? 8 d).isSome
        drop more.length
        return [Char.ofNat ((digitsIn 8 (c :: more)).1 % (if bytes then 256 else 512))]
      else if !bytes && c == 'u' then
        coded 4 "(unicode error) 'unicodeescape' codec can't decode bytes in position 0-1: truncated \\uXXXX escape"
      else if !bytes && c == 'U' then
        coded 8 "(unicode error) 'unicodeescape' codec can't decode bytes in position 0-1: truncated \\UXXXXXXXX escape"
      else do
        modify fun s => { s with odd := s.odd ++ [(line, c)] }
        return ['\\', c]

/-- takes a text up to its closing quotes -/
def takeText (raw bytes : Bool) (quotes : String) (line start : Nat) : Nat → Scanning Characters
  | 0 => return []
  | fuel + 1 => do
    let long : Bool := quotes.length = 3
    if ← sees quotes then do
      drop quotes.length
      return []
    else match (← get).rest with
      | [] =>
        let s ← get
        let last := if s.column = 0 then s.line - 1 else s.line
        if long then
          failAt s!"unterminated triple-quoted string literal (detected at line {last})" line start (start + 1)
        else failAt s!"unterminated string literal (detected at line {line})" line start (start + 1)
      | '\n' :: _ =>
        if long then do
          drop 1
          return '\n' :: (← takeText raw bytes quotes line start fuel)
        else failAt s!"unterminated string literal (detected at line {line})" line start (start + 1)
      | '\\' :: _ => do
        drop 1
        if raw then
          match ← take with
          | some c => return '\\' :: c :: (← takeText raw bytes quotes line start fuel)
          | none => return ['\\']
        else do
          let o ← takeEscape bytes
          return o ++ (← takeText raw bytes quotes line start fuel)
      | c :: _ => do
        drop 1
        return c :: (← takeText raw bytes quotes line start fuel)

/-- takes the source of an expression in a formatted text, up to what ends it; `opened` are the brackets around -/
def takeSource : Nat → List Char → Scanning Characters
  | 0, _ => return []
  | fuel + 1, opened => do
    let s ← get
    match s.rest with
    | [] => return []
    | c :: rest =>
      let ends : Bool := opened.isEmpty && match c with
        | '\x7d' => true
        | ':' => true
        | '!' => rest.head? != some '='
        | '=' =>
          let next := (rest.dropWhile fun c => c == ' ').head?
          rest.head? != some '=' && (next == some '\x7d' || next == some '!' || next == some ':')
        | _ => false
      if ends then return []
      else if c == '\'' || c == '"' then do
        let quotes := if [c, c, c].isPrefixOf s.rest then String.ofList [c, c, c] else String.ofList [c]
        drop quotes.length
        let _ ← takeText true false quotes s.line s.column fuel
        let after := (← get).rest
        let taken := s.rest.take (s.rest.length - after.length)
        return taken ++ (← takeSource fuel opened)
      else do
        drop 1
        let two : Bool := (c == '=' || c == '!' || c == '<' || c == '>') && rest.head? == some '='
        if two then do
          drop 1
          return c :: '=' :: (← takeSource fuel opened)
        else
          let opened := match c with
            | '(' | '[' | '\x7b' => c :: opened
            | ')' | ']' | '\x7d' => opened.drop 1
            | _ => opened
          return c :: (← takeSource fuel opened)

/-- a piece in front of others; plain ones are joined -/
def consPiece (o : Characters) : List RawPiece → List RawPiece
  | .plain more :: rest => .plain (o ++ more) :: rest
  | pieces => if o.isEmpty then pieces else .plain o :: pieces

/-- takes the pieces of a formatted text up to its closing quotes, or of the form of a field up to its brace -/
def takePieces (raw : Bool) (quotes : String) (line start : Nat) : Nat → Bool → Scanning (List RawPiece)
  | 0, _ => return []
  | fuel + 1, inSpec => do
    let onward (o : Characters) : Scanning (List RawPiece) := do
      return consPiece o (← takePieces raw quotes line start fuel inSpec)
    if ← sees quotes then
      if inSpec then return []
      else do
        drop quotes.length
        return []
    else match (← get).rest with
      | [] => failAt s!"unterminated f-string literal (detected at line {line})" line start (start + 1)
      | '\n' :: _ =>
        if quotes.length = 3 then do
          drop 1
          onward ['\n']
        else failAt s!"unterminated f-string literal (detected at line {line})" line start (start + 1)
      | '\\' :: next =>
        if raw then do
          drop 1
          onward ['\\']
        else if next.head? == some '\x7b' then do
          drop 1
          onward ['\\']
        else do
          drop 1
          onward (← takeEscape false)
      | '\x7d' :: next =>
        if inSpec then return []
        else if next.head? == some '\x7d' then do
          drop 2
          onward ['\x7d']
        else do
          let s ← get
          failAt "f-string: single '\x7d' is not allowed" s.line s.column (s.column + 1)
      | '\x7b' :: next =>
        if !inSpec && next.head? == some '\x7b' then do
          drop 2
          onward ['\x7b']
        else do
          drop 1
          let place ← get
          let source ← takeSource ((← get).rest.length + 1) []
          let s ← get
          if source.all fun c => c == ' ' then
            failAt "f-string: valid expression required before '\x7d'" place.line place.column (place.column + 1)
          let (shown, source) ← if s.rest.head? == some '=' then do
              drop 1
              let gap ← takeWhile (· == ' ')
              pure (true, source ++ '=' :: gap)
            else pure (false, source)
          let conversion ← if (← get).rest.head? == some '!' then do
              drop 1
              let letter ← take
              pure letter
            else pure none
          let spec ← if (← get).rest.head? == some ':' then do
              drop 1
              takePieces raw quotes line start fuel true
            else pure []
          let conversion := if shown && conversion.isNone && spec.isEmpty then some 'r' else conversion
          if (← get).rest.head? == some '\x7d' then do
            drop 1
            return .field source place.line place.column shown conversion spec
              :: (← takePieces raw quotes line start fuel inSpec)
          else failAt "f-string: expecting '\x7d'" place.line (place.column - 1) place.column
      | c :: _ => do
        drop 1
        onward [c]

/-! ## Tokens -/

/-- the marks, longer ones first -/
def marks : List String :=
  ["**=", "//=", ">>=", "<<=", "...", "!=", "->", ":=", "+=", "-=", "*=", "/=", "%=", "&=", "|=", "^=", "@=", "==", "<=",
    ">=", "<<", ">>", "**", "//", "+", "-", "*", "/", "%", "@", "&", "|", "^", "~", "<", ">", "(", ")", "[", "]", "\x7b",
    "\x7d", ",", ":", ".", ";", "="]

/-- whether a character may begin a name -/
def startsName (c : Char) : Bool := c == '_' || c.isAlpha || 128 ≤ c.toNat

/-- whether a character may stand in a name -/
def inName (c : Char) : Bool := startsName c || c.isDigit

/-- takes a number -/
def takeNumber : Scanning Literal := do
  let s ← get
  let line := s.line
  let start := s.column
  let based (base : Nat) : Scanning Literal := do
    drop 2
    let digits ← takeWhile fun c => (digitOf? base c).isSome || c == '_'
    let kind : String := match base with
      | 16 => "hexadecimal"
      | 8 => "octal"
      | _ => "binary"
    let s ← get
    match s.rest.head? with
    | some c =>
      if c.isDigit then failAt s!"invalid digit '{c}' in {kind} literal" s.line s.column (s.column + 1)
      else if digits.isEmpty || startsName c then failAt s!"invalid {kind} literal" s.line (s.column - 1) s.column
    | none => if digits.isEmpty then failAt s!"invalid {kind} literal" s.line (s.column - 1) s.column
    return .int (digitsIn base (digits.filter (· != '_'))).1
  match s.rest with
  | '0' :: 'x' :: _ => based 16
  | '0' :: 'X' :: _ => based 16
  | '0' :: 'o' :: _ => based 8
  | '0' :: 'O' :: _ => based 8
  | '0' :: 'b' :: _ => based 2
  | '0' :: 'B' :: _ => based 2
  | _ => do
    let isDigit (c : Char) : Bool := c.isDigit || c == '_'
    let whole ← takeWhile isDigit
    let point : Bool := (← get).rest.head? == some '.'
    let fraction ← if point then do
        drop 1
        takeWhile isDigit
      else pure []
    let exponent ← match (← get).rest with
      | e :: next =>
        let signs := (next.takeWhile fun c => c == '+' || c == '-').take 1
        if (e == 'e' || e == 'E') && ((next.drop signs.length).head?.any Char.isDigit) then do
          drop (1 + signs.length)
          let digits ← takeWhile isDigit
          pure ('e' :: signs ++ digits)
        else pure []
      | [] => pure []
    let s ← get
    if (s.rest.head?.map startsName).getD false then
      failAt "invalid decimal literal" line (s.column - 1) s.column
    else if point || !exponent.isEmpty then
      let text := (whole ++ '.' :: fraction ++ exponent).filter (· != '_')
      return .real ((decimalNumeral? false (if whole.isEmpty then '0' :: text else text)).map Prod.fst |>.getD .zero)
    else
      let digits := whole.filter (· != '_')
      if digits.head? == some '0' && digits.any (· != '0') then
        failAt ("leading zeros in decimal integer literals are not permitted; "
          ++ "use an 0o prefix for octal integers") line start (start + 1)
      else return .int (digitsIn 10 digits).1

/-- what the letters in front of a quote mean: raw, of bytes, formatted -/
def quotePrefix? (o : Characters) : Option (Bool × Bool × Bool) :=
  match String.ofList (o.map Char.toLower) with
  | "" | "u" => some (false, false, false)
  | "r" => some (true, false, false)
  | "b" => some (false, true, false)
  | "rb" | "br" => some (true, true, false)
  | "f" => some (false, false, true)
  | "rf" | "fr" => some (true, false, true)
  | _ => none

/-- takes a text, with the letters in front of it, if one comes next -/
def takeQuoted : Scanning (Option Tok) := do
  let s ← get
  let lead := (s.rest.take 3).takeWhile Char.isAlpha
  match s.rest.drop lead.length, quotePrefix? lead with
  | q :: more, some (raw, bytes, formatted) =>
    if q != '\'' && q != '"' then return none
    else do
      let quotes := if [q, q].isPrefixOf more then String.ofList [q, q, q] else String.ofList [q]
      drop (lead.length + quotes.length)
      let fuel := 2 * s.rest.length + 2
      if formatted then return some (.formatted (← takePieces raw quotes s.line s.column fuel false))
      else do
        let o ← takeText raw bytes quotes s.line s.column fuel
        return some (.text (if bytes then .bytes o else .text o))
  | _, _ => return none

/-- the width of an indentation -/
def indentation (o : Characters) : Nat :=
  o.foldl (fun n c => if c == '\t' then (n / 8 + 1) * 8 else if c == Char.ofNat 12 then 0 else n + 1) 0

/-- the tokens with which blocks are opened or closed at the start of a line -/
def blockTokens : Scanning (List Token) := do
  let gap ← takeWhile fun c => c == ' ' || c == '\t' || c == Char.ofNat 12
  let s ← get
  let isBlank : Bool := match s.rest with
    | [] => true
    | '\n' :: _ => true
    | '\r' :: _ => true
    | '#' :: _ => true
    | _ => false
  if isBlank then return []
  else
    let width := indentation gap
    let token (tok : Tok) : Token := ⟨tok, ⟨s.line, s.column, s.line, s.column, none⟩⟩
    if s.indents.headD 0 < width then do
      set { s with indents := width :: s.indents }
      return [token .indent]
    else
      let closed := s.indents.takeWhile fun i => width < i
      let left := s.indents.drop closed.length
      if left.headD 0 != width then
        let stop := s.column + (s.rest.takeWhile (· != '\n')).length
        throw ⟨"IndentationError", "unindent does not match any outer indentation level", s.line, stop, stop + 1, s.line⟩
      else do
        set { s with indents := left }
        return closed.map fun _ => token .dedent

/-- takes the next tokens; none where only blanks were passed over -/
def takeTokens (fresh : Bool) : Scanning (List Token × Bool) := do
  let s ← get
  if fresh && s.opened.isEmpty && s.column = 0 then
    let blocks ← blockTokens
    if !blocks.isEmpty then return (blocks, false)
  let _ ← takeWhile fun c => c == ' ' || c == '\t' || c == '\r' || c == Char.ofNat 12
  let s ← get
  let finish (tok : Tok) : Scanning (List Token × Bool) := do
    let after ← get
    return ([⟨tok, ⟨s.line, s.column, after.line, after.column, none⟩⟩], false)
  match s.rest with
  | [] => return ([], false)
  | '#' :: _ => do
    let _ ← takeWhile (· != '\n')
    return ([], fresh)
  | '\\' :: '\n' :: _ => do
    drop 2
    return ([], false)
  | '\n' :: _ => do
    drop 1
    if s.opened.isEmpty && !fresh then return ([⟨.newline, ⟨s.line, s.column, s.line, s.column + 1, none⟩⟩], true)
    else return ([], true)
  | c :: next => do
    match ← takeQuoted with
    | some tok => finish tok
    | none =>
      if startsName c then do
        let o ← takeWhile inName
        finish (.name (String.ofList o))
      else if c.isDigit || (c == '.' && next.head?.any Char.isDigit) then do
        let n ← takeNumber
        finish (.number n)
      else match marks.find? fun m => m.toList.isPrefixOf s.rest with
        | none =>
          if c == '$' || c == '?' || c == '!' || c == '\x60' then
            failAt "invalid syntax" s.line s.column (s.column + 1)
          else if c == '\\' then
            failAt "unexpected character after line continuation character" s.line (s.column + 1) (s.column + 2)
          else
            let code := String.ofList (Nat.toDigits 16 c.toNat)
            failAt s!"invalid non-printable character U+{code}" s.line s.column (s.column + 1)
        | some m => do
          drop m.length
          let partner : Char := match c with
            | ')' => '('
            | ']' => '['
            | _ => '\x7b'
          if m == "(" || m == "[" || m == "\x7b" then
            modify fun after => { after with opened := (c, s.line, s.column) :: s.opened }
          else if m == ")" || m == "]" || m == "\x7d" then
            match s.opened with
            | [] => failAt s!"unmatched '{m}'" s.line s.column (s.column + 1)
            | (o, line, _) :: rest =>
              if o != partner then
                let place := if line = s.line then "" else s!" on line {line}"
                failAt s!"closing parenthesis '{m}' does not match opening parenthesis '{o}'{place}" s.line s.column
                  (s.column + 1)
              else modify fun after => { after with opened := rest }
          finish (.op m)

/-- all tokens that are left; those that were taken are given backwards -/
def allTokens : Nat → Bool → List Token → Scanning (List Token)
  | 0, _, taken => return taken.reverse
  | fuel + 1, fresh, taken => do
    let s ← get
    let token (tok : Tok) : Token := ⟨tok, ⟨s.line, s.column, s.line, s.column, none⟩⟩
    if s.rest.isEmpty then
      if !s.opened.isEmpty then return taken.reverse ++ [token .ended]
      else
        let last := if fresh then [] else [token .newline]
        return taken.reverse ++ last ++ (s.indents.filter (0 < ·)).map (fun _ => token .dedent) ++ [token .ended]
    else do
      let (found, fresh) ← takeTokens fresh
      allTokens fuel fresh (found.reverse ++ taken)

/-- the tokens of a text that begins at a place, the escapes without a meaning, and the fault of a bracket that is never
closed; `inside` says that the text is an expression, whose lines count for nothing -/
def tokensOf (inside : Bool) (line column : Nat) (o : Characters) :
    Except Fault (List Token × List (Nat × Char) × Option Fault) :=
  let opened := if inside then [('(', line, column)] else []
  let start : Scan := ⟨if inside then o ++ [')'] else o, line, column, opened, [0], []⟩
  ((allTokens (2 * o.length + 10) (!inside) []).run start).map fun (tokens, s) =>
    (tokens, s.odd, s.opened.head?.map fun (c, line, column) =>
      ⟨"SyntaxError", s!"'{c}' was never closed", line, column, column + 1, line⟩)

end ScriptBridge.Shell.BlockScript
