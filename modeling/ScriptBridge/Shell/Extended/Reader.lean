/-
Reading extended scripts. A script is read by tokens, one token ahead: a reader that meets a token which is not its own
has it read again by the next one. What a word holds between parentheses, braces or backquotes is read with the word.

`readLine` reads what stands on one line, and more lines where a command needs them, so that a script runs up to the
line that is malformed. The readers call each other on ever less text, so a bound on the number of calls is computed
from its length.
-/
import ScriptBridge.Shell.Extended.Source

namespace ScriptBridge.Shell.Extended

open Extended.Reading

/-- where the parts of a word stand, which says what ends them and what is special in them: a word, a text between
quotes, the word of a parameter between braces with the characters that end it early, a number of a slice, a subscript,
a group of patterns, an expression between two parentheses, a part of one that ends at a semicolon, an expression to be
matched, or a here-document -/
inductive Extent where
  | word
  | quotes
  | brace (quoted : Bool) (stops : List Char)
  | slice (depth : Nat)
  | subscript (depth : Nat)
  | group
  | arithmetic (depth : Nat)
  | clause (depth : Nat)
  | expression (depth : Nat)
  | here
deriving DecidableEq

namespace Extent

/-- whether parts stand inside quotes -/
def quoted : Extent → Bool
  | quotes => true
  | here => true
  | arithmetic _ => true
  | clause _ => true
  | brace q _ => q
  | _ => false

/-- whether a backslash takes the special meaning from a character -/
def escapes (e : Extent) (c : Char) : Bool :=
  match e with
  | brace true _ => "\\\x60$\"\x7d".toList.contains c
  | here => "\\\x60$".toList.contains c
  | quotes => "\\\x60$\"".toList.contains c
  | arithmetic _ => "\\\x60$\"".toList.contains c
  | clause _ => "\\\x60$\"".toList.contains c
  | _ => true

/-- what is wrong when a script ends here; a word and a here-document may end so -/
def unclosed? : Extent → Option Char
  | word => none
  | here => none
  | expression _ => none
  | quotes => some '"'
  | brace .. => some '\x7d'
  | slice _ => some '\x7d'
  | subscript _ => some ']'
  | group => some ')'
  | arithmetic _ => some ')'
  | clause _ => some ')'

end Extent

/-- a character as a part -/
def partOf (quoted : Bool) (c : Char) : Part := if quoted then .fixed [c] else .plain c

/-- whether a character names a parameter by itself -/
def isSpecial (c : Char) : Bool := "@*#?-$!".toList.contains c || c.isDigit

/-- whether a character ends a word -/
def isMeta (c : Char) : Bool := " \t\n;&|<>()".toList.contains c

/-- whether a character may stand in front of a group of patterns -/
def opensGroup (c : Char) : Bool := "?*+@!".toList.contains c

/-- takes the name of a parameter between braces -/
def readBracedName (fuel : Nat) : Reading Octets := do
  match ← peek with
  | some c =>
    if c.isDigit then takeWhile Char.isDigit fuel
    else if isNameChar c then takeWhile isNameChar fuel
    else if isSpecial c then do
      drop
      return [c]
    else return []
  | none => return []

/-- whether an operator takes one operand -/
def isUnaryTest (o : Octets) : Bool :=
  match o with
  | ['-', c] => "abcdefghknoprstuvwxzGLNORS".toList.contains c
  | _ => false

/-- whether an operator takes two operands -/
def isBinaryTest (o : Octets) : Bool :=
  ["=", "==", "!=", "=~", "<", ">", "-eq", "-ne", "-lt", "-le", "-gt", "-ge", "-nt", "-ot", "-ef"].contains
    (String.ofList o)

mutual

/-- takes a token; line ends are skipped and reserved words count where that is asked for -/
def readToken : Nat → Bool → Bool → Reading Token
  | 0, _, _ => fail .tooDeep
  | fuel + 1, newlines, keywords => do
    let s ← get
    let token ← match s.held with
      | some t => do
        set { s with held := none }
        pure t
      | none => do
        let token ← freshToken fuel
        modify fun after => { after with start := s.toRemainder }
        pure token
    match (if keywords then token.reserved else token) with
    | .newline => if newlines then readToken fuel newlines keywords else return .newline
    | token => return token

/-- takes a token from the text -/
def freshToken : Nat → Reading Token
  | 0 => fail .tooDeep
  | fuel + 1 => do
    dropGap
    let marks : List String := ["&>>", "&>", "&&", "&", "||", "|&", "|", ";;&", ";;", ";&", ";", "("]
    match ← peek with
    | none => return .eof
    | some '\n' => do
      drop
      return .newline
    | some ')' => do
      drop
      return .mark ")"
    | some c =>
      if c == '&' || c == '|' || c == ';' || c == '(' then do
        for text in marks do
          if ← acceptText text then
            return match text with
              | "&>>" => .redirect none (.outputs true) false (octets text)
              | "&>" => .redirect none (.outputs false) false (octets text)
              | text => .mark text
        return .eof
      else do
        let before ← get
        let handle : Option Handle ←
          if c.isDigit then do
            let digits ← takeWhile Char.isDigit fuel
            pure (some (.number (digitsIn 10 digits).1))
          else if c == '\x7b' then do
            drop
            let name ← takeWhile isNameChar fuel
            if isName name && (← accept '\x7d') then pure (some (.variable name)) else pure none
          else pure none
        let next ← peek
        let redirects : Bool := (next == some '<' || next == some '>')
          && (handle.isSome || c == '<' || c == '>')
        let process : Bool := handle.isNone && (before.rest.drop 1).head? == some '('
        if redirects && !process then readOperator fuel handle
        else do
          set before
          let (word, text) ← withText (fromHere (readParts fuel .word))
          return .word word text

/-- takes the operator of a redirection -/
def readOperator : Nat → Option Handle → Reading Token
  | 0, _ => fail .tooDeep
  | _ + 1, handle => do
    let operators : List (String × Direction × Bool) :=
      [("<<<", .line, false), ("<<-", .here, true), ("<<", .here, false), ("<&", .copyIn, false), ("<>", .both, false),
        ("<", .read, false), (">>", .append, false), (">&", .copyOut, false), (">|", .replace, false),
        (">", .write, false)]
    for (text, direction, dropTabs) in operators do
      if ← acceptText text then return .redirect handle direction dropTabs (octets text)
    return .eof

/-- takes the parts of a word, up to what ends them; that is taken too where it is a quote or two parentheses -/
def readParts : Nat → Extent → Reading Word
  | 0, _ => fail .tooDeep
  | fuel + 1, extent => do
    let onward (parts : Word) (extent : Extent) : Reading Word := do return parts ++ (← readParts fuel extent)
    let more (parts : Word) : Reading Word := onward parts extent
    match ← peek with
    | none => match extent.unclosed? with
      | some mark => throw ⟨0, .unclosed mark, 2⟩
      | none => return []
    | some c =>
      let following := ((← get).rest.drop 1).head?
      let groups := (← get).groups
      let isProcess : Bool := (c == '<' || c == '>') && following == some '('
      let ends : Bool := match extent with
        | .word => isMeta c && !isProcess
        | .brace _ stops => c == '\x7d' || stops.contains c
        | .slice depth => c == '\x7d' || (c == ':' && depth = 0)
        | .subscript depth => c == ']' && depth = 0
        | .group => c == ')'
        | .clause depth => depth = 0 && (c == ';' || c == ')')
        | .expression depth => isMeta c && depth = 0 && c != '(' && c != '|'
        | _ => false
      if ends then return []
      else do
        let line := (← get).line
        drop
        match c with
        | '\\' => do
          match ← takeRaw with
          | none => more [.fixed ['\\']]
          | some d => match extent with
            | .quotes => more [.fixed (if extent.escapes d then [d] else ['\\', d])]
            | .expression _ => more [.fixed [d]]
            | _ => more [.fixed (if extent.escapes d then [d] else ['\\', d])]
        | '\'' =>
          if extent.quoted then more [.fixed [c]]
          else do
            let s ← get
            match takeQuoted s.rest with
            | none => throw ⟨line, .unclosed '\'', 2⟩
            | some (body, rest) => do
              set { s with rest, line := s.line + body.count '\n' }
              more [.fixed body]
        | '"' =>
          match extent with
          | .quotes => return []
          | .arithmetic _ => more []
          | .clause _ => more []
          | .here => more [.fixed [c]]
          | _ => do
            let parts ← tryCatch (readParts fuel .quotes) fun fault =>
              throw { fault with line := if fault.line = 0 then line else fault.line }
            more (.fixed [] :: parts)
        | '$' => do
          let parts ← fromHere (readDollar fuel extent)
          more parts
        | '\x60' => do
          let s ← get
          match takeBackquoted extent.quoted s.rest with
          | none => throw ⟨line, .unclosed '\x60', 2⟩
          | some (body, rest) => do
            set (Source.ofText s.groups body)
            let statements ← readList fuel false true
            set { s with rest, line := s.line + (s.rest.count '\n' - rest.count '\n') }
            more [.output extent.quoted statements]
        | c =>
          if isProcess && !extent.quoted then do
            drop
            let statements ← readInside fuel
            more [.process (c == '>') statements]
          else if groups && opensGroup c && following == some '(' && (extent == .word || extent == .group) then do
            drop
            let inside ← readParts fuel .group
            drop
            more ([.plain c, .plain '('] ++ inside ++ [.plain ')'])
          else match extent, c with
            | .slice depth, '(' => onward [.plain c] (.slice (depth + 1))
            | .slice depth, '?' => onward [.plain c] (.slice (depth + 1))
            | .slice depth, ')' => onward [.plain c] (.slice (depth - 1))
            | .slice depth, ':' => onward [.plain c] (.slice (depth - 1))
            | .subscript depth, '[' => onward [.plain c] (.subscript (depth + 1))
            | .subscript depth, ']' => onward [.plain c] (.subscript (depth - 1))
            | .expression depth, '(' => onward [.plain c] (.expression (depth + 1))
            | .expression depth, ')' => onward [.plain c] (.expression (depth - 1))
            | .clause depth, '(' => onward [.fixed [c]] (.clause (depth + 1))
            | .clause depth, ')' => onward [.fixed [c]] (.clause (depth - 1))
            | .arithmetic depth, '(' => onward [.fixed [c]] (.arithmetic (depth + 1))
            | .arithmetic depth, ')' =>
              if depth = 0 then
                if ← accept ')' then return [] else more [.fixed [c]]
              else onward [.fixed [c]] (.arithmetic (depth - 1))
            | _, c => more [partOf extent.quoted c]

/-- takes statements up to the closing parenthesis that ends them -/
def readInside : Nat → Reading (List Statement)
  | 0 => fail .tooDeep
  | fuel + 1 => do
    let statements ← readList fuel false true
    let token ← readToken fuel true false
    if token.isMark ")" then return statements
    else match token with
      | .eof => fail (.unclosed ')')
      | token => unexpected token

/-- takes an expansion, after its dollar sign -/
def readDollar : Nat → Extent → Reading Word
  | 0, _ => fail .tooDeep
  | fuel + 1, extent => do
    let quoted := extent.quoted
    match ← peek with
    | some '(' => do
      drop
      let s ← get
      if s.rest.head? == some '(' && isCalculation (s.rest.length + 1) 0 (s.rest.drop 1) then do
        drop
        return [.arithmetic quoted (← readParts fuel (.arithmetic 0))]
      else return [.output quoted (← readInside fuel)]
    | some '[' => do
      drop
      let body ← readParts fuel (.subscript 0)
      drop
      return [.arithmetic quoted body]
    | some '\x7b' => do
      drop
      let (parameter, text) ← withText (readBraced fuel extent)
      return [.parameter quoted (octets "$\x7b" ++ text) parameter]
    | some '\'' =>
      if quoted then return [.fixed ['$']]
      else do
        let line := (← get).line
        drop
        let s ← get
        match takeAnsi (s.rest.length + 1) s.rest with
        | none => throw ⟨line, .unclosed '\'', 2⟩
        | some (body, rest) => do
          set { s with rest, line := s.line + (s.rest.count '\n' - rest.count '\n') }
          return [.fixed body]
    | some '"' =>
      if quoted then return [.fixed ['$']] else return []
    | some c =>
      if isNameChar c && !c.isDigit then do
        let name ← takeWhile isNameChar fuel
        return [.parameter quoted ('$' :: name) (.mk name none false .keep)]
      else if isSpecial c then do
        drop
        return [.parameter quoted ['$', c] (.mk [c] none false .keep)]
      else return [partOf quoted '$']
    | none => return [partOf quoted '$']

/-- takes a parameter between braces, after the first of them, with the last one -/
def readBraced : Nat → Extent → Reading Parameter
  | 0, _ => fail .tooDeep
  | fuel + 1, extent => do
    let close (parameter : Parameter) : Reading Parameter := do
      if ← accept '\x7d' then return parameter
      else do
        let _ ← readParts fuel (.brace extent.quoted [])
        let _ ← accept '\x7d'
        return .mk [] none false .malformed
    let whole (indirect : Bool) : Reading Parameter := do
      let name ← readBracedName fuel
      if name.isEmpty then close (.mk [] none false .malformed)
      else do
        let subscript ← readSubscript fuel name
        let change ← readChange fuel extent
        close (.mk name subscript indirect change)
    if ← accept '#' then do
      let before ← get
      let next ← peek
      let name ← readBracedName fuel
      let subscript ← readSubscript fuel name
      if next == some '\x7d' then close (.mk ['#'] none false .keep)
      else if !name.isEmpty && (← peek) == some '\x7d' then close (.mk name subscript false .length)
      else do
        set before
        let change ← readChange fuel extent
        close (.mk ['#'] none false change)
    else if ← accept '!' then do
      let before ← get
      let name ← readBracedName fuel
      let marked (c : Char) : Reading Bool := acceptText (String.ofList [c, '\x7d'])
      if name.isEmpty then do
        let change ← readChange fuel extent
        close (.mk ['!'] none false change)
      else if isName name && (← marked '*') then return .mk name none false (.names true)
      else if isName name && (← marked '@') then return .mk name none false (.names false)
      else match ← readSubscript fuel name with
        | some (.all joined) =>
          if ← accept '\x7d' then return .mk name none false (.indices joined)
          else do
            set before
            whole true
        | _ => do
          set before
          whole true
    else whole false

/-- takes a subscript, if one follows the name of a variable -/
def readSubscript : Nat → Octets → Reading (Option Subscript)
  | 0, _ => fail .tooDeep
  | fuel + 1, name => do
    if !isName name then return none
    else if ← acceptText "[@]" then return some (.all false)
    else if ← acceptText "[*]" then return some (.all true)
    else if ← accept '[' then do
      let index ← readParts fuel (.subscript 0)
      drop
      return some (.one index)
    else return none

/-- takes the change of a parameter, up to the closing brace -/
def readChange : Nat → Extent → Reading Change
  | 0, _ => fail .tooDeep
  | fuel + 1, extent => do
    let word : Reading Word := readParts fuel (.brace extent.quoted [])
    let pattern (stops : List Char) : Reading Word := readParts fuel (.brace false stops)
    match ← peek with
    | none => fail (.unclosed '\x7d')
    | some '\x7d' => return .keep
    | some c => do
      drop
      match c with
      | ':' => do
        match ← peek with
        | some '-' => do drop; return .default true (← word)
        | some '=' => do drop; return .assign true (← word)
        | some '?' => do drop; return .require true (← word)
        | some '+' => do drop; return .instead true (← word)
        | some '\x7d' => return .malformed
        | _ => do
          let offset ← readParts fuel (.slice 0)
          if ← accept ':' then return .slice offset (some (← readParts fuel (.brace true [])))
          else return .slice offset none
      | '-' => return .default false (← word)
      | '=' => return .assign false (← word)
      | '?' => return .require false (← word)
      | '+' => return .instead false (← word)
      | '#' => do
        let longest ← accept '#'
        return .dropStart longest (← pattern [])
      | '%' => do
        let longest ← accept '%'
        return .dropEnd longest (← pattern [])
      | '/' => do
        let which ← if ← accept '/' then pure Replaced.every
          else if ← accept '#' then pure .start
          else if ← accept '%' then pure .finish
          else pure .first
        let pattern ← if (← peek) == some '/' && which == .every then do
            drop
            return .replace which (.plain '/' :: (← pattern ['/'])) (← replacement fuel)
          else pattern ['/']
        return .replace which pattern (← replacement fuel)
      | '^' => do
        let all ← accept '^'
        return .recase .upper all (← pattern [])
      | ',' => do
        let all ← accept ','
        return .recase .lower all (← pattern [])
      | '~' => do
        let all ← accept '~'
        return .recase .toggle all (← pattern [])
      | '@' => do
        match ← takeRaw with
        | some letter =>
          if "QEPAaKkUuL".toList.contains letter && (← peek) == some '\x7d' then return .transform letter
          else return .malformed
        | none => fail (.unclosed '\x7d')
      | _ => return .malformed

/-- takes what stands in place of what a pattern matches, if anything does -/
def replacement : Nat → Reading Word
  | 0 => fail .tooDeep
  | fuel + 1 => do
    if ← accept '/' then readParts fuel (.brace false []) else return []

/-- takes an assignment, if one comes next -/
def readAssignment : Nat → Reading (Option (Assignment × Octets))
  | 0 => fail .tooDeep
  | fuel + 1 => do
    let before ← get
    let possible : Bool := match before.held with
      | none => true
      | some (.word ..) => true
      | some _ => false
    let give : Reading (Option Assignment) := do
      let name ← takeWhile isNameChar fuel
      if !isName name then return none
      else do
        let index : Option Word ← if (← peek) == some '[' then do
            drop
            let index ← tryCatch (readParts fuel (.subscript 0)) fun _ => pure []
            if ← accept ']' then pure (some index) else pure none
          else pure none
        let adds ← acceptText "+="
        if adds || (← accept '=') then do
          if index.isNone && (← peek) == some '(' then do
            drop
            let entries ← tryCatch (fromHere (readEntries fuel)) fun fault => throw { fault with status := 1 }
            return some (.mk name index adds [.items entries])
          else return some (.mk name index adds (← readParts fuel .word))
        else return none
    if !possible then return none
    else do
      if before.held.isSome then set { before with toRemainder := before.start, held := none }
      dropGap
      match ← withText give with
      | (some assignment, text) => return some (assignment, text)
      | (none, _) => do
        set before
        return none

/-- takes the values of a list, up to the closing parenthesis -/
def readEntries : Nat → Reading (List Entry)
  | 0 => fail .tooDeep
  | fuel + 1 => do
    dropGap
    match ← peek with
    | none => throw ⟨0, .unclosed ')', 1⟩
    | some ')' => do
      drop
      return []
    | some '\n' => do
      drop
      readEntries fuel
    | some c => do
      let before ← get
      let indexed : Option Entry ← if c == '[' then do
          drop
          let index ← tryCatch (readParts fuel (.subscript 0)) fun _ => pure []
          if ← accept ']' then do
            let adds ← acceptText "+="
            if adds || (← accept '=') then pure (some (.mk (some index) adds (← readParts fuel .word)))
            else pure none
          else pure none
        else pure none
      match indexed with
      | some entry => return entry :: (← readEntries fuel)
      | none => do
        set before
        match ← readToken fuel false false with
        | .word word _ => return .mk none false word :: (← readEntries fuel)
        | token => unexpected token

/-- takes what a redirection leads to -/
def readTarget : Nat → Option Handle → Direction → Bool → Reading Redirect
  | 0, _, _, _ => fail .tooDeep
  | fuel + 1, handle, direction, dropTabs => do
    let descriptor := handle.getD (.number (match direction with
      | .write | .replace | .append | .copyOut | .outputs _ => 1
      | _ => 0))
    if direction == .here then do
      dropGap
      let s ← get
      match takeMark s.rest with
      | none => fail (.unclosed '"')
      | some ((mark, quoted), rest) =>
        if mark.isEmpty && !quoted then unexpected (← readToken fuel false false)
        else do
          let ((body, rest), lines) := takeHere mark dropTabs rest
          let ended : Bool := 0 < lines && body.count '\n' < lines
          let warning : Octets := octets "warning: here-document at line " ++ number (s.line + s.owed : Nat)
            ++ octets " delimited by end-of-file (wanted \x60" ++ mark ++ octets "')"
          let warnings := if ended then [] else [(s.line + s.owed + lines, warning)]
          let after := { s with rest, owed := s.owed + lines, warnings := s.warnings ++ warnings }
          if quoted then do
            set after
            return .mk descriptor .here [] [.fixed body]
          else do
            set { Source.ofText s.groups body with line := s.line + s.owed + 1 }
            let parts ← readParts fuel .here
            set after
            return .mk descriptor .here [] parts
    else do
      match ← readToken fuel false false with
      | .word word text => return .mk descriptor direction text word
      | token => unexpected token

/-- takes the redirections that follow a compound command -/
def readRedirects : Nat → Reading (List Redirect)
  | 0 => fail .tooDeep
  | fuel + 1 => do
    match ← readToken fuel false true with
    | .redirect handle direction dropTabs _ => do
      let redirect ← readTarget fuel handle direction dropTabs
      return redirect :: (← readRedirects fuel)
    | token => do
      hold token
      return []

/-- takes the assignments, words and redirections of a simple command, or the function that begins like one. What was
taken so far is given backwards. -/
def readSimple : Nat → Nat → List Assignment → List Word → List Redirect → Reading Statement
  | 0, _, _, _, _ => fail .tooDeep
  | fuel + 1, line, assigns, words, redirects => do
    let declares : Bool := match words.getLast? with
      | some word => match bare? word with
        | some name => declaringNames.contains (String.ofList name)
        | none => false
      | none => true
    let assignment? ← if declares then readAssignment fuel else pure none
    match assignment? with
    | some (assignment, _) =>
      if words.isEmpty then readSimple fuel line (assignment :: assigns) words redirects
      else readSimple fuel line assigns ([.assigning assignment] :: words) redirects
    | none => do
      let token ← readToken fuel false false
      let finish : Reading Statement := do
        hold token
        return .simple line assigns.reverse words.reverse redirects.reverse
      match token with
      | .word word _ => readSimple fuel line assigns (word :: words) redirects
      | .redirect handle direction dropTabs _ => do
        let redirect ← readTarget fuel handle direction dropTabs
        readSimple fuel line assigns words (redirect :: redirects)
      | .mark "(" =>
        match assigns, words, redirects with
        | [], [word], [] =>
          match bare? word with
          | some name => do
            let next ← readToken fuel false false
            if next.isMark ")" then do
              let token ← readToken fuel true true
              hold token
              match token with
              | .word .. => unexpected token
              | .redirect .. => unexpected token
              | _ => return .function line name (← readCommand fuel true)
            else unexpected next
          | none => unexpected token
        | _, _, _ => unexpected token
      | _ => finish

/-- takes a mark that has to follow -/
def expect : Nat → String → Reading Unit
  | 0, _ => fail .tooDeep
  | fuel + 1, text => do
    let token ← readToken fuel false true
    if token.isMark text then return else unexpected token

/-- takes words up to the end of the line or a semicolon -/
def readWords : Nat → Reading (List Word)
  | 0 => fail .tooDeep
  | fuel + 1 => do
    match ← readToken fuel false false with
    | .word word _ => return word :: (← readWords fuel)
    | .newline => return []
    | token => if token.isMark ";" then return [] else unexpected token

/-- takes the rest of an `if`, after that word -/
def readBranch : Nat → Reading Statement
  | 0 => fail .tooDeep
  | fuel + 1 => do
    let condition ← readList fuel false false
    expect fuel "then"
    let body ← readList fuel false false
    let token ← readToken fuel false true
    if token.isMark "elif" then return .branch condition body [← readBranch fuel]
    else if token.isMark "else" then do
      let otherwise ← readList fuel false false
      expect fuel "fi"
      return .branch condition body otherwise
    else if token.isMark "fi" then return .branch condition body []
    else unexpected token

/-- takes the patterns of a case, up to their parenthesis. The first of them was taken, as a token. -/
def readPatterns : Nat → Token → Reading (List Word)
  | 0, _ => fail .tooDeep
  | fuel + 1, first => do
    let word : Word ← match first with
      | .word w _ => pure w
      | .mark t => if reservedWords.contains t then pure (t.toList.map .plain) else unexpected first
      | token => unexpected token
    let token ← readToken fuel false false
    if token.isMark "|" then do
      let next ← readToken fuel false false
      return word :: (← readPatterns fuel next)
    else if token.isMark ")" then return [word]
    else unexpected token

/-- takes the cases of a choice, up to its end -/
def readCases : Nat → Reading (List Case)
  | 0 => fail .tooDeep
  | fuel + 1 => do
    let token ← readToken fuel true true
    if token.isMark "esac" then return []
    else do
      let first ← if token.isMark "(" then readToken fuel false false else pure token
      let patterns ← readPatterns fuel first
      let body ← readList fuel false true
      let token ← readToken fuel true true
      if token.isMark "esac" then return [.mk patterns body .ends]
      else if token.isMark ";;" then return .mk patterns body .ends :: (← readCases fuel)
      else if token.isMark ";&" then return .mk patterns body .falls :: (← readCases fuel)
      else if token.isMark ";;&" then return .mk patterns body .tests :: (← readCases fuel)
      else unexpected token

/-- takes the body of a loop, which stands between `do` and `done` or between braces -/
def readBody : Nat → Bool → Reading (List Statement)
  | 0, _ => fail .tooDeep
  | fuel + 1, braces => do
    let token ← readToken fuel true true
    if token.isMark "do" then do
      let body ← readList fuel false false
      expect fuel "done"
      return body
    else if braces && token.isMark "\x7b" then do
      let body ← readList fuel false false
      expect fuel "\x7d"
      return body
    else unexpected token

/-- takes the rest of a `for` or a `select`, after that word -/
def readEach : Nat → Nat → Bool → Reading Statement
  | 0, _, _ => fail .tooDeep
  | fuel + 1, line, selects => do
    dropGap
    if !selects && (← acceptText "((") then do
      let start ← fromHere (readParts fuel (.clause 0))
      if !(← accept ';') then fail .counting
      let test ← fromHere (readParts fuel (.clause 0))
      if !(← accept ';') then fail .counting
      let step ← fromHere (readParts fuel (.clause 0))
      if !(← acceptText "))") then fail .counting
      let token ← readToken fuel true true
      if !token.isMark ";" then hold token
      return .count line start test step (← readBody fuel true)
    else do
      let name ← match ← readToken fuel false false with
        | .word word text => pure ((bare? word).getD text)
        | token => unexpected token
      let token ← readToken fuel true true
      let words ← if token.isMark "in" then do pure (some (← readWords fuel))
        else do
          if !token.isMark ";" then hold token
          pure none
      let body ← readBody fuel true
      return if selects then .select line name words body else .each line name words body

/-- takes a command: a compound one, a function, or a simple one -/
def readCommand : Nat → Bool → Reading Statement
  | 0, _ => fail .tooDeep
  | fuel + 1, newlines => do
    let token ← readToken fuel newlines true
    let line := (← get).line
    let finish (statement : Statement) : Reading Statement := do
      match ← readRedirects fuel with
      | [] => return statement
      | redirects => return .redirected line statement redirects
    let loopOf (ends : Bool) : Reading Statement := do
      let condition ← readList fuel false false
      return .loop ends condition (← readBody fuel false)
    match token with
    | .mark "if" => do finish (← readBranch fuel)
    | .mark "while" => do finish (← loopOf false)
    | .mark "until" => do finish (← loopOf true)
    | .mark "for" => do finish (← readEach fuel line false)
    | .mark "select" => do finish (← readEach fuel line true)
    | .mark "case" => do
      match ← readToken fuel false false with
      | .word word _ => do
        let token ← readToken fuel true true
        if !token.isMark "in" then unexpected token
        else finish (.choice line word (← readCases fuel))
      | token => unexpected token
    | .mark "function" => do
      match ← readToken fuel false false with
      | .word word text => do
        let name := (bare? word).getD text
        let next ← readToken fuel false false
        if next.isMark "(" then expect fuel ")" else hold next
        finish (.function line name (← readCommand fuel true))
      | token => unexpected token
    | .mark "[[" => do
      let condition ← readCondition fuel
      let token ← readToken fuel true true
      if token.isMark "]]" then finish (.condition line condition)
      else match token with
        | .eof => fail .endedCondition
        | token => failAt token (.condition (octets "syntax error in conditional expression") (token.blamed []))
    | .mark "(" => do
      let s ← get
      if s.rest.head? == some '(' && isCalculation (s.rest.length + 1) 0 (s.rest.drop 1) then do
        drop
        let body ← fromHere (readParts fuel (.arithmetic 0))
        finish (.calculation line body)
      else do
        let body ← readList fuel false false
        expect fuel ")"
        finish (.subshell line body)
    | .mark "\x7b" => do
      let body ← readList fuel false false
      expect fuel "\x7d"
      finish (.group body)
    | .word .. => do
      hold token
      readSimple fuel line [] [] []
    | .redirect .. => do
      hold token
      readSimple fuel line [] [] []
    | token => unexpected token

/-- takes conditions of which one has to hold -/
def readCondition : Nat → Reading Condition
  | 0 => fail .tooDeep
  | fuel + 1 => do
    let first ← readBoth fuel
    let token ← readToken fuel true true
    if token.isMark "||" then return .either first (← readCondition fuel)
    else do
      hold token
      return first

/-- takes conditions that all have to hold -/
def readBoth : Nat → Reading Condition
  | 0 => fail .tooDeep
  | fuel + 1 => do
    let first ← readTest fuel
    let token ← readToken fuel true true
    if token.isMark "&&" then return .both first (← readBoth fuel)
    else do
      hold token
      return first

/-- takes one condition -/
def readTest : Nat → Reading Condition
  | 0 => fail .tooDeep
  | fuel + 1 => do
    match ← readToken fuel true false with
    | .mark "(" => do
      let condition ← readCondition fuel
      let token ← readToken fuel true true
      if token.isMark ")" then return condition
      else fail (.condition (octets "unexpected token \x60" ++ token.text ++ octets "', expected \x60)'") token.text)
    | .word word text =>
      match bare? word with
      | some ['!'] => return .not (← readTest fuel)
      | some [']', ']'] => fail (.condition [] text)
      | bare => do
        let operator := bare.getD []
        if isUnaryTest operator then
          match ← readToken fuel false true with
          | .word operand _ => return .unary operator operand
          | token => failAt token (.condition (octets "unexpected argument \x60" ++ token.text
              ++ octets "' to conditional unary operator") (token.blamed operator))
        else readOperand fuel word text
    | .eof => fail .endedCondition
    | token => failAt token (.condition (octets "unexpected token \x60" ++ token.text ++ octets "' in conditional command")
        (token.blamed []))

/-- takes what follows the first word of a condition -/
def readOperand : Nat → Word → Octets → Reading Condition
  | 0, _, _ => fail .tooDeep
  | fuel + 1, first, text => do
    let token ← readToken fuel false true
    let second (operator : Octets) : Reading Condition := do
      dropGap
      let pattern : Bool := ["=", "==", "!="].contains (String.ofList operator)
      let token ←
        if operator == octets "=~" then do
          let (word, text) ← withText (readParts fuel (.expression 0))
          pure (Token.word word text)
        else if pattern then withGroups (readToken fuel false true)
        else readToken fuel false true
      match token with
      | .word word _ => return .binary first operator word
      | token => failAt token (.condition (octets "unexpected argument \x60" ++ token.text
          ++ octets "' to conditional binary operator") (token.blamed operator))
    match token with
    | .word word next =>
      match bare? word with
      | some operator =>
        if isBinaryTest operator then second operator
        else fail (.condition (octets "conditional binary operator expected") next)
      | none => fail (.condition (octets "conditional binary operator expected") next)
    | .redirect none .read _ _ => second ['<']
    | .redirect none .write _ _ => second ['>']
    | token => do
      let closes : Bool := token.isMark "]]" || token.isMark "&&" || token.isMark "||" || token.isMark ")"
      if closes then do
        hold token
        return .word first
      else match token with
        | .newline => do
          let next ← readToken fuel true true
          hold next
          if next.isMark "]]" || next.isMark "&&" || next.isMark "||" then return .word first
          else failAt .newline (.condition
            (octets "unexpected token \x60newline', conditional binary operator expected") text)
        | token => failAt token (.condition (octets "unexpected token \x60" ++ token.text
            ++ octets "', conditional binary operator expected") (token.blamed text))

/-- takes commands with bars between them; a bar with an ampersand hands complaints on too -/
def readStages : Nat → Bool → Reading (List Statement)
  | 0, _ => fail .tooDeep
  | fuel + 1, newlines => do
    let stage ← readCommand fuel newlines
    let token ← readToken fuel false false
    if token.isMark "|" then return stage :: (← readStages fuel true)
    else if token.isMark "|&" then do
      let joined : Redirect := .mk (.number 2) .copyOut ['1'] [.fixed ['1']]
      return .redirected (← get).line stage [joined] :: (← readStages fuel true)
    else do
      hold token
      return [stage]

/-- takes a pipeline -/
def readPipeline : Nat → Bool → Reading Statement
  | 0, _ => fail .tooDeep
  | fuel + 1, newlines => do
    let token ← readToken fuel newlines true
    if token.isMark "!" then do
      let next ← readToken fuel false true
      hold next
      match next with
      | .newline => return .pipeline true .untimed []
      | .eof => return .pipeline true .untimed []
      | .mark ";" => return .pipeline true .untimed []
      | _ => match ← readPipeline fuel false with
        | .pipeline negated timed stages => return .pipeline (!negated) timed stages
        | statement => return .pipeline true .untimed [statement]
    else if token.isMark "time" then do
      let next ← readToken fuel false true
      let options : Bool := match next with
        | .word w _ => bare? w == some (octets "-p")
        | _ => false
      let next ← if options then readToken fuel false true else pure next
      hold next
      let empty : Bool := match next with
        | .newline => true
        | .eof => true
        | .mark ";" => true
        | _ => false
      let timing : Timing := if options then .brief else .full
      if empty then return .pipeline false timing []
      else match ← readPipeline fuel false with
        | .pipeline negated _ stages => return .pipeline negated timing stages
        | statement => return .pipeline false timing [statement]
    else do
      hold token
      match ← readStages fuel false with
      | [stage] => return stage
      | stages => return .pipeline false .untimed stages

/-- takes what joins a statement with pipelines that follow -/
def readJoined : Nat → Statement → Reading Statement
  | 0, _ => fail .tooDeep
  | fuel + 1, first => do
    let token ← readToken fuel false false
    if token.isMark "&&" then do readJoined fuel (.both first (← readPipeline fuel true))
    else if token.isMark "||" then do readJoined fuel (.either first (← readPipeline fuel true))
    else do
      hold token
      return first

/-- takes statements: those on a line, or those up to the end of a compound command. `mayEnd` says that they may end
here already. -/
def readList : Nat → Bool → Bool → Reading (List Statement)
  | 0, _, _ => fail .tooDeep
  | fuel + 1, onLine, mayEnd => do
    let token ← readToken fuel (!onLine) true
    match token with
    | .newline => return []
    | .eof => do
      hold .eof
      if onLine || mayEnd then return [] else fail .ended
    | _ => do
      hold token
      if !onLine && mayEnd && token.closes then return []
      else do
        let first ← readPipeline fuel false
        let statement ← readJoined fuel first
        let token ← readToken fuel false false
        match token with
        | .eof => do
          hold .eof
          return [statement]
        | .newline => do
          if onLine then return [statement]
          else return statement :: (← readList fuel onLine true)
        | .mark "&" => return .background statement :: (← readList fuel onLine true)
        | .mark ";" => return statement :: (← readList fuel onLine true)
        | token =>
          if onLine then unexpected token
          else do
            hold token
            return [statement]

end

/-- a bound on the calls that reading a text takes -/
def readingBound (o : Octets) : Nat := 40 * o.length + 100

/-- the statements of a line with what follows; none are left when the source is at its end -/
def readLine (s : Source) : Except Fault (List Statement × Source) :=
  (readList (readingBound s.rest) true false).run { s with warnings := [] }

/-- the parameter that a text names, as in an indirect use of it -/
def readReference (o : Octets) : Option (Octets × Option Subscript) :=
  let reading : Reading (Octets × Option Subscript) := do
    let name ← readBracedName (o.length + 1)
    return (name, ← readSubscript (readingBound o) name)
  match reading.run (Source.ofText false o) with
  | .ok ((name, subscript), s) => if name.isEmpty || !s.rest.isEmpty then none else some (name, subscript)
  | .error _ => none

/-- the parts of a text as they stand between quotes, as in a prompt that is expanded -/
def readQuotedText (o : Octets) : Except Fault Word :=
  ((readParts (readingBound o) .here).run (Source.ofText false o)).map Prod.fst

/-- the values of a list that a text writes between parentheses -/
def readEntryText (o : Octets) : Except Fault (List Entry) :=
  ((readEntries (readingBound o)).run (Source.ofText false (o.drop 1))).map Prod.fst

end ScriptBridge.Shell.Extended
