/-
Reading shell scripts. A script is read by tokens, one token ahead: a reader that meets a token which is not its own
has it read again by the next one. What a word holds between parentheses, braces or backquotes is read with the word.

`readLine` reads what stands on one line, and more lines where a command needs them, so that a script runs up to the
line that is malformed. The readers call each other on ever less text, so a bound on the number of calls is computed
from its length.
-/
import ScriptBridge.Shell.Source

namespace ScriptBridge.Shell

open Reading

/-- where the parts of a word stand, which says what ends them and what is special in them: a word, a text between
quotes, the word of a parameter between braces, an arithmetic expansion, or a here-document -/
inductive Extent where
  | word
  | quotes
  | brace (quoted inHere : Bool)
  | arithmetic
  | here
deriving DecidableEq

namespace Extent

/-- whether parts stand inside quotes -/
def quoted : Extent → Bool
  | word => false
  | brace q _ => q
  | _ => true

/-- whether a backslash takes the special meaning from a character -/
def escapes (e : Extent) (c : Char) : Bool :=
  match e with
  | word => true
  | brace false _ => true
  | brace true _ => "\\\x60$\"\x7d".toList.contains c
  | here => "\\\x60$".toList.contains c
  | _ => "\\\x60$\"".toList.contains c

/-- the place of the word of a parameter; a pattern that is cut off stands outside of quotes -/
def inner (e : Extent) (cuts : Bool) : Extent :=
  let inHere := match e with
    | here => true
    | brace _ h => h
    | _ => false
  brace (e.quoted && !cuts) inHere

/-- what is wrong when a script ends here; a word and a here-document may end so -/
def unclosed? : Extent → Option Malformed
  | word => none
  | here => none
  | quotes => some .unclosedQuote
  | brace true false => some .unclosedQuote
  | brace _ _ => some .unclosedBrace
  | arithmetic => some .unclosedArithmetic

end Extent

/-- a character as a part -/
def partOf (quoted : Bool) (c : Char) : Part := if quoted then .fixed [c] else .plain c

/-- whether a character names a parameter by itself -/
def isSpecial (c : Char) : Bool := "@*#?-$!".toList.contains c || c.isDigit

/-- takes the change of a parameter, after its name; the closing brace that ends a plain name is taken with it -/
def readChange : Reading Change := do
  let valued (orEmpty : Bool) (c : Option Char) : Change :=
    match c with
    | some '-' => .default orEmpty
    | some '=' => .assign orEmpty
    | some '?' => .require orEmpty
    | some '+' => .instead orEmpty
    | some '\x7d' => if orEmpty then .malformed else .keep
    | _ => .malformed
  let c ← peek
  let _ ← takeRaw
  match c with
  | some ':' => do
    let c ← peek
    let _ ← takeRaw
    return valued true c
  | some '%' => return .dropEnd (← accept '%')
  | some '#' => return .dropStart (← accept '#')
  | c => return valued false c

/-- takes the name of a parameter between braces -/
def readBracedName (fuel : Nat) : Reading Octets := do
  match ← peek with
  | some c =>
    if c.isDigit then takeWhile Char.isDigit fuel
    else if isNameChar c then takeWhile isNameChar fuel
    else if isSpecial c then do
      let _ ← takeRaw
      return [c]
    else return []
  | none => return []

/-- takes what stands between the opening brace of a parameter and its word: the name and the change -/
def readBracedStart (fuel : Nat) : Reading (Octets × Change) := do
  let plain : Reading (Octets × Change) := do
    match ← readBracedName fuel with
    | [] => return ([], .malformed)
    | name => return (name, ← readChange)
  if ← accept '#' then do
    match ← peek with
    | some c =>
      if isNameChar c then do
        let name ← readBracedName fuel
        return (name, if (← peek) == some '\x7d' then .length else .malformed)
      else if c == '\x7d' then do
        let _ ← takeRaw
        return (['#'], .keep)
      else do
        let before ← get
        let _ ← takeRaw
        if (← peek) == some '\x7d' then return (if isSpecial c then ([c], .length) else (['#'], .malformed))
        else do
          set before
          return (['#'], ← readChange)
    | none => return (['#'], .malformed)
  else plain

mutual

/-- takes a token; line ends are skipped and reserved words count where that is asked for -/
def readToken : Nat → Bool → Bool → Reading Token
  | 0, _, _ => fail .tooDeep
  | fuel + 1, newlines, keywords => do
    let s ← get
    let token ← match s.held with
      | some t => do
        set { s with held := none }
        pure t
      | none => freshToken fuel
    let token := if keywords then token.reserved else token
    match token with
    | .newline => if newlines then readToken fuel newlines keywords else return .newline
    | .word word => do
      if keywords && s.held.isNone then
        if ← replaceAlias word then readToken fuel newlines keywords else return token
      else return token
    | token => return token

/-- takes a token from the text -/
def freshToken : Nat → Reading Token
  | 0 => fail .tooDeep
  | fuel + 1 => do
    dropGap
    let pair (c : Char) (two one : String) : Reading Token := do
      let _ ← takeRaw
      return .mark (if ← accept c then two else one)
    match ← peek with
    | none => return .eof
    | some '\n' => do
      let _ ← takeRaw
      return .newline
    | some '&' => pair '&' "&&" "&"
    | some '|' => pair '|' "||" "|"
    | some ';' => pair ';' ";;" ";"
    | some '(' => do
      let _ ← takeRaw
      return .mark "("
    | some ')' => do
      let _ ← takeRaw
      return .mark ")"
    | some _ => do
      let parts ← readParts fuel .word
      let descriptor? : Option (Option Nat) := match parts with
        | [] => some none
        | [.plain d] => if d.isDigit then some (some (d.toNat - 48)) else none
        | _ => none
      match descriptor?, ← peek with
      | some given, some '>' => do
        let _ ← takeRaw
        let of (direction : Direction) : Token := .redirect (given.getD 1) direction false
        if ← accept '>' then return of .append
        else if ← accept '|' then return of .replace
        else if ← accept '&' then return of .copy
        else return of .write
      | some given, some '<' => do
        let _ ← takeRaw
        let of (direction : Direction) : Token := .redirect (given.getD 0) direction false
        if ← accept '<' then return .redirect (given.getD 0) .here (← accept '-')
        else if ← accept '&' then return of .copy
        else if ← accept '>' then return of .both
        else return of .read
      | _, _ => return .word parts

/-- takes the parts of a word, with what ends them unless that is the end of a word -/
def readParts : Nat → Extent → Reading Word
  | 0, _ => fail .tooDeep
  | fuel + 1, extent => do
    let more (parts : Word) : Reading Word := do return parts ++ (← readParts fuel extent)
    match ← peek with
    | none => match extent.unclosed? with
      | some cause => fail cause
      | none => return []
    | some c =>
      if extent == .word && endsWord c then return []
      else do
        let _ ← takeRaw
        match c with
        | '\\' => do
          match ← takeRaw with
          | none => more [.fixed ['\\']]
          | some d => more [.fixed (if extent.escapes d then [d] else ['\\', d])]
        | '\'' =>
          if extent.quoted then more [.fixed [c]]
          else do
            let s ← get
            match takeQuoted s.rest with
            | none => do
              set { s with line := s.line + s.rest.count '\n' }
              fail .unclosedQuote
            | some (body, rest) => do
              set { s with rest, line := s.line + body.count '\n' }
              more [.fixed body]
        | '"' =>
          match extent with
          | .quotes => return []
          | .arithmetic => more [.fixed [c]]
          | .here => more [.fixed [c]]
          | _ => do
            let parts ← readParts fuel .quotes
            more (.fixed [] :: parts)
        | '\x7d' =>
          match extent with
          | .brace .. => return []
          | _ => more [partOf extent.quoted c]
        | '$' => do
          let part ← readDollar fuel extent
          more [part]
        | '\x60' => do
          let s ← get
          match takeBackquoted extent.quoted s.rest with
          | none => do
            set { s with line := s.line + s.rest.count '\n' }
            fail .unclosedBackquote
          | some (body, rest) => do
            set (Source.ofText s.aliases body)
            let statements ← readList fuel false true
            set { s with rest, line := s.line + (s.rest.count '\n' - rest.count '\n') }
            more [.output extent.quoted statements]
        | '(' =>
          if extent == .arithmetic then do
            let inside ← readParenthesis fuel
            more (.fixed ['('] :: inside)
          else more [partOf extent.quoted c]
        | ')' =>
          if extent == .arithmetic then do
            if ← accept ')' then return [] else more [.fixed [c]]
          else more [partOf extent.quoted c]
        | c => more [partOf extent.quoted c]

/-- takes the rest of a parenthesis inside an arithmetic expansion, its end included -/
def readParenthesis : Nat → Reading Word
  | 0 => fail .tooDeep
  | fuel + 1 => do
    let more (parts : Word) : Reading Word := do return parts ++ (← readParenthesis fuel)
    match ← peek with
    | none => fail .unclosedArithmetic
    | some '(' => do
      let _ ← takeRaw
      let inside ← readParenthesis fuel
      more (.fixed ['('] :: inside)
    | some ')' => do
      let _ ← takeRaw
      return [.fixed [')']]
    | some '$' => do
      let _ ← takeRaw
      let part ← readDollar fuel .arithmetic
      more [part]
    | some c => do
      let _ ← takeRaw
      more [.fixed [c]]

/-- takes an expansion, after its dollar sign -/
def readDollar : Nat → Extent → Reading Part
  | 0, _ => fail .tooDeep
  | fuel + 1, extent => do
    match ← peek with
    | some '(' => do
      let _ ← takeRaw
      if ← accept '(' then return .arithmetic extent.quoted (← readParts fuel .arithmetic)
      else do
        let statements ← readList fuel false true
        let token ← readToken fuel false false
        if token.isMark ")" then return .output extent.quoted statements else unexpected token (some "\")\"")
    | some '\x7b' => do
      let _ ← takeRaw
      let (name, change) ← readBracedStart fuel
      if change == .keep then return .parameter extent.quoted name .keep []
      else do
        let cuts := match change with
          | .dropStart _ => true
          | .dropEnd _ => true
          | _ => false
        return .parameter extent.quoted name change (← readParts fuel (extent.inner cuts))
    | some c =>
      if isNameChar c && !c.isDigit then return .parameter extent.quoted (← takeWhile isNameChar fuel) .keep []
      else if isSpecial c then do
        let _ ← takeRaw
        return .parameter extent.quoted [c] .keep []
      else return partOf extent.quoted '$'
    | none => return partOf extent.quoted '$'

/-- takes what a redirection leads to -/
def readTarget : Nat → Nat → Direction → Bool → Reading Redirect
  | 0, _, _, _ => fail .tooDeep
  | fuel + 1, descriptor, direction, dropTabs => do
    if direction == .here then do
      dropGap
      let s ← get
      match takeMark s.rest with
      | none => do
        set { s with line := s.line + s.rest.count '\n' }
        fail .unclosedQuote
      | some ((mark, quoted), rest) =>
        if mark.isEmpty && !quoted then do
          unexpected (← readToken fuel false false) none
        else do
          let ((body, rest), lines) := takeHere mark dropTabs rest
          let after := { s with rest, owed := s.owed + lines }
          if quoted then do
            set after
            return .mk descriptor .here [.fixed body]
          else do
            set { Source.ofText s.aliases body with line := s.line + s.owed + 1 }
            let parts ← readParts fuel .here
            set after
            return .mk descriptor .here parts
    else do
      match ← readToken fuel false false with
      | .word word => return .mk descriptor direction word
      | token => unexpected token none

/-- takes the redirections that follow a compound command -/
def readRedirects : Nat → Reading (List Redirect)
  | 0 => fail .tooDeep
  | fuel + 1 => do
    match ← readToken fuel false true with
    | .redirect descriptor direction dropTabs => do
      let redirect ← readTarget fuel descriptor direction dropTabs
      return redirect :: (← readRedirects fuel)
    | token => do
      hold token
      return []

/-- takes the assignments, words and redirections of a simple command, or the function that begins like one. What was
taken so far is given backwards. -/
def readSimple : Nat → Nat → List (Octets × Word) → List Word → List Redirect → Reading Statement
  | 0, _, _, _, _ => fail .tooDeep
  | fuel + 1, line, assigns, words, redirects => do
    let fresh := (← get).held.isNone
    let token ← readToken fuel false false
    let finish : Reading Statement := do
      hold token
      return .simple line assigns.reverse words.reverse redirects.reverse
    match token with
    | .word word =>
      match words, assignment? word with
      | [], some assign => readSimple fuel line (assign :: assigns) words redirects
      | [], none => do
        if fresh then
          if ← replaceAlias word then readSimple fuel line assigns words redirects
          else readSimple fuel line assigns [word] redirects
        else readSimple fuel line assigns [word] redirects
      | _, _ => readSimple fuel line assigns (word :: words) redirects
    | .redirect descriptor direction dropTabs => do
      let redirect ← readTarget fuel descriptor direction dropTabs
      readSimple fuel line assigns words (redirect :: redirects)
    | .mark "(" =>
      match assigns, words, redirects with
      | [], [word], [] => do
        let token ← readToken fuel false false
        if !token.isMark ")" then unexpected token (some "\")\"")
        else match literal? word with
          | some name =>
            if isQuoted word || !isName name || specialNames.contains (String.ofList name) then fail .functionName
            else return .function name (← readCommand fuel true)
          | none => fail .functionName
      | _, _, _ => finish
    | _ => finish

/-- takes a mark that has to follow -/
def expect : Nat → String → Reading Unit
  | 0, _ => fail .tooDeep
  | fuel + 1, text => do
    let token ← readToken fuel false false
    if token.isMark text then return else unexpected token (some ("\"" ++ text ++ "\""))

/-- takes words up to the end of the line or a semicolon -/
def readWords : Nat → Reading (List Word)
  | 0 => fail .tooDeep
  | fuel + 1 => do
    match ← readToken fuel false false with
    | .word word => return word :: (← readWords fuel)
    | .newline => return []
    | token => if token.isMark ";" then return [] else unexpected token none

/-- takes the rest of an `if`, after that word -/
def readBranch : Nat → Reading Statement
  | 0 => fail .tooDeep
  | fuel + 1 => do
    let condition ← readList fuel false false
    expect fuel "then"
    let body ← readList fuel false false
    let token ← readToken fuel false false
    if token.isMark "elif" then return .branch condition body [← readBranch fuel]
    else if token.isMark "else" then do
      let otherwise ← readList fuel false false
      expect fuel "fi"
      return .branch condition body otherwise
    else if token.isMark "fi" then return .branch condition body []
    else unexpected token (some "\"fi\"")

/-- takes the patterns of a case, up to their parenthesis. The first of them was taken, as a token. -/
def readPatterns : Nat → Token → Reading (List Word)
  | 0, _ => fail .tooDeep
  | fuel + 1, first => do
    let word : Word := match first with
      | .word w => w
      | .mark t => t.toList.map .plain
      | _ => []
    let token ← readToken fuel false false
    if token.isMark "|" then do
      let next ← readToken fuel false false
      return word :: (← readPatterns fuel next)
    else if token.isMark ")" then return [word]
    else unexpected token (some "\")\"")

/-- takes the cases of a choice, up to its end -/
def readCases : Nat → Reading (List (List Word × List Statement))
  | 0 => fail .tooDeep
  | fuel + 1 => do
    let token ← readToken fuel true true
    if token.isMark "esac" then return []
    else do
      let first ← if token.isMark "(" then readToken fuel false false else pure token
      let patterns ← readPatterns fuel first
      let body ← readList fuel false true
      let token ← readToken fuel true true
      if token.isMark "esac" then return [(patterns, body)]
      else if token.isMark ";;" then return (patterns, body) :: (← readCases fuel)
      else unexpected token (some "\";;\"")

/-- takes a command: a compound one, a function, or a simple one -/
def readCommand : Nat → Bool → Reading Statement
  | 0, _ => fail .tooDeep
  | fuel + 1, newlines => do
    let line := (← get).line
    let token ← readToken fuel newlines true
    let finish (statement : Statement) : Reading Statement := do
      match ← readRedirects fuel with
      | [] => return statement
      | redirects => match statement with
        | .subshell line body _ => return .subshell line body redirects
        | statement => return .redirected line statement redirects
    let loopOf (ends : Bool) : Reading Statement := do
      let condition ← readList fuel false false
      expect fuel "do"
      let body ← readList fuel false false
      expect fuel "done"
      return .loop ends condition body
    match token with
    | .mark "if" => do finish (← readBranch fuel)
    | .mark "while" => do finish (← loopOf false)
    | .mark "until" => do finish (← loopOf true)
    | .mark "for" => do
      let name ← match ← readToken fuel false false with
        | .word word =>
          match literal? word with
          | some name => if isQuoted word || !isName name then fail .loopVariable else pure name
          | none => fail .loopVariable
        | _ => fail .loopVariable
      let token ← readToken fuel true true
      let words ← if token.isMark "in" then do pure (some (← readWords fuel))
        else do
          if !token.isMark ";" then hold token
          pure none
      let token ← readToken fuel true true
      if !token.isMark "do" then unexpected token (some "\"do\"")
      else do
        let body ← readList fuel false false
        expect fuel "done"
        finish (.each line name words body)
    | .mark "case" => do
      match ← readToken fuel false false with
      | .word word => do
        let token ← readToken fuel true true
        if !token.isMark "in" then unexpected token (some "\"in\"")
        else do
          let cases ← readCases fuel
          finish (.choice line word cases)
      | token => unexpected token (some "word")
    | .mark "(" => do
      let body ← readList fuel false false
      expect fuel ")"
      finish (.subshell line body [])
    | .mark "\x7b" => do
      let body ← readList fuel false false
      expect fuel "\x7d"
      finish (.group body)
    | .word _ => do
      hold token
      readSimple fuel (← get).line [] [] []
    | .redirect .. => do
      hold token
      readSimple fuel (← get).line [] [] []
    | token => unexpected token none

/-- takes commands with bars between them -/
def readStages : Nat → Bool → Reading (List Statement)
  | 0, _ => fail .tooDeep
  | fuel + 1, newlines => do
    let stage ← readCommand fuel newlines
    let token ← readToken fuel false false
    if token.isMark "|" then return stage :: (← readStages fuel true)
    else do
      hold token
      return [stage]

/-- takes a pipeline -/
def readPipeline : Nat → Bool → Reading Statement
  | 0, _ => fail .tooDeep
  | fuel + 1, newlines => do
    let token ← readToken fuel newlines true
    let negated := token.isMark "!"
    if !negated then hold token
    match ← readStages fuel false with
    | [stage] => return if negated then .pipeline true [stage] else stage
    | stages => return .pipeline negated stages

/-- takes what joins a statement with pipelines that follow -/
def readJoined : Nat → Statement → Reading Statement
  | 0, _ => fail .tooDeep
  | fuel + 1, first => do
    let token ← readToken fuel false false
    if token.isMark "&&" then do readJoined fuel (.both first (← readPipeline fuel true))
    else if token.isMark "||" then do readJoined fuel (.either first (← readPipeline fuel true))
    else do
      hold token
      return first

/-- takes statements: those on a line, or those up to the end of a compound command. `mayEnd` says that they may end
here already. -/
def readList : Nat → Bool → Bool → Reading (List Statement)
  | 0, _, _ => fail .tooDeep
  | fuel + 1, onLine, mayEnd => do
    let token ← readToken fuel (!onLine) true
    match token with
    | .newline => return []
    | .eof => do
      hold .eof
      return []
    | _ => do
      hold token
      if !onLine && mayEnd && token.closes then return []
      else do
        let first ← readPipeline fuel false
        let statement ← readJoined fuel first
        let token ← readToken fuel false false
        match token with
        | .eof => do
          hold .eof
          return [statement]
        | .newline => do
          hold .newline
          return statement :: (← readList fuel onLine true)
        | .mark "&" => return .background statement :: (← readList fuel onLine true)
        | .mark ";" => return statement :: (← readList fuel onLine true)
        | token =>
          if onLine then unexpected token none
          else do
            hold token
            return [statement]

end

/-- a bound on the calls that reading a source takes -/
def Source.bound (s : Source) : Nat :=
  let longest := s.aliases.entries.foldl (fun n e => n + e.2.length + 1) 1
  40 * (s.rest.length * longest) + 100

/-- the statements of a line with what follows; none are left when the source is at its end -/
def readLine (s : Source) : Except Fault (List Statement × Source) := (readList s.bound true false).run s

/-- whether a source has nothing left but what was read already -/
def Source.atEnd (s : Source) : Bool :=
  match s.held with
  | some .eof => true
  | some _ => false
  | none => s.rest.isEmpty

end ScriptBridge.Shell
