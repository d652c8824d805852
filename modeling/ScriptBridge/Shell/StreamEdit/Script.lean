/-
Scripts of the stream editor. A script is a row of commands, each for the lines that its addresses choose; blocks and
labels are places in the row. `readScript` reads one, and says at which character it went wrong.
-/
import ScriptBridge.Shell.Regex

namespace ScriptBridge.Shell.StreamEdit

/-- a regular expression with how it is compared; none stands for the one that was used last -/
abbrev Wanted := Option Regex × RegexMode

/-- an address of a line -/
inductive Address where
  | line (n : Nat)
  | steps (first step : Nat)
  | last
  | matching (wanted : Wanted)
  | further (n : Nat)
  | multiple (n : Nat)
deriving Inhabited

/-- how letters are changed in a replacement -/
inductive CaseChange where
  | upper
  | lower
  | upperNext
  | lowerNext
  | over
deriving DecidableEq

/-- a part of a replacement; group zero is the whole match -/
inductive FillPart where
  | text (o : Octets)
  | group (n : Nat)
  | letters (change : CaseChange)

/-- a substitution: from which match on, whether all that follow, how often the result is printed, and a file that it is
written to -/
structure Substitution where
  wanted : Wanted
  fill : List FillPart
  nth : Nat
  every : Bool
  prints : Nat
  target : Option Octets

/-- what a command does. A block holds the place after its end, a branch the place of its label; a branch without a
label goes to the end. -/
inductive Action where
  | block (after : Nat)
  | close
  | label (name : Octets)
  | delete
  | deleteFirst
  | print
  | printFirst
  | next
  | nextAppended
  | hold
  | holdAppended
  | fetch
  | fetchAppended
  | swap
  | empty
  | append (o : Octets)
  | insert (o : Octets)
  | change (o : Octets)
  | number
  | fileName
  | list (width : Option Nat)
  | quit (status : Nat)
  | quitSilently (status : Nat)
  | readFile (name : Octets)
  | readLine (name : Octets)
  | write (name : Octets)
  | writeFirst (name : Octets)
  | substitute (s : Substitution)
  | exchange (source target : Octets)
  | branch (name : Octets) (target : Option Nat)
  | branchIf (name : Octets) (target : Option Nat)
  | branchUnless (name : Octets) (target : Option Nat)
  | nothing

/-- a command with its addresses -/
structure Command where
  first : Option Address
  second : Option Address
  negated : Bool
  action : Action

/-- what is left of a script, and how many characters were taken -/
structure Source where
  rest : Octets
  taken : Nat

/-- a fault in a script: after how many characters, unless it is told without its place, and what is wrong -/
structure Fault where
  place : Option Nat
  message : Octets

/-- a reader of a script -/
abbrev Reading (α : Type) := StateT Source (Except Fault) α

/-- gives up at what was taken last -/
def fail {α : Type} (message : String) : Reading α := do throw ⟨some (← get).taken, octets message⟩

/-- the next character, which is not taken -/
def peek : Reading (Option Char) := do return (← get).rest.head?

/-- takes the next character -/
def next : Reading (Option Char) := do
  let s ← get
  match s.rest with
  | c :: rest => do
    set (⟨rest, s.taken + 1⟩ : Source)
    return some c
  | [] => return none

/-- takes characters while they pass a test -/
def takeWhile (p : Char → Bool) : Reading Octets := do
  let s ← get
  let o := s.rest.takeWhile p
  set (⟨s.rest.drop o.length, s.taken + o.length⟩ : Source)
  return o

/-- whether a character is a blank within a line -/
def isBlank (c : Char) : Bool := isGap c && c != '\n'

/-- takes a whole number, if one comes next -/
def takeNumber : Reading (Option Nat) := do
  let digits ← takeWhile Char.isDigit
  return if digits.isEmpty then none else some (digitsIn 10 digits).1

/-- how many characters there are up to a mark with a closing bracket, both included -/
def classLength (mark : Char) (n : Nat) : Octets → Option Nat
  | c :: d :: rest => if c == mark && d == ']' then some (n + 2) else classLength mark (n + 1) (d :: rest)
  | _ => none

/-- how many characters a bracketed set has after its start; all that are left when it is not closed -/
def restOfSet : Nat → Octets → Nat
  | 0, _ => 0
  | _, [] => 0
  | _, ']' :: _ => 1
  | fuel + 1, c :: rest =>
    let inner := match c, rest with
      | '[', mark :: rest =>
        if mark == ':' || mark == '.' || mark == '=' then (classLength mark 0 rest).map (· + 1) else none
      | _, _ => none
    match inner with
    | some n => 1 + n + restOfSet fuel (rest.drop n)
    | none => 1 + restOfSet fuel rest

/-- how many characters a bracketed set has, after its opening bracket -/
def setLength (o : Octets) : Nat :=
  let negated := if o.head? == some '^' then 1 else 0
  let first := if (o.drop negated).head? == some ']' then 1 else 0
  negated + first + restOfSet (o.length + 1) (o.drop (negated + first))

/-- takes a text up to a mark. An escaped mark stands for itself, other escapes are kept; in a pattern a mark between
brackets does not count. Gives none when the mark does not come. -/
def takeDelimited (mark : Char) (pattern : Bool) : Nat → Reading (Option Octets)
  | 0 => return none
  | fuel + 1 => do
    let more (o : Octets) : Reading (Option Octets) := do
      return (← takeDelimited mark pattern fuel).map (o ++ ·)
    match ← next with
    | none => return none
    | some '\\' =>
      match ← next with
      | none => return none
      | some c =>
        if c == mark then more [c]
        else if c == '\n' && pattern then more ['\n']
        else more ['\\', c]
    | some c =>
      if c == mark then return some []
      else if c == '\n' && pattern then return none
      else if c == '[' && pattern then do
        let s ← get
        let n := setLength s.rest
        set (⟨s.rest.drop n, s.taken + (s.rest.take n).length⟩ : Source)
        more (c :: s.rest.take n)
      else more [c]

/-- characters given by their numbers in place of escapes; one that would be special stays escaped -/
def withNumbers (special : String) : Nat → Octets → Octets
  | 0, o => o
  | _, [] => []
  | fuel + 1, '\\' :: kind :: rest =>
    let (base, most) := match kind with
      | 'x' => (16, 2)
      | 'o' => (8, 3)
      | 'd' => (10, 3)
      | _ => (0, 0)
    let (n, length) := digitsIn base (rest.take most)
    if most = 0 || length = 0 then '\\' :: kind :: withNumbers special fuel rest
    else
      let c := Char.ofNat (n % 256)
      (if special.toList.contains c then ['\\', c] else [c]) ++ withNumbers special fuel (rest.drop length)
  | fuel + 1, c :: rest => c :: withNumbers special fuel rest

/-- the regular expression that a text is; an empty one stands for the last one -/
def wantedOf (extended : Bool) (mode : RegexMode) (o : Octets) : Reading (Wanted × Nat) := do
  if o.isEmpty then return ((none, mode), 9)
  else match Regex.read (.editing extended) (withNumbers "^$*.[]\\\x7b\x7d+?()|" (o.length + 1) o) with
    | .ok (r, groups) => return ((some r, mode), groups)
    | .error .classAlone => throw ⟨none, octets RegexFault.classAlone.message⟩
    | .error fault => fail fault.message

/-- takes an address, if one comes next -/
def takeAddress (extended : Bool) (isSecond : Bool) : Reading (Option Address) := do
  let pattern (mark : Char) : Reading (Option Address) := do
    match ← takeDelimited mark true ((← get).rest.length + 1) with
    | none => fail "unterminated address regex"
    | some o => do
      let flags ← takeWhile fun c => c == 'I' || c == 'M'
      let (wanted, _) ← wantedOf extended ⟨flags.contains 'I', flags.contains 'M'⟩ o
      return some (.matching wanted)
  let counted (make : Nat → Address) : Reading (Option Address) := do
    let _ ← next
    match ← takeNumber with
    | some n => return some (make n)
    | none => fail "expected number"
  let startsNowhere : Reading (Option Address) := do
    let _ ← next
    let _ ← takeNumber
    fail "invalid usage of +N or ~N as first address"
  match ← peek with
  | some '/' => do
    let _ ← next
    pattern '/'
  | some '\\' => do
    let _ ← next
    match ← next with
    | some mark => pattern mark
    | none => fail "unexpected end"
  | some '$' => do
    let _ ← next
    return some .last
  | some '+' => if isSecond then counted .further else startsNowhere
  | some '~' => if isSecond then counted .multiple else startsNowhere
  | _ =>
    match ← takeNumber with
    | none => return none
    | some n =>
      if (← peek) == some '~' && !isSecond then do
        let _ ← next
        return some (.steps n ((← takeNumber).getD 0))
      else return some (.line n)

/-- a character after a backslash in text -/
def textEscape (c : Char) : Char :=
  match c with
  | 'a' => Char.ofNat 7
  | 'f' => Char.ofNat 12
  | 'n' => '\n'
  | 'r' => '\r'
  | 't' => '\t'
  | 'v' => Char.ofNat 11
  | c => c

/-- takes a text up to the end of its line; a backslash joins the next line -/
def takeText : Nat → Reading Octets
  | 0 => return []
  | fuel + 1 => do
    match ← next with
    | none => return []
    | some '\n' => return []
    | some '\\' =>
      match ← next with
      | none => return []
      | some c => return textEscape c :: (← takeText fuel)
    | some c => return c :: (← takeText fuel)

/-- takes the text of a command that adds text. It begins on the next line after a backslash, or else on the same. -/
def takeAdded : Reading Octets := do
  let _ ← takeWhile isBlank
  match ← peek with
  | none => fail "expected \\ after \x60a', \x60c' or \x60i'"
  | some '\\' => do
    let s ← get
    let _ ← next
    let gap ← takeWhile isBlank
    match ← peek with
    | some '\n' => do
      let _ ← next
      pure ()
    | none => pure ()
    | some _ =>
      if gap.isEmpty then pure () else set (⟨s.rest.drop 1, s.taken + 1⟩ : Source)
  | some _ => pure ()
  let s ← get
  if s.rest.isEmpty then return []
  else return withNumbers "" (s.rest.length + 1) (← takeText (s.rest.length + 1)) ++ ['\n']

/-- the parts of a replacement -/
def fillParts : Nat → Octets → List FillPart
  | 0, _ => []
  | _, [] => []
  | fuel + 1, '&' :: rest => .group 0 :: fillParts fuel rest
  | fuel + 1, '\\' :: c :: rest =>
    let part : FillPart :=
      if c.isDigit then .group (c.toNat - 48)
      else match c with
        | 'U' => .letters .upper
        | 'L' => .letters .lower
        | 'u' => .letters .upperNext
        | 'l' => .letters .lowerNext
        | 'E' => .letters .over
        | c => .text [textEscape c]
    part :: fillParts fuel rest
  | fuel + 1, c :: rest =>
    let run := (c :: rest).takeWhile fun c => c != '&' && c != '\\'
    if run.isEmpty then .text [c] :: fillParts fuel rest else .text run :: fillParts fuel (rest.drop (run.length - 1))

/-- takes the name of a file up to the end of the line -/
def takeFileName : Reading Octets := do
  let _ ← takeWhile isBlank
  let name ← takeWhile (· != '\n')
  if name.isEmpty then fail "missing filename in r/R/w/W commands" else return name

/-- flags of a substitution -/
structure SubstitutionFlags where
  mode : RegexMode
  nth : Option Nat
  every : Bool
  prints : Nat
  target : Option Octets

/-- takes the flags of a substitution -/
def takeFlags : Nat → SubstitutionFlags → Reading SubstitutionFlags
  | 0, f => return f
  | fuel + 1, f => do
    match ← peek with
    | none => return f
    | some '\n' => return f
    | some ';' => return f
    | some '\x7d' => return f
    | some '#' => return f
    | some c => do
      if c.isDigit then
        match ← takeNumber with
        | some 0 => fail "number option to \x60s' command may not be zero"
        | some n =>
          if f.nth.isSome then fail "multiple number options to \x60s' command"
          else takeFlags fuel { f with nth := some n }
        | none => return f
      else do
        let _ ← next
        match c with
        | 'g' => if f.every then fail "multiple \x60g' options to \x60s' command" else takeFlags fuel { f with every := true }
        | 'p' =>
          if 0 < f.prints then fail "multiple \x60p' options to \x60s' command" else takeFlags fuel { f with prints := 1 }
        | 'i' => takeFlags fuel { f with mode := { f.mode with foldCase := true } }
        | 'I' => takeFlags fuel { f with mode := { f.mode with foldCase := true } }
        | 'm' => takeFlags fuel { f with mode := { f.mode with multiline := true } }
        | 'M' => takeFlags fuel { f with mode := { f.mode with multiline := true } }
        | 'w' => do return { f with target := some (← takeFileName) }
        | c => if isBlank c then takeFlags fuel f else fail "unknown option to \x60s'"

/-- takes a substitution, after its letter -/
def takeSubstitution (extended : Bool) : Reading Action := do
  let unterminated {α : Type} : Reading α := fail "unterminated \x60s' command"
  match ← next with
  | none => unterminated
  | some mark => do
    let fuel := (← get).rest.length + 1
    match ← takeDelimited mark true fuel with
    | none => do
      let _ ← takeWhile fun _ => true
      unterminated
    | some pattern =>
      match ← takeDelimited mark false fuel with
      | none => unterminated
      | some text => do
        let flags ← takeFlags fuel ⟨⟨false, false⟩, none, false, 0, none⟩
        let (wanted, groups) ← wantedOf extended flags.mode pattern
        let text := withNumbers "&\\\n" (text.length + 1) text
        let fill := fillParts (text.length + 1) text
        let wrong := fill.findSome? fun
          | .group n => if groups < n then some n else none
          | _ => none
        match wrong with
        | some n => fail ("invalid reference \\" ++ toString n ++ " on \x60s' command's RHS")
        | none => return .substitute ⟨wanted, fill, flags.nth.getD 1, flags.every, flags.prints, flags.target⟩

/-- characters of an exchange with their escapes replaced; `none` when one is unknown -/
def exchanged : Octets → Octets
  | '\\' :: '\\' :: rest => '\\' :: exchanged rest
  | '\\' :: 'n' :: rest => '\n' :: exchanged rest
  | '\\' :: 't' :: rest => '\t' :: exchanged rest
  | '\\' :: 'r' :: rest => '\r' :: exchanged rest
  | c :: rest => c :: exchanged rest
  | [] => []

/-- takes an exchange of characters, after its letter -/
def takeExchange : Reading Action := do
  let unterminated {α : Type} : Reading α := fail "unterminated \x60y' command"
  match ← next with
  | none => unterminated
  | some mark => do
    let fuel := (← get).rest.length + 1
    match ← takeDelimited mark false fuel with
    | none => unterminated
    | some source =>
      match ← takeDelimited mark false fuel with
      | none => unterminated
      | some target =>
        let (source, target) := (exchanged source, exchanged target)
        if source.length != target.length then fail "strings for \x60y' command are different lengths"
        else return .exchange source target

/-- takes a label -/
def takeLabel : Reading Octets := do
  let _ ← takeWhile isBlank
  takeWhile fun c => !isGap c && c != ';'

/-- takes what has to follow a command -/
def takeEnd : Reading Unit := do
  let _ ← takeWhile isBlank
  match ← peek with
  | none => pure ()
  | some '\x7d' => pure ()
  | some '#' => pure ()
  | some c => do
    let _ ← next
    if c != '\n' && c != ';' then fail "extra characters after command"

/-- takes a command, after its addresses and its letter -/
def takeAction (extended : Bool) (letter : Char) : Reading Action := do
  let simple (a : Action) : Reading Action := do
    takeEnd
    return a
  let branching (make : Octets → Option Nat → Action) : Reading Action := do
    let name ← takeLabel
    simple (make name none)
  let coded (make : Nat → Action) : Reading Action := do
    let _ ← takeWhile isBlank
    let n ← takeNumber
    simple (make (n.getD 0))
  match letter with
  | '\x7b' => return .block 0
  | '=' => simple .number
  | 'a' => return .append (← takeAdded)
  | 'i' => return .insert (← takeAdded)
  | 'c' => return .change (← takeAdded)
  | ':' => do
    let name ← takeLabel
    if name.isEmpty then fail "\":\" lacks a label" else return .label name
  | 'b' => branching .branch
  | 't' => branching .branchIf
  | 'T' => branching .branchUnless
  | 'd' => simple .delete
  | 'D' => simple .deleteFirst
  | 'F' => simple .fileName
  | 'g' => simple .fetch
  | 'G' => simple .fetchAppended
  | 'h' => simple .hold
  | 'H' => simple .holdAppended
  | 'l' => do
    let _ ← takeWhile isBlank
    let n ← takeNumber
    simple (.list n)
  | 'n' => simple .next
  | 'N' => simple .nextAppended
  | 'p' => simple .print
  | 'P' => simple .printFirst
  | 'q' => coded .quit
  | 'Q' => coded .quitSilently
  | 'r' => return .readFile (← takeFileName)
  | 'R' => return .readLine (← takeFileName)
  | 'w' => return .write (← takeFileName)
  | 'W' => return .writeFirst (← takeFileName)
  | 's' => do
    let a ← takeSubstitution extended
    simple a
  | 'v' => do
    let _ ← takeLabel
    simple .nothing
  | 'x' => simple .swap
  | 'y' => do
    let a ← takeExchange
    simple a
  | 'z' => simple .empty
  | c => fail ("unknown command: \x60" ++ String.ofList [c] ++ "'")

/-- whether a command may have no more than one address -/
def onlyOne : Action → Bool
  | .quit _ => true
  | .quitSilently _ => true
  | _ => false

/-- takes the commands of a script, the last one first; `blocks` are the places of the blocks that are open -/
def takeCommands (extended : Bool) : Nat → List Nat → List Command → Reading (List Command)
  | 0, _, done => return done
  | fuel + 1, blocks, done => do
    let _ ← takeWhile fun c => isGap c || c == ';'
    match ← peek with
    | none =>
      if blocks.isEmpty then return done
      else throw ⟨some 0, octets "unmatched \x60\x7b'"⟩
    | some '#' => do
      let _ ← takeWhile (· != '\n')
      takeCommands extended fuel blocks done
    | some _ => do
      let first ← takeAddress extended false
      let _ ← if first.isSome then takeWhile isBlank else pure []
      let second ← if first.isSome && (← peek) == some ',' then do
          let _ ← next
          let _ ← takeWhile isBlank
          match ← takeAddress extended true with
          | some a => pure (some a)
          | none => do
            let _ ← next
            fail "unexpected \x60,'"
        else pure none
      match first, second with
      | some (.line 0), some (.matching _) => pure ()
      | some (.line 0), _ => do
        let _ ← next
        fail "invalid usage of line address 0"
      | _, _ => pure ()
      let _ ← takeWhile isBlank
      let negated := (← peek) == some '!'
      if negated then do
        let _ ← next
        let _ ← takeWhile isBlank
        if (← peek) == some '!' then do
          let _ ← next
          fail "multiple \x60!'s"
      match ← next with
      | none => fail "missing command"
      | some '\x7d' =>
        match blocks with
        | [] => fail "unexpected \x60\x7d'"
        | start :: blocks => do
          if first.isSome then fail "\x7d doesn't want any addresses"
          takeEnd
          let place := done.length
          let opened := done.reverse.zipIdx.map fun (c, k) =>
            if k = start then { c with action := .block (place + 1) } else c
          takeCommands extended fuel blocks (⟨none, none, false, .close⟩ :: opened.reverse)
      | some letter => do
        if letter == '\n' || letter == ';' then fail "missing command"
        if letter == ':' && first.isSome then fail ": doesn't want any addresses"
        let action ← takeAction extended letter
        if onlyOne action && second.isSome then fail "command only uses one address"
        let blocks := match action with
          | .block _ => done.length :: blocks
          | _ => blocks
        takeCommands extended fuel blocks (⟨first, second, negated, action⟩ :: done)

/-- the commands with the places of their labels; a label that is not there is given in their place -/
def resolved (commands : List Command) : Except Octets (List Command) :=
  let place (name : Octets) : Except Octets (Option Nat) :=
    if name.isEmpty then .ok none
    else match commands.findIdx? fun c => match c.action with
      | .label n => n == name
      | _ => false with
    | some k => .ok (some k)
    | none => .error name
  commands.mapM fun c => do
    match c.action with
    | .branch name _ => return { c with action := .branch name (← place name) }
    | .branchIf name _ => return { c with action := .branchIf name (← place name) }
    | .branchUnless name _ => return { c with action := .branchUnless name (← place name) }
    | _ => return c

/-- the commands of a script -/
def readScript (extended : Bool) (o : Octets) : Except Fault (List Command) := do
  let (commands, _) ← (takeCommands extended (o.length + 1) [] []).run ⟨o, 0⟩
  return commands.reverse

end ScriptBridge.Shell.StreamEdit
