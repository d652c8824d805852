/-
Regular expressions. A search finds the match that begins first, and of those the longest one; of several ways to the
same match the one counts that takes more, and earlier choices, first.

A regular expression is read in two steps: its text is cut into tokens, in which special characters and escapes are
told apart, and the tokens are put together. A `RegexStyle` says how the text is written.
-/
import ScriptBridge.Shell.Numeral
import ScriptBridge.Shell.Pattern

namespace ScriptBridge.Shell

/-- a place between characters that is matched without taking any -/
inductive Edge where
  | start
  | stop
  | textStart
  | textStop
  | wordStart
  | wordStop
  | wordEdge
  | inside
  | afterNoWord
  | beforeNoWord
deriving DecidableEq

/-- a regular expression -/
inductive Regex where
  | one (c : Char)
  | any
  | among (negated : Bool) (items : List SetItem)
  | edge (e : Edge)
  | group (index : Nat) (body : Regex)
  | again (index : Nat)
  | repeated (least : Nat) (most : Option Nat) (body : Regex)
  | sequence (items : List Regex)
  | choice (first second : Regex)
deriving Inhabited

/-! ## Matching -/

/-- how characters are compared: whether case counts, and whether a text has several lines -/
structure RegexMode where
  foldCase : Bool
  multiline : Bool

/-- where a match has got to: the characters before, the last one first, with their number, the rest, and the groups
that were matched -/
structure Matching where
  before : Octets
  place : Nat
  rest : Octets
  groups : List (Nat × Octets)

namespace Matching

/-- the place before a text -/
def atStart (o : Octets) : Matching := ⟨[], 0, o, []⟩

/-- the text between an earlier place and this one -/
def since (m earlier : Matching) : Octets := (m.before.take (m.place - earlier.place)).reverse

/-- whether a character belongs to a word -/
def isWordChar (c : Char) : Bool := c.isAlphanum || c == '_'

/-- whether a place is at an edge -/
def isAt (m : Matching) (multiline : Bool) (e : Edge) : Bool :=
  let wordBefore := (m.before.head?.map isWordChar).getD false
  let wordAfter := (m.rest.head?.map isWordChar).getD false
  match e with
  | .start => m.place = 0 || (multiline && m.before.head? == some '\n')
  | .stop => m.rest.isEmpty || (multiline && m.rest.head? == some '\n')
  | .textStart => m.place = 0
  | .textStop => m.rest.isEmpty
  | .wordStart => !wordBefore && wordAfter
  | .wordStop => wordBefore && !wordAfter
  | .wordEdge => wordBefore != wordAfter
  | .inside => wordBefore == wordAfter
  | .afterNoWord => !wordBefore
  | .beforeNoWord => !wordAfter

/-- of ways that end at one place the first one -/
def distinct (size : Nat) (ways : List Matching) : List Matching :=
  (ways.foldl (fun (acc : List Matching × Array Bool) m =>
    if (acc.2[m.place]?).getD true then acc else (m :: acc.1, acc.2.set! m.place true))
    ([], Array.replicate (size + 1) false)).1.reverse

end Matching

namespace Regex

/-- whether a regular expression takes exactly one character -/
def isSingle : Regex → Bool
  | one _ => true
  | any => true
  | among _ _ => true
  | _ => false

/-- whether an expression of one character has a character -/
def has (mode : RegexMode) (r : Regex) (c : Char) : Bool :=
  match r with
  | .one d => d == c || (mode.foldCase && d.toLower == c.toLower)
  | .any => true
  | .among negated items =>
    (inSet items c || (mode.foldCase && (inSet items c.toLower || inSet items c.toUpper))) != negated
  | _ => false

/-- the places after so many characters that pass a test, the last one first -/
def runs (p : Char → Bool) : Nat → Option Nat → Nat → Matching → List Matching → List Matching
  | 0, _, _, _, found => found
  | fuel + 1, most, taken, m, found =>
    if most == some taken then found
    else match m.rest with
      | c :: rest =>
        if p c then
          let next : Matching := ⟨c :: m.before, m.place + 1, rest, m.groups⟩
          runs p fuel most (taken + 1) next (next :: found)
        else found
      | [] => found

/-- the ways on over a regular expression, those that take more first. `steps` bounds the search, and `size` is the
length of the whole text; `exact` says that groups are looked at again, so that all ways count. -/
def ways (mode : RegexMode) (size : Nat) (exact : Bool) : Nat → Regex → Matching → List Matching
  | 0, _, _ => []
  | steps + 1, r, m =>
    let tidy (found : List Matching) : List Matching :=
      match found with
      | [] => []
      | [m] => [m]
      | found => if exact then found else Matching.distinct size found
    match r with
    | .edge e => if m.isAt mode.multiline e then [m] else []
    | .group index body =>
      (body.ways mode size exact steps m).map fun after =>
        { after with groups := (index, after.since m) :: after.groups }
    | .again index =>
      let t := (m.groups.lookup index).getD []
      if t.isPrefixOf m.rest then [⟨t.reverse ++ m.before, m.place + t.length, m.rest.drop t.length, m.groups⟩] else []
    | .repeated least most body =>
      if body.isSingle then
        (runs (body.has mode) (m.rest.length + 1) most 0 m [m]).filter fun after => m.place + least ≤ after.place
      else
        let onward := match most with
          | some 0 => []
          | _ => (body.ways mode size exact steps m).flatMap fun after =>
            if m.place < after.place then
              (Regex.repeated (least - 1) (most.map (· - 1)) body).ways mode size exact steps after
            else if least = 0 then [] else [after]
        tidy (if least = 0 then onward ++ [m] else onward)
    | .sequence [] => [m]
    | .sequence [item] => item.ways mode size exact steps m
    | .sequence (item :: items) =>
      tidy ((item.ways mode size exact steps m).flatMap fun after =>
        (Regex.sequence items).ways mode size exact steps after)
    | .choice first second => tidy (first.ways mode size exact steps m ++ second.ways mode size exact steps m)
    | single =>
      match m.rest with
      | c :: rest => if single.has mode c then [⟨c :: m.before, m.place + 1, rest, m.groups⟩] else []
      | [] => []

/-- whether a regular expression looks at its groups again -/
def looksBack : Nat → Regex → Bool
  | 0, _ => true
  | fuel + 1, r =>
    match r with
    | .again _ => true
    | .group _ body => body.looksBack fuel
    | .repeated _ _ body => body.looksBack fuel
    | .sequence items => items.any fun r => r.looksBack fuel
    | .choice a b => a.looksBack fuel || b.looksBack fuel
    | _ => false

/-- the longest match that begins at a place -/
def longest? (mode : RegexMode) (r : Regex) (m : Matching) : Option Matching :=
  let size := m.place + m.rest.length
  (r.ways mode size (r.looksBack 1000) (3000 + 4 * m.rest.length) { m with groups := [] }).foldl (fun best m =>
    match best with
    | none => some m
    | some b => if b.place < m.place then some m else some b) none

/-- the place without what was matched of it, one character on -/
def stepOn (m : Matching) : Option Matching :=
  match m.rest with
  | c :: rest => some ⟨c :: m.before, m.place + 1, rest, []⟩
  | [] => none

/-- the first match from a place on: where it begins and where it ends -/
def searchFrom (mode : RegexMode) (r : Regex) : Nat → Matching → Option (Matching × Matching)
  | 0, _ => none
  | fuel + 1, m =>
    match r.longest? mode m with
    | some stop => some (m, stop)
    | none => (stepOn m).bind (r.searchFrom mode fuel)

/-- the first match from a place on -/
def search (mode : RegexMode) (r : Regex) (m : Matching) : Option (Matching × Matching) :=
  r.searchFrom mode (m.rest.length + 1) m

/-- whether a text has a match -/
def found (mode : RegexMode) (r : Regex) (o : Octets) : Bool := (r.search mode (.atStart o)).isSome

end Regex

/-! ## Reading -/

/-- how regular expressions are written: whether special characters need no backslash, whether letters after a
backslash stand for words and edges, whether they stand for digits, which letters after a backslash stand for
characters, and whether that holds between brackets too; `loose` says that a parenthesis that closes nothing and a
brace without a count stand for themselves, and that a repetition may stand where there is nothing to repeat; `wary`
says that a set is refused that is written like the name of a class -/
structure RegexStyle where
  extended : Bool
  wordEscapes : Bool
  digitEscapes : Bool
  charEscapes : List (Char × Char)
  inBrackets : Bool
  loose : Bool
  wary : Bool

/-- what is wrong with a regular expression -/
inductive RegexFault where
  | bracket
  | className
  | classAlone
  | rangeEnd
  | opening
  | closing
  | interval
  | intervalContent
  | tooBig
  | backReference
  | preceding
  | trailing
  | unfinished
deriving DecidableEq

/-- the wording of a fault -/
def RegexFault.message : RegexFault → String
  | bracket => "Unmatched [, [^, [:, [., or [="
  | className => "Invalid character class name"
  | classAlone => "character class syntax is [[:space:]], not [:space:]"
  | rangeEnd => "Invalid range end"
  | opening => "Unmatched ( or \\("
  | closing => "Unmatched ) or \\)"
  | interval => "Unmatched \\\x7b"
  | intervalContent => "Invalid content of \\\x7b\\\x7d"
  | tooBig => "Regular expression too big"
  | backReference => "Invalid back reference"
  | preceding => "Invalid preceding regular expression"
  | trailing => "Trailing backslash"
  | unfinished => "Invalid regular expression"

/-- a character of a bracketed set -/
def bracketChar (style : RegexStyle) (o : Octets) : Option (Char × Octets) :=
  match o with
  | [] => none
  | '\\' :: c :: rest =>
    if style.inBrackets then
      match style.charEscapes.lookup c with
      | some d => some (d, rest)
      | none => some ('\\', c :: rest)
    else some ('\\', c :: rest)
  | '[' :: '.' :: c :: '.' :: ']' :: rest => some (c, rest)
  | '[' :: '=' :: c :: '=' :: ']' :: rest => some (c, rest)
  | c :: rest => some (c, rest)

/-- the items of a bracketed set up to its closing bracket, which does not close the set in the first place -/
def bracketItems (style : RegexStyle) : Nat → Bool → Octets → Except RegexFault (List SetItem × Octets)
  | 0, _, _ => .error .bracket
  | fuel + 1, first, o =>
    let single (o : Octets) : Except RegexFault (List SetItem × Octets) :=
      match bracketChar style o with
      | none => .error .bracket
      | some (low, rest) =>
        let range := match rest with
          | '-' :: ']' :: _ => none
          | '-' :: more => bracketChar style more
          | _ => none
        match range with
        | some (high, more) =>
          if high < low then .error .rangeEnd
          else do
            let (items, rest) ← bracketItems style fuel false more
            return (⟨low, high⟩ :: items, rest)
        | none => do
          let (items, rest) ← bracketItems style fuel false rest
          return (⟨low, low⟩ :: items, rest)
    match o with
    | ']' :: rest => if first then single o else .ok ([], rest)
    | '[' :: ':' :: rest =>
      let name := rest.takeWhile fun c => c.isAlpha
      match rest.drop name.length with
      | ':' :: ']' :: rest =>
        if (classItems name).isEmpty then .error .className
        else do
          let (items, rest) ← bracketItems style fuel false rest
          return (classItems name ++ items, rest)
      | _ => single o
    | o => single o

/-- whether a set is written like the name of a class: characters between two colons -/
def looksLikeClass (items : List SetItem) : Bool :=
  let colon : SetItem := ⟨':', ':'⟩
  items.head? == some colon && items.getLast? == some colon && items.any (· != colon)
    && items.all fun item => item.low == item.high

/-- a bracketed set, after its bracket -/
def bracketSet (style : RegexStyle) (o : Octets) : Except RegexFault (Regex × Octets) := do
  let (negated, rest) := match o with
    | '^' :: rest => (true, rest)
    | rest => (false, rest)
  if rest.isEmpty then throw .unfinished
  let (items, rest) ← bracketItems style (rest.length + 1) true rest
  if style.wary && looksLikeClass items then throw .classAlone
  return (.among negated items, rest)

/-- how often something may be asked for at most -/
def greatestCount : Nat := 32767

/-- what is read of the count of a repetition, after its opening brace: the count, no count at all, or a fault -/
def repetition (extended : Bool) (o : Octets) : Except RegexFault (Option ((Nat × Option Nat) × Octets)) :=
  let value (digits : Octets) : Nat := (digitsIn 10 digits).1
  let least := o.takeWhile Char.isDigit
  let rest := o.drop least.length
  let (most, rest) : Option Nat × Octets := match rest with
    | ',' :: rest =>
      let most := rest.takeWhile Char.isDigit
      (if most.isEmpty then none else some (value most), rest.drop most.length)
    | rest => (some (value least), rest)
  let closed : Option Octets := match rest, extended with
    | '\x7d' :: rest, true => some rest
    | '\\' :: '\x7d' :: rest, false => some rest
    | _, _ => none
  match closed with
  | some rest =>
    if least.isEmpty && o.head? != some ',' then if extended then .ok none else .error .intervalContent
    else if (most.map fun n => decide (n < value least)).getD false then .error .intervalContent
    else if greatestCount < max (value least) (most.getD 0) then .error .tooBig
    else .ok (some ((value least, most), rest))
  | none =>
    if extended then .ok none
    else if rest.isEmpty || rest == ['\\'] then .error .interval
    else .error .intervalContent

/-- a token of a regular expression -/
inductive RegexToken where
  | item (r : Regex)
  | count (sign : Char) (least : Nat) (most : Option Nat)
  | opening
  | closing
  | bar

/-- the characters of words -/
def wordItems : List SetItem := ⟨'_', '_'⟩ :: classItems "alnum".toList

/-- what a letter after a backslash stands for where it stands for digits -/
def digitEscape? (c : Char) : Option Regex :=
  match c with
  | 'd' => some (.among false [⟨'0', '9'⟩])
  | 'D' => some (.among true [⟨'0', '9'⟩])
  | _ => none

/-- what a letter after a backslash stands for where it stands for words and edges -/
def wordEscape? (c : Char) : Option Regex :=
  match c with
  | 'w' => some (.among false wordItems)
  | 'W' => some (.among true wordItems)
  | 's' => some (.among false (classItems "space".toList))
  | 'S' => some (.among true (classItems "space".toList))
  | 'b' => some (.edge .wordEdge)
  | 'B' => some (.edge .inside)
  | '<' => some (.edge .wordStart)
  | '>' => some (.edge .wordStop)
  | '\x60' => some (.edge .textStart)
  | '\'' => some (.edge .textStop)
  | _ => none

/-- what stands before a place in a regular expression -/
inductive RegexPlace where
  | nothing
  | item
  | count
deriving DecidableEq

/-- the tokens of a regular expression, from a place on; where nothing stands before it, a star may stand for itself.
`opened` and `closed` count the groups. -/
def regexTokens (style : RegexStyle) : Nat → RegexPlace → Nat → Nat → Octets → Except RegexFault (List RegexToken)
  | 0, _, _, _, _ => .ok []
  | _, _, opened, closed, [] => if closed < opened then .error .opening else .ok []
  | fuel + 1, place, opened, closed, c :: rest => do
    let item (r : Regex) (rest : Octets) : Except RegexFault (List RegexToken) := do
      return .item r :: (← regexTokens style fuel .item opened closed rest)
    let times (sign : Char) (least : Nat) (most : Option Nat) (rest : Octets) :
        Except RegexFault (List RegexToken) := do
      if !style.loose && place == (if style.extended then .nothing else .count) then throw .preceding
      return .count sign least most :: (← regexTokens style fuel .count opened closed rest)
    let special (c : Char) (rest : Octets) : Except RegexFault (List RegexToken) :=
      match c with
      | '(' => do return .opening :: (← regexTokens style fuel .nothing (opened + 1) closed rest)
      | ')' =>
        if closed < opened then do
          return .closing :: (← regexTokens style fuel .item opened (closed + 1) rest)
        else if style.loose && style.extended then item (.one c) rest
        else .error .closing
      | '|' => do return .bar :: (← regexTokens style fuel .nothing opened closed rest)
      | '+' => times c 1 none rest
      | '?' => times c 0 (some 1) rest
      | '\x7b' => do
        match ← repetition style.extended rest with
        | some ((least, most), rest) => times c least most rest
        | none =>
          if style.loose then item (.one c) rest
          else if place == .nothing then throw .preceding
          else throw .interval
      | _ => item (.one c) rest
    match c with
    | '\\' =>
      match rest with
      | [] => .error .trailing
      | d :: rest =>
        let word := (if style.wordEscapes then wordEscape? d else none).orElse fun _ =>
          if style.digitEscapes then digitEscape? d else none
        match style.charEscapes.lookup d, word with
        | some e, _ => item (.one e) rest
        | _, some r => item r rest
        | none, none =>
          if d.isDigit && d != '0' && style.wordEscapes then
            if closed < d.toNat - 48 then .error .backReference else item (.again (d.toNat - 48)) rest
          else if style.extended then item (.one d) rest
          else special d rest
    | '.' => item .any rest
    | '*' => if place == .nothing && !style.extended then item (.one '*') rest else times c 0 none rest
    | '^' =>
      if place == .nothing || style.extended then do
        return .item (.edge .start) :: (← regexTokens style fuel .nothing opened closed rest)
      else item (.one '^') rest
    | '$' =>
      let ends := match rest with
        | [] => true
        | '\\' :: ')' :: _ => true
        | '\\' :: '|' :: _ => true
        | _ => style.extended
      item (if ends then .edge .stop else .one '$') rest
    | '[' => do
      let (r, rest) ← bracketSet style rest
      item r rest
    | _ => if style.extended && "()|+?\x7b".toList.contains c then special c rest else item (.one c) rest

/-- puts tokens together, up to the end of their group. `done` holds the items so far, the last one first, and `index`
the number of groups that were opened. A repetition of nothing is left out. -/
def joinTokens : Nat → Nat → List Regex → List RegexToken → Regex × Nat × List RegexToken
  | 0, index, _, tokens => (.sequence [], index, tokens)
  | fuel + 1, index, done, tokens =>
    let here := match done with
      | [r] => r
      | _ => Regex.sequence done.reverse
    match tokens with
    | [] => (here, index, [])
    | .closing :: rest => (here, index, rest)
    | .bar :: rest =>
      let (other, index, rest) := joinTokens fuel index [] rest
      (.choice here other, index, rest)
    | .opening :: rest =>
      let (body, after, rest) := joinTokens fuel (index + 1) [] rest
      joinTokens fuel after (.group (index + 1) body :: done) rest
      | .count _ least most :: rest =>
      match done with
      | last :: done => joinTokens fuel index (.repeated least most last :: done) rest
      | [] => joinTokens fuel index [] rest
    | .item r :: rest => joinTokens fuel index (r :: done) rest

/-- the signs of the repetitions that stand where there is nothing to repeat; `starts` says that nothing stands before
the tokens. Edges are nothing that could be repeated. -/
def idleCounts : Bool → List RegexToken → List Char
  | _, [] => []
  | starts, .count sign _ _ :: rest => (if starts then [sign] else []) ++ idleCounts starts rest
  | starts, .item (.edge _) :: rest => idleCounts starts rest
  | _, .item _ :: rest => idleCounts false rest
  | _, .closing :: rest => idleCounts false rest
  | _, _ :: rest => idleCounts true rest

/-- the regular expression that a text is, with the number of its groups -/
def Regex.read (style : RegexStyle) (o : Octets) : Except RegexFault (Regex × Nat) := do
  let tokens ← regexTokens style (o.length + 1) .nothing 0 0 o
  let (r, groups, _) := joinTokens (tokens.length + 1) 0 [] tokens
  return (r, groups)

/-- the style of searches -/
def RegexStyle.searching (extended : Bool) : RegexStyle := ⟨extended, true, false, [], false, true, true⟩

/-- the style of patterns in expressions -/
def RegexStyle.comparing : RegexStyle := ⟨false, true, false, [], false, true, false⟩

/-- the style of searches in which letters stand for digits and for characters too -/
def RegexStyle.withDigits : RegexStyle :=
  ⟨true, true, true, [('n', '\n'), ('t', '\t'), ('f', Char.ofNat 12), ('r', '\r')], true, true, false⟩

/-- the style of the stream editor -/
def RegexStyle.editing (extended : Bool) : RegexStyle :=
  ⟨extended, true, false, [('n', '\n'), ('t', '\t'), ('f', Char.ofNat 12), ('v', Char.ofNat 11), ('a', Char.ofNat 7),
    ('r', '\r')], true, false, true⟩

end ScriptBridge.Shell
