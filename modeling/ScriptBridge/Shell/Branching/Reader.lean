/-
Reading expressions that are matched by trying. They are written in one of two manners, which differ in what some
escapes mean and in whether an escape that means nothing is a fault.
-/
import ScriptBridge.Shell.Branching.Expression
import ScriptBridge.Shell.Numeral

namespace ScriptBridge.Shell.Branching

/-- how expressions are written: `strict` ones are made of characters of all scripts and have no escapes without a
meaning; `loose` ones are made of bytes, and there other letters may be escaped too -/
inductive Manner where
  | strict
  | loose
deriving DecidableEq

/-- what is wrong with an expression -/
inductive Flaw where
  | unclosedSet
  | unclosedGroup
  | unopenedGroup
  | nothingToRepeat
  | repeatedTwice
  | escapeAtEnd
  | badEscape (text : List Char)
  | badRange (text : List Char)
  | badReference (n : Nat)
  | unknownName (name : List Char)
  | unknownGroup (text : List Char)
  | boundsInverted
  | unfixedBehind
deriving DecidableEq

/-- a flaw with its place in the expression -/
structure Problem where
  flaw : Flaw
  place : Nat
deriving DecidableEq

/-- what an expression is read with: whether case counts, whether each line has a start and an end, whether a dot takes
line ends, whether blanks and comments are left out, and whether only letters of ASCII count as such -/
structure Flags where
  fold : Bool
  lines : Bool
  dotAll : Bool
  spaced : Bool
  narrow : Bool
deriving DecidableEq, Inhabited

/-- what is left of an expression, the place there, how many groups have begun, those that are still open, the groups
with names, and the flags -/
structure Source where
  rest : List Char
  place : Nat
  groups : Nat
  opened : List Nat
  names : List (List Char × Nat)
  flags : Flags

/-- a reader -/
abbrev Reading (α : Type) := StateT Source (Except Problem) α

namespace Reading

/-- gives up at a place -/
def failAt {α : Type} (place : Nat) (flaw : Flaw) : Reading α := throw ⟨flaw, place⟩

/-- the next character, which is not taken -/
def peek : Reading (Option Char) := do return (← get).rest.head?

/-- takes so many characters -/
def drop (n : Nat) : Reading Unit := modify fun s => { s with rest := s.rest.drop n, place := s.place + n }

/-- takes a text that comes next, if it does -/
def accept (text : String) : Reading Bool := do
  if text.toList.isPrefixOf (← get).rest then do
    drop text.length
    return true
  else return false

/-- takes characters while they pass a test, so many at most -/
def takeWhile (p : Char → Bool) (most : Nat) : Reading (List Char) := do
  let found := ((← get).rest.take most).takeWhile p
  drop found.length
  return found

/-- takes the characters up to one that ends them, and that one -/
def takeUpTo (mark : Char) : Reading (Option (List Char)) := do
  let s ← get
  let found := s.rest.takeWhile (· != mark)
  if found.length < s.rest.length then do
    drop (found.length + 1)
    return some found
  else return none

end Reading

open Branching.Reading

/-- the value of hexadecimal digits -/
def hexValue (o : List Char) : Nat := (digitsIn 16 o).1

/-- whether a character is a hexadecimal digit -/
def isHex (c : Char) : Bool := (digitOf? 16 c).isSome

/-- whether a character is an octal digit -/
def isOctal (c : Char) : Bool := (digitOf? 8 c).isSome

/-- the class that a letter after a backslash stands for, and whether what is not in it is meant -/
def kindOf? (manner : Manner) (c : Char) : Option (Kind × Bool) :=
  match c with
  | 'd' => some (.digit, false)
  | 'D' => some (.digit, true)
  | 'w' => some (.word, false)
  | 'W' => some (.word, true)
  | 's' => some (.space, false)
  | 'S' => some (.space, true)
  | c =>
    if manner == .strict then none
    else match c with
      | 'h' => some (.blank, false)
      | 'H' => some (.blank, true)
      | 'v' => some (.lineEnd, false)
      | 'V' => some (.lineEnd, true)
      | _ => none

/-- the class with a name -/
def namedKind? (name : String) : Option Kind :=
  match name with
  | "alpha" | "L" | "Letter" | "Alpha" | "Alphabetic" | "IsAlpha" => some .letter
  | "digit" | "N" | "Nd" | "Digit" | "IsDigit" => some .digit
  | "alnum" | "word" | "Word" | "IsWord" | "W" | "Alnum" => some .word
  | "space" | "Space" | "IsSpace" | "Z" | "Zs" | "XPosixSpace" => some .space
  | "blank" | "HorizSpace" | "Blank" => some .blank
  | "upper" | "Lu" | "Upper" | "Uppercase" | "IsUpper" => some .capital
  | "lower" | "Ll" | "Lower" | "Lowercase" | "IsLower" => some .small
  | "punct" | "P" | "Punct" | "Punctuation" | "IsPunct" => some .mark
  | "xdigit" | "XDigit" | "Hex" => some .hexDigit
  | "cntrl" | "Cntrl" | "Cc" => some .control
  | "graph" | "Graph" => some .visible
  | "print" | "Print" => some .printing
  | "ascii" | "ASCII" => some .ascii
  | _ => none

/-- the character that a letter after a backslash stands for by itself -/
def letterEscape? (manner : Manner) (c : Char) : Option Char :=
  match c with
  | 'n' => some '\n'
  | 't' => some '\t'
  | 'r' => some '\r'
  | 'f' => some (Char.ofNat 12)
  | 'a' => some (Char.ofNat 7)
  | 'v' => if manner == .strict then some (Char.ofNat 11) else none
  | 'e' => if manner == .loose then some (Char.ofNat 27) else none
  | _ => none

/-- takes the character of an escape, after the backslash and the letter; `none` where the letter begins no such escape -/
def readCoded (manner : Manner) (start : Nat) (c : Char) : Reading (Option Char) := do
  let exactly (n : Nat) : Reading (Option Char) := do
    let digits ← takeWhile isHex n
    if digits.length = n then return some (Char.ofNat (hexValue digits))
    else failAt start (.badEscape ('\\' :: c :: digits))
  match c with
  | 'x' =>
    if manner == .strict then exactly 2
    else if ← accept "\x7b" then do
      let digits := ((← takeUpTo '\x7d').getD []).filter isHex
      return some (Char.ofNat (hexValue digits))
    else do return some (Char.ofNat (hexValue (← takeWhile isHex 2)))
  | 'u' => if manner == .strict then exactly 4 else return none
  | 'U' => if manner == .strict then exactly 8 else return none
  | 'c' =>
    if manner == .strict then return none
    else match ← peek with
      | some d => do
        drop 1
        return some (Char.ofNat ((d.toUpper.toNat + 64) % 128))
      | none => return none
  | 'o' =>
    if manner == .loose && (← accept "\x7b") then do
      return some (Char.ofNat (digitsIn 8 ((← takeUpTo '\x7d').getD [])).1)
    else return none
  | c => return letterEscape? manner c

/-- takes a class between braces, or of one letter, after `\p` -/
def readProperty (negated : Bool) : Reading Item := do
  let name ← if ← accept "\x7b" then do pure ((← takeUpTo '\x7d').getD []) else takeWhile (fun _ => true) 1
  let inverted : Bool := name.head? == some '^'
  let name := if inverted then name.drop 1 else name
  return .kind ((namedKind? (String.ofList name)).getD .letter) (negated != inverted)

/-- takes one part of a set: a character, or a class -/
def readMember (manner : Manner) : Reading (Except Item Char) := do
  let start := (← get).place
  match ← peek with
  | none => failAt start .unclosedSet
  | some '\\' => do
    drop 1
    match ← peek with
    | none => failAt start .escapeAtEnd
    | some c => do
      match kindOf? manner c with
      | some (kind, negated) => do
        drop 1
        return .error (.kind kind negated)
      | none =>
        if isOctal c then do
          let digits ← takeWhile isOctal 3
          return .ok (Char.ofNat (digitsIn 8 digits).1)
        else if manner == .loose && (c == 'p' || c == 'P') then do
          drop 1
          return .error (← readProperty (c == 'P'))
        else if c == 'b' then do
          drop 1
          return .ok (Char.ofNat 8)
        else do
          drop 1
          match ← readCoded manner start c with
          | some d => return .ok d
          | none =>
            if manner == .strict && (c.isAlpha || c.isDigit) then failAt start (.badEscape ['\\', c])
            else return .ok c
  | some '[' =>
    if manner == .loose && (← accept "[:") then do
      let inverted ← accept "^"
      let name ← takeWhile Char.isAlpha 20
      let _ ← accept ":]"
      return .error (.kind ((namedKind? (String.ofList name)).getD .letter) inverted)
    else do
      drop 1
      return .ok '['
  | some c => do
    drop 1
    return .ok c

/-- takes the parts of a set, up to its end -/
def readMembers (manner : Manner) (start : Nat) : Nat → Bool → Reading (List Item)
  | 0, _ => failAt start .unclosedSet
  | fuel + 1, isFirst => do
    let s ← get
    match s.rest with
    | [] => failAt start .unclosedSet
    | ']' :: _ =>
      if isFirst then do
        drop 1
        return .range ']' ']' :: (← readMembers manner start fuel false)
      else do
        drop 1
        return []
    | _ => do
      match ← readMember manner with
      | .error item => return item :: (← readMembers manner start fuel false)
      | .ok low =>
        match (← get).rest with
        | '-' :: c :: _ =>
          if c == ']' then return .range low low :: (← readMembers manner start fuel false)
          else do
            drop 1
            match ← readMember manner with
            | .ok high =>
              if high < low then do
                let stop := (← get).place
                failAt s.place (.badRange (s.rest.take (stop - s.place)))
              else return .range low high :: (← readMembers manner start fuel false)
            | .error item => return [.range low low, .range '-' '-', item] ++ (← readMembers manner start fuel false)
        | _ => return .range low low :: (← readMembers manner start fuel false)

/-- takes how often something is repeated, if that comes next -/
def readBounds : Reading (Option (Nat × Option Nat)) := do
  let start := (← get).place
  match ← peek with
  | some '*' => do drop 1; return some (0, none)
  | some '+' => do drop 1; return some (1, none)
  | some '?' => do drop 1; return some (0, some 1)
  | some '\x7b' => do
    let before ← get
    drop 1
    let low ← takeWhile Char.isDigit 10
    let comma ← accept ","
    let high ← if comma then takeWhile Char.isDigit 10 else pure low
    if (← accept "\x7d") && !(low.isEmpty && high.isEmpty) then
      let least := (digitsIn 10 low).1
      let most := if high.isEmpty then none else some (digitsIn 10 high).1
      if most.any (· < least) then failAt start .boundsInverted
      else return some (least, most)
    else do
      set before
      return none
  | _ => return none

/-- the flags with a letter turned on or off; `none` where the letter is none -/
def Flags.turned? (f : Flags) (c : Char) (on : Bool) : Option Flags :=
  match c with
  | 'i' => some { f with fold := on }
  | 'm' => some { f with lines := on }
  | 's' => some { f with dotAll := on }
  | 'x' => some { f with spaced := on }
  | 'a' => some { f with narrow := on }
  | 'u' | 'L' | 'n' | 'l' | 'd' | 'p' => some f
  | _ => none

/-- takes letters of flags, after a question mark; gives the flags -/
def readFlags : Nat → Bool → Flags → Reading (Option Flags)
  | 0, _, _ => return none
  | fuel + 1, on, flags => do
    match ← peek with
    | some '-' => do
      drop 1
      readFlags fuel false flags
    | some '^' => do
      drop 1
      readFlags fuel on { flags with fold := false, lines := false, dotAll := false, spaced := false }
    | some c =>
      match flags.turned? c on with
      | some flags => do
        drop 1
        readFlags fuel on flags
      | none => return some flags
    | none => return some flags

/-- takes the number of a group or its name, in braces or other marks, after `\g` or `\k` -/
def readGroupName (close : Char) : Reading (List Char) := do return (← takeUpTo close).getD []

/-- the group that a number or a name means -/
def groupMeant (place : Nat) (name : List Char) : Reading Nat := do
  let s ← get
  match name with
  | '-' :: digits => return s.groups + 1 - (digitsIn 10 digits).1
  | name =>
    if !name.isEmpty && name.all Char.isDigit then return (digitsIn 10 name).1
    else match s.names.lookup name with
      | some n => return n
      | none => failAt place (.unknownName name)

/-- takes an escape that stands outside of sets, after its backslash -/
def readEscape (manner : Manner) (start : Nat) : Reading Node := do
  let s ← get
  let wide : Bool := manner == .strict && !s.flags.narrow
  let fold := s.flags.fold
  let atEdge (e : Edge) : Reading Node := do
    drop 1
    return .edge e wide
  match ← peek with
  | none => failAt start .escapeAtEnd
  | some c =>
    match kindOf? manner c with
    | some (kind, negated) => do
      drop 1
      return .among false false wide [.kind kind negated]
    | none =>
      match c with
      | 'b' => atEdge .word
      | 'B' => atEdge .inside
      | 'A' => atEdge .textStart
      | 'Z' => atEdge (if manner == .strict then .textStop else .lastLine)
      | c =>
        if c == '0' then do
          return .one (Char.ofNat (digitsIn 8 (← takeWhile isOctal 3)).1) fold
        else if c.isDigit then do
          let octal := (s.rest.take 3).takeWhile isOctal
          let n := (digitsIn 10 (s.rest.take 2)).1
          let n := if (s.rest.drop 1).head?.any Char.isDigit then n else c.toNat - '0'.toNat
          if octal.length = 3 && (manner == .strict || s.groups < n) then do
            drop 3
            return .one (Char.ofNat (digitsIn 8 octal).1) fold
          else do
            drop (if 10 ≤ n then 2 else 1)
            if manner == .strict && (s.groups < n || s.opened.contains n) then failAt (start + 1) (.badReference n)
            else return .again n fold
        else if manner == .loose && c == 'z' then atEdge .textStop
        else if manner == .loose && c == 'G' then atEdge .resumed
        else if manner == .loose && c == 'K' then do
          drop 1
          return .keep
        else if manner == .loose && c == 'R' then do
          drop 1
          return .choice [.sequence [.one '\r' false, .one '\n' false], .among false false false [.kind .lineEnd false]]
        else if manner == .loose && c == 'N' then do
          drop 1
          return .any false
        else if manner == .loose && (c == 'p' || c == 'P') then do
          drop 1
          return .among false false false [← readProperty (c == 'P')]
        else if manner == .loose && (c == 'k' || c == 'g') then do
          drop 1
          let name ← match ← peek with
            | some '\x7b' => do drop 1; readGroupName '\x7d'
            | some '<' => do drop 1; readGroupName '>'
            | some '\'' => do drop 1; readGroupName '\''
            | _ => takeWhile (fun d => d.isDigit || d == '-') 3
          return .again (← groupMeant start name) fold
        else do
          drop 1
          match ← readCoded manner start c with
          | some d => return .one d fold
          | none =>
            if manner == .strict && c.isAlpha then failAt start (.badEscape ['\\', c]) else return .one c fold

/-- whether something cannot be repeated -/
def isPlace (manner : Manner) : Node → Bool
  | .edge .. => manner == .strict
  | _ => false

mutual

/-- takes branches, up to a closing parenthesis or the end -/
def readBranches (manner : Manner) : Nat → Reading (List Node)
  | 0 => failAt 0 .unclosedGroup
  | fuel + 1 => do
    let first ← readSequence manner fuel []
    if ← accept "|" then return first :: (← readBranches manner fuel) else return [first]

/-- takes a choice between branches -/
def readChoice (manner : Manner) : Nat → Reading Node
  | 0 => failAt 0 .unclosedGroup
  | fuel + 1 => do
    match ← readBranches manner fuel with
    | [only] => return only
    | branches => return .choice branches

/-- takes what is matched one after the other; what was taken so far is given backwards -/
def readSequence (manner : Manner) : Nat → List Node → Reading Node
  | 0, _ => failAt 0 .unclosedGroup
  | fuel + 1, taken => do
    let s ← get
    match s.rest with
    | [] => return .sequence taken.reverse
    | '|' :: _ => return .sequence taken.reverse
    | ')' :: _ => return .sequence taken.reverse
    | c :: _ =>
      if s.flags.spaced && (c == ' ' || ('\t' ≤ c && c ≤ '\r')) then do
        drop 1
        readSequence manner fuel taken
      else if s.flags.spaced && c == '#' then do
        let _ ← takeWhile (· != '\n') s.rest.length
        readSequence manner fuel taken
      else do
        match ← readBounds with
        | some _ => failAt s.place .nothingToRepeat
        | none => do
          match ← readAtom manner fuel with
          | none => readSequence manner fuel taken
          | some atom => do
            if (← get).flags.spaced then
              let _ ← takeWhile (fun c => c == ' ' || ('\t' ≤ c && c ≤ '\r')) s.rest.length
            let place := (← get).place
            match ← readBounds with
            | none => readSequence manner fuel (atom :: taken)
            | some (least, most) => do
              if isPlace manner atom then failAt place .nothingToRepeat
              else do
                let greed ← if ← accept "?" then pure Greed.little
                  else if ← accept "+" then pure .all
                  else pure .much
                let place := (← get).place
                match ← readBounds with
                | some _ => failAt place .repeatedTwice
                | none => readSequence manner fuel (.repeated least most greed atom :: taken)

/-- takes one part; what only changes flags and comments are none -/
def readAtom (manner : Manner) : Nat → Reading (Option Node)
  | 0 => failAt 0 .unclosedGroup
  | fuel + 1 => do
    let s ← get
    let start := s.place
    let wide : Bool := manner == .strict && !s.flags.narrow
    match s.rest with
    | [] => return none
    | '.' :: _ => do drop 1; return some (.any s.flags.dotAll)
    | '^' :: _ => do drop 1; return some (.edge (.start s.flags.lines) wide)
    | '$' :: _ => do drop 1; return some (.edge (.stop s.flags.lines) wide)
    | '\\' :: _ => do drop 1; return some (← readEscape manner start)
    | '[' :: _ => do
      drop 1
      let negated ← accept "^"
      let items ← readMembers manner start (s.rest.length + 1) true
      return some (.among negated s.flags.fold wide items)
    | '(' :: _ => do
      drop 1
      readGroup manner fuel start
    | c :: _ => do drop 1; return some (.one c s.flags.fold)

/-- takes a group, after its parenthesis -/
def readGroup (manner : Manner) : Nat → Nat → Reading (Option Node)
  | 0, start => failAt start .unclosedGroup
  | fuel + 1, start => do
    let flags := (← get).flags
    let close : Reading Unit := do
      if !(← accept ")") then failAt start .unclosedGroup
      modify fun s => { s with flags }
    let body : Reading Node := do
      let node ← readChoice manner fuel
      close
      return node
    let capture (name : Option (List Char)) : Reading (Option Node) := do
      let index := (← get).groups + 1
      modify fun s => { s with
        groups := index
        opened := index :: s.opened
        names := match name with
          | some name => s.names ++ [(name, index)]
          | none => s.names }
      let node ← body
      modify fun s => { s with opened := s.opened.filter (· != index) }
      return some (.group index node)
    let looking (negated : Bool) : Reading (Option Node) := do
      let node ← body
      if node.width?.isNone then failAt start .unfixedBehind else return some (.behind negated node)
    if !(← accept "?") then capture none
    else if ← accept ":" then return some (← body)
    else if ← accept "=" then return some (.ahead false (← body))
    else if ← accept "!" then return some (.ahead true (← body))
    else if ← accept "<=" then looking false
    else if ← accept "<!" then looking true
    else if ← accept ">" then return some (.whole (← body))
    else if ← accept "#" then do
      match ← takeUpTo ')' with
      | some _ => return none
      | none => failAt start .unclosedGroup
    else if ← accept "P<" then do
      match ← takeUpTo '>' with
      | some name => capture (some name)
      | none => failAt start .unclosedGroup
    else if ← accept "P=" then do
      let name ← takeWhile (· != ')') (← get).rest.length
      let n ← groupMeant (start + 4) name
      close
      return some (.again n flags.fold)
    else if manner == .loose && (← accept "<") then do
      match ← takeUpTo '>' with
      | some name => capture (some name)
      | none => failAt start .unclosedGroup
    else if manner == .loose && (← accept "'") then do
      match ← takeUpTo '\'' with
      | some name => capture (some name)
      | none => failAt start .unclosedGroup
    else if ← accept "(" then do
      let name := (← takeUpTo ')').getD []
      let name := (name.filter fun c => c != '<' && c != '>' && c != '\'')
      let n ← groupMeant start name
      match ← readChoice manner fuel with
      | .choice (first :: others) => do
        close
        return some (.given n first (.choice others))
      | node => do
        close
        return some (.given n node (.sequence []))
    else do
      let s ← get
      match ← readFlags (s.rest.length + 1) true flags with
      | some changed => do
        if ← accept ")" then
          modify fun s => { s with flags := changed }
          return none
        else if ← accept ":" then do
          modify fun s => { s with flags := changed }
          return some (← body)
        else failAt (start + 1) (.unknownGroup ('?' :: s.rest.take 2))
      | none => failAt (start + 1) (.unknownGroup ('?' :: s.rest.take 2))

end

/-- an expression that was read, with the number of its groups and their names -/
structure Expression where
  node : Node
  groups : Nat
  names : List (List Char × Nat)
  flags : Flags
deriving Inhabited

/-- reads an expression -/
def Expression.read (manner : Manner) (flags : Flags) (text : List Char) : Except Problem Expression := do
  let (node, s) ← (readChoice manner (4 * text.length + 10)).run ⟨text, 0, 0, [], [], flags⟩
  if s.rest.isEmpty then return ⟨node, s.groups, s.names, s.flags⟩
  else throw ⟨.unopenedGroup, s.place⟩

end ScriptBridge.Shell.Branching
