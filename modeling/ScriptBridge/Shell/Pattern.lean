/-
File name patterns, as in `case` and on words. A pattern matches a whole text: a star stands for any text, a question
mark for one character, brackets for one of a set; a quoted character stands for itself.
-/
import ScriptBridge.Shell.Octets

namespace ScriptBridge.Shell

/-- one item of a bracketed set -/
structure SetItem where
  low : Char
  high : Char
deriving DecidableEq

/-- whether a set with the given items has a character -/
def inSet (items : List SetItem) (c : Char) : Bool := items.any fun i => i.low ≤ c && c ≤ i.high

/-- the items of a class of characters -/
def classItems (name : Octets) : List SetItem :=
  match String.ofList name with
  | "upper" => [⟨'A', 'Z'⟩]
  | "lower" => [⟨'a', 'z'⟩]
  | "alpha" => [⟨'A', 'Z'⟩, ⟨'a', 'z'⟩]
  | "digit" => [⟨'0', '9'⟩]
  | "alnum" => [⟨'0', '9'⟩, ⟨'A', 'Z'⟩, ⟨'a', 'z'⟩]
  | "space" => [⟨'\t', '\r'⟩, ⟨' ', ' '⟩]
  | "blank" => [⟨'\t', '\t'⟩, ⟨' ', ' '⟩]
  | "punct" => [⟨'!', '/'⟩, ⟨':', '@'⟩, ⟨'[', '\x60'⟩, ⟨'\x7b', '~'⟩]
  | "cntrl" => [⟨Char.ofNat 0, Char.ofNat 31⟩, ⟨Char.ofNat 127, Char.ofNat 127⟩]
  | "print" => [⟨' ', '~'⟩]
  | "graph" => [⟨'!', '~'⟩]
  | "xdigit" => [⟨'0', '9'⟩, ⟨'A', 'F'⟩, ⟨'a', 'f'⟩]
  | _ => []

/-- the items of a bracketed set up to its closing bracket, which does not close the set in the first place -/
def readSet : Nat → Bool → Octets → Option (List SetItem × Octets)
  | 0, _, _ => none
  | fuel + 1, first, o =>
    match o with
    | [] => none
    | ']' :: rest => if first then more fuel ⟨']', ']'⟩ rest else some ([], rest)
    | '[' :: ':' :: rest =>
      let name := rest.takeWhile (· != ':')
      match rest.drop name.length with
      | ':' :: ']' :: rest => (readSet fuel false rest).map fun (items, rest) => (classItems name ++ items, rest)
      | _ => more fuel ⟨'[', '['⟩ (':' :: rest)
    | low :: '-' :: high :: rest =>
      if high == ']' then more fuel ⟨low, low⟩ ('-' :: high :: rest) else more fuel ⟨low, high⟩ rest
    | c :: rest => more fuel ⟨c, c⟩ rest
where
  more (fuel : Nat) (item : SetItem) (rest : Octets) : Option (List SetItem × Octets) :=
    match fuel with
    | 0 => none
    | fuel + 1 => (readSet fuel false rest).map fun (items, rest) => (item :: items, rest)

/-- a set after its opening bracket: whether it is negated, and its items -/
def readBracket (marks : List Char) (o : Octets) : Option ((Bool × List SetItem) × Octets) :=
  let (negated, rest) := match o with
    | c :: rest => if marks.contains c then (true, rest) else (false, o)
    | [] => (false, o)
  (readSet (2 * rest.length + 2) true rest).map fun (items, rest) => ((negated, items), rest)

/-- a character of a pattern, and whether it is quoted -/
abbrev PatternChar := Char × Bool

/-- an item of a file name pattern -/
inductive Wild where
  | one (c : Char)
  | any
  | many
  | among (negated : Bool) (items : List SetItem)

/-- the items of a pattern -/
def readWild : Nat → List PatternChar → List Wild
  | 0, _ => []
  | _, [] => []
  | fuel + 1, (c, quoted) :: rest =>
    if quoted then .one c :: readWild fuel rest
    else match c with
      | '*' => .many :: readWild fuel rest
      | '?' => .any :: readWild fuel rest
      | '[' =>
        match readBracket ['!', '^'] (rest.map Prod.fst) with
        | some ((negated, items), after) =>
          .among negated items :: readWild fuel (rest.drop (rest.length - after.length))
        | none => .one c :: readWild fuel rest
      | '\\' => match rest with
        | (d, _) :: rest => .one d :: readWild fuel rest
        | [] => [.one c]
      | _ => .one c :: readWild fuel rest

/-- whether items match a whole text -/
def wildMatches : List Wild → Octets → Bool
  | [], o => o.isEmpty
  | .many :: items, [] => wildMatches items []
  | .many :: items, c :: rest => wildMatches items (c :: rest) || wildMatches (.many :: items) rest
  | _ :: _, [] => false
  | .one d :: items, c :: rest => c == d && wildMatches items rest
  | .any :: items, _ :: rest => wildMatches items rest
  | .among negated set :: items, c :: rest => (inSet set c != negated) && wildMatches items rest
termination_by items o => items.length + o.length

/-- whether a pattern matches a whole text -/
def patternMatches (pattern : List PatternChar) (o : Octets) : Bool :=
  wildMatches (readWild (pattern.length + 1) pattern) o

/-- whether a pattern stands for more than its own characters -/
def isWild (pattern : List PatternChar) : Bool :=
  pattern.any fun (c, quoted) => !quoted && (c == '*' || c == '?' || c == '[')

end ScriptBridge.Shell
