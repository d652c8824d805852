/-
Expressions that are matched by trying. Of several branches the first one counts that lets the rest match; a repetition
takes as much as lets the rest match, or as little; some parts only look ahead or behind.

`Node.tried` is told what has to match after a part, so that a part is left for its next way where the rest fails. Texts
are arrays, so that a place is a number and looking behind starts at an earlier one.

Letters are those of several scripts. Scripts whose capitals and small letters lie at a fixed distance, or next to each
other, are covered; of other characters beyond ASCII only marks and gaps are told from letters.
-/
import ScriptBridge.Shell.Octets
import ScriptBridge.Text.Lines

/-! ## Letters of several scripts -/

namespace ScriptBridge.Shell

/-- a character at a distance from another one -/
def shifted (c : Char) (distance : Int) : Char := Char.ofNat ((c.toNat : Int) + distance).toNat

/-- whether capitals have even numbers where they stand in front of their small letters; `none` elsewhere -/
def pairsFromEven? (n : Nat) : Option Bool :=
  if (0x100 ≤ n && n ≤ 0x12F) || (0x132 ≤ n && n ≤ 0x137) || (0x14A ≤ n && n ≤ 0x177) || (0x1E00 ≤ n && n ≤ 0x1E95)
      || (0x1EA0 ≤ n && n ≤ 0x1EFF) || (0x460 ≤ n && n ≤ 0x481) || (0x48A ≤ n && n ≤ 0x4BF)
      || (0x4D0 ≤ n && n ≤ 0x52F) then some true
  else if (0x139 ≤ n && n ≤ 0x148) || (0x179 ≤ n && n ≤ 0x17E) then some false
  else none

/-- the small letter of a capital -/
def smallLetter (c : Char) : Char :=
  let n := c.toNat
  if n < 128 then c.toLower
  else if (0xC0 ≤ n && n ≤ 0xDE && n != 0xD7) || (0x391 ≤ n && n ≤ 0x3AB && n != 0x3A2) || (0x410 ≤ n && n ≤ 0x42F) then
    shifted c 32
  else if 0x400 ≤ n && n ≤ 0x40F then shifted c 80
  else if 0x531 ≤ n && n ≤ 0x556 then shifted c 48
  else if n = 0x178 then Char.ofNat 0xFF
  else match pairsFromEven? n with
    | some even => if (n % 2 == 0) == even then shifted c 1 else c
    | none => c

/-- the capital of a small letter -/
def capitalLetter (c : Char) : Char :=
  let n := c.toNat
  if n < 128 then c.toUpper
  else if n = 0xFF then Char.ofNat 0x178
  else if n = 0xB5 then Char.ofNat 0x39C
  else if n = 0x3C2 then Char.ofNat 0x3A3
  else if (0xE0 ≤ n && n ≤ 0xFE && n != 0xF7) || (0x3B1 ≤ n && n ≤ 0x3CB) || (0x430 ≤ n && n ≤ 0x44F) then shifted c (-32)
  else if 0x450 ≤ n && n ≤ 0x45F then shifted c (-80)
  else if 0x561 ≤ n && n ≤ 0x586 then shifted c (-48)
  else match pairsFromEven? n with
    | some even => if (n % 2 == 0) == even then c else shifted c (-1)
    | none => c

/-- whether a character is a digit of some script -/
def isAnyDigit (c : Char) : Bool :=
  let n := c.toNat
  c.isDigit || (0x660 ≤ n && n ≤ 0x669) || (0x6F0 ≤ n && n ≤ 0x6F9) || (0x966 ≤ n && n ≤ 0x96F)
    || (0xFF10 ≤ n && n ≤ 0xFF19)

/-- whether a character is a letter of some script -/
def isAnyLetter (c : Char) : Bool :=
  let n := c.toNat
  if n < 128 then c.isAlpha
  else if n < 0x100 then n = 0xAA || n = 0xB5 || n = 0xBA || (0xC0 ≤ n && n != 0xD7 && n != 0xF7)
  else !((0x2B9 ≤ n && n ≤ 0x36F && n % 0x10 = 0) || (0x300 ≤ n && n ≤ 0x36F) || isAnyDigit c || Text.isBlank c
    || (0x2000 ≤ n && n ≤ 0x2070) || (0x20A0 ≤ n && n ≤ 0x20CF) || (0x2190 ≤ n && n ≤ 0x2BFF)
    || (0x3000 ≤ n && n ≤ 0x3004) || (0x3008 ≤ n && n ≤ 0x3020) || (0xD800 ≤ n && n ≤ 0xF8FF)
    || (0xFE00 ≤ n && n ≤ 0xFE6F) || (0xFF00 ≤ n && n ≤ 0xFF20) || (0x1F000 ≤ n && n ≤ 0x1FAFF) || 0xE0000 ≤ n)

/-- whether a letter is a capital -/
def isCapital (c : Char) : Bool := smallLetter c != c

/-- whether a letter is a small one -/
def isSmall (c : Char) : Bool := capitalLetter c != c || c.toNat = 0xDF

/-- whether a character belongs to a word -/
def isAnyWordChar (c : Char) : Bool := c == '_' || isAnyLetter c || isAnyDigit c

end ScriptBridge.Shell

/-! ## Expressions -/

namespace ScriptBridge.Shell.Branching

/-- classes of characters -/
inductive Kind where
  | digit
  | word
  | space
  | blank
  | lineEnd
  | letter
  | small
  | capital
  | mark
  | hexDigit
  | control
  | visible
  | printing
  | ascii
deriving DecidableEq

/-- a part of a set of characters -/
inductive Item where
  | range (low high : Char)
  | kind (kind : Kind) (negated : Bool)
deriving DecidableEq

/-- a place that is matched without taking a character; `lines` says that each line counts -/
inductive Edge where
  | start (lines : Bool)
  | stop (lines : Bool)
  | textStart
  | textStop
  | lastLine
  | word
  | inside
  | resumed
deriving DecidableEq

/-- how much a repetition takes: as much as lets the rest match, as little, or as much as there is -/
inductive Greed where
  | much
  | little
  | all
deriving DecidableEq

/-- an expression. `wide` says that the letters of all scripts count as such, and `fold` that case does not count. -/
inductive Node where
  | one (c : Char) (fold : Bool)
  | any (lineEnds : Bool)
  | among (negated fold wide : Bool) (items : List Item)
  | edge (e : Edge) (wide : Bool)
  | group (index : Nat) (body : Node)
  | again (index : Nat) (fold : Bool)
  | repeated (least : Nat) (most : Option Nat) (greed : Greed) (body : Node)
  | sequence (items : List Node)
  | choice (branches : List Node)
  | ahead (negated : Bool) (body : Node)
  | behind (negated : Bool) (body : Node)
  | whole (body : Node)
  | keep
  | given (index : Nat) (body otherwise : Node)
deriving Inhabited

/-- whether a class has a character -/
def Kind.has (wide : Bool) (c : Char) : Kind → Bool
  | .digit => if wide then isAnyDigit c else c.isDigit
  | .word => if wide then isAnyWordChar c else c.isAlphanum || c == '_'
  | .space => (' ' == c || ('\t' ≤ c && c ≤ '\r')) || (wide && (Text.isBlank c || ('\x1c' ≤ c && c ≤ '\x1f')))
  | .blank => c == ' ' || c == '\t'
  | .lineEnd => '\n' ≤ c && c ≤ '\r'
  | .letter => if wide then isAnyLetter c else c.isAlpha
  | .small => if wide then isSmall c else c.isLower
  | .capital => if wide then isCapital c else c.isUpper
  | .mark => c.toNat < 128 && '!' ≤ c && !c.isAlphanum && c.toNat != 127
  | .hexDigit => c.isDigit || ('a' ≤ c.toLower && c.toLower ≤ 'f')
  | .control => c < ' ' || c.toNat = 127
  | .visible => '!' ≤ c && c.toNat < 127
  | .printing => ' ' ≤ c && c.toNat < 127
  | .ascii => c.toNat < 128

/-- whether a part of a set has a character -/
def Item.has (wide : Bool) (c : Char) : Item → Bool
  | .range low high => low ≤ c && c ≤ high
  | .kind k negated => k.has wide c != negated

/-- whether two characters are the same -/
def same (fold : Bool) (a b : Char) : Bool := a == b || (fold && smallLetter a == smallLetter b)

/-- what a match has come to: the place that was reached, where the match counts from, and where groups begin and end,
the last one first -/
structure Spot where
  place : Nat
  start : Nat
  groups : List (Nat × Nat × Nat)
deriving Inhabited

/-- a text that is searched, with the place where the last match ended -/
structure Subject where
  text : Array Char
  resumed : Nat

namespace Subject

/-- the character at a place -/
def at? (s : Subject) (place : Nat) : Option Char := s.text[place]?

/-- the text between two places -/
def slice (s : Subject) (start stop : Nat) : List Char := (s.text.extract start stop).toList

/-- whether a place is at an edge -/
def isAt (s : Subject) (wide : Bool) (place : Nat) (e : Edge) : Bool :=
  let before : Option Char := if place = 0 then none else s.at? (place - 1)
  let after := s.at? place
  let last : Bool := s.text.size ≤ place || (place + 1 = s.text.size && after == some '\n')
  let inWord (c : Option Char) : Bool := (c.map fun c => Kind.word.has wide c).getD false
  match e with
  | .start lines => place = 0 || (lines && before == some '\n')
  | .stop lines => last || (lines && after == some '\n')
  | .textStart => place = 0
  | .textStop => s.text.size ≤ place
  | .lastLine => last
  | .word => inWord before != inWord after
  | .inside => inWord before == inWord after
  | .resumed => place = s.resumed

end Subject

namespace Spot

/-- where a group was matched -/
def group? (spot : Spot) (index : Nat) : Option (Nat × Nat) := spot.groups.lookup index

/-- the text of a group -/
def groupText? (spot : Spot) (s : Subject) (index : Nat) : Option (List Char) :=
  (spot.group? index).map fun (start, stop) => s.slice start stop

end Spot

namespace Node

/-- whether an expression of one character has a character; `none` where it is no such expression -/
def single? : Node → Option (Char → Bool)
  | one c fold => some (same fold c)
  | any lineEnds => some fun c => lineEnds || c != '\n'
  | among negated fold wide items => some fun c =>
    (items.any fun i => i.has wide c || (fold && (i.has wide (smallLetter c) || i.has wide (capitalLetter c)))) != negated
  | _ => none

mutual

/-- how many characters an expression takes, where that is fixed -/
def width? : Node → Option Nat
  | one .. => some 1
  | any _ => some 1
  | among .. => some 1
  | edge .. => some 0
  | group _ body => body.width?
  | again .. => none
  | repeated least most _ body => if most == some least then body.width?.map (· * least) else none
  | sequence items => widths items
  | choice branches => commonWidth branches
  | ahead .. => some 0
  | behind .. => some 0
  | whole body => body.width?
  | keep => some 0
  | given .. => none

/-- how many characters expressions take one after the other -/
def widths : List Node → Option Nat
  | [] => some 0
  | n :: rest => match n.width?, widths rest with
    | some a, some b => some (a + b)
    | _, _ => none

/-- how many characters each of some expressions takes -/
def commonWidth : List Node → Option Nat
  | [] => none
  | [n] => n.width?
  | n :: rest => if n.width? == commonWidth rest then n.width? else none

end

mutual

/-- the first way over an expression after which the rest matches. `fuel` bounds how deep parts are tried. -/
def tried (s : Subject) : Nat → Node → Spot → (Spot → Option Spot) → Option Spot
  | 0, _, _, _ => none
  | fuel + 1, node, spot, rest =>
    match node with
    | .edge e wide => if s.isAt wide spot.place e then rest spot else none
    | .group index body =>
      tried s fuel body spot fun after =>
        rest { after with groups := (index, spot.place, after.place) :: after.groups.filter (·.1 != index) }
    | .again index fold =>
      match spot.groupText? s index with
      | none => none
      | some o =>
        let found := s.slice spot.place (spot.place + o.length)
        if found.length = o.length && (found.zip o).all fun (a, b) => same fold a b then
          rest { spot with place := spot.place + o.length }
        else none
    | .repeated least most greed body =>
      match greed, body.single? with
      | .little, _ => triedMore s fuel least most false body 0 spot rest
      | greed, some p =>
        let count := fits s p most (s.text.size - spot.place + 1) spot.place
        if count < least then none
        else if greed == .all then rest { spot with place := spot.place + count }
        else shrinking spot least rest (count - least)
      | .all, none =>
        match triedMore s fuel least most true body 0 spot some with
        | some after => rest after
        | none => none
      | .much, none => triedMore s fuel least most true body 0 spot rest
    | .sequence items => triedAll s fuel items spot rest
    | .choice branches => triedEach s fuel branches spot rest
    | .ahead negated body =>
      match tried s fuel body spot some with
      | some after => if negated then none else rest { spot with groups := after.groups }
      | none => if negated then rest spot else none
    | .behind negated body =>
      let found : Option Spot := match body.width? with
        | some n => if spot.place < n then none else tried s fuel body { spot with place := spot.place - n } some
        | none => none
      match found with
      | some after => if negated then none else rest { spot with groups := after.groups }
      | none => if negated then rest spot else none
    | .whole body =>
      match tried s fuel body spot some with
      | some after => rest after
      | none => none
    | .keep => rest { spot with start := spot.place }
    | .given index body otherwise =>
      tried s fuel (if (spot.group? index).isSome then body else otherwise) spot rest
    | single =>
      match single.single?, s.at? spot.place with
      | some p, some c => if p c then rest { spot with place := spot.place + 1 } else none
      | _, _ => none
where
  /-- how many characters from a place on pass a test -/
  fits (s : Subject) (p : Char → Bool) (most : Option Nat) : Nat → Nat → Nat
    | 0, _ => 0
    | bound + 1, place =>
      if most == some 0 then 0
      else match s.at? place with
        | some c => if p c then fits s p (most.map (· - 1)) bound (place + 1) + 1 else 0
        | none => 0
  /-- the rest after as many characters as possible, or fewer -/
  shrinking (spot : Spot) (least : Nat) (rest : Spot → Option Spot) : Nat → Option Spot
    | 0 => rest { spot with place := spot.place + least }
    | n + 1 =>
      match rest { spot with place := spot.place + least + (n + 1) } with
      | some after => some after
      | none => shrinking spot least rest n

/-- tries expressions one after the other -/
def triedAll (s : Subject) : Nat → List Node → Spot → (Spot → Option Spot) → Option Spot
  | 0, _, _, _ => none
  | _, [], spot, rest => rest spot
  | fuel + 1, node :: others, spot, rest => tried s fuel node spot fun after => triedAll s fuel others after rest

/-- tries branches -/
def triedEach (s : Subject) : Nat → List Node → Spot → (Spot → Option Spot) → Option Spot
  | 0, _, _, _ => none
  | _, [], _, _ => none
  | fuel + 1, node :: others, spot, rest =>
    match tried s fuel node spot rest with
    | some after => some after
    | none => triedEach s fuel others spot rest

/-- tries a repetition that was gone through so many times. A round that takes nothing is the last one. -/
def triedMore (s : Subject) : Nat → Nat → Option Nat → Bool → Node → Nat → Spot → (Spot → Option Spot) → Option Spot
  | 0, _, _, _, _, _, _, _ => none
  | fuel + 1, least, most, much, body, count, spot, rest =>
    let again (_ : Unit) : Option Spot :=
      if most == some count then none
      else tried s fuel body spot fun after =>
        if after.place = spot.place && least ≤ count then none
        else triedMore s fuel least most much body (count + 1) after rest
    if count < least then again ()
    else if much then
      match again () with
      | some after => some after
      | none => rest spot
    else match rest spot with
      | some after => some after
      | none => again ()

end

mutual

/-- a bound on how deep the parts of an expression lie in each other -/
def depth : Node → Nat
  | group _ body => body.depth + 2
  | repeated _ _ _ body => body.depth + 3
  | sequence items => depths items + 2
  | choice branches => depths branches + 2
  | ahead _ body => body.depth + 2
  | behind _ body => body.depth + 2
  | whole body => body.depth + 2
  | given _ body otherwise => body.depth + otherwise.depth + 2
  | _ => 1

/-- a bound for several expressions -/
def depths : List Node → Nat
  | [] => 1
  | n :: rest => n.depth + depths rest + 1

end

/-- the match that begins at a place, with what it must satisfy -/
def matchAt (s : Subject) (node : Node) (accept : Spot → Bool) (place : Nat) : Option Spot :=
  node.tried s ((node.depth + 4) * (s.text.size + 4)) ⟨place, place, []⟩ fun after =>
    if accept after then some after else none

/-- the first match from a place on -/
def search (s : Subject) (node : Node) (accept : Spot → Bool) (place : Nat) : Option Spot :=
  let rec go : Nat → Nat → Option Spot
    | 0, _ => none
    | bound + 1, place =>
      if s.text.size < place then none
      else match node.matchAt s accept place with
        | some after => some after
        | none => go bound (place + 1)
  go (s.text.size + 2 - place) place

/-- all matches from a place on. After a match that takes nothing the next one does not take nothing at that place. -/
def searchAll (s : Subject) (node : Node) : Nat → Nat → Option Nat → List Spot
  | 0, _, _ => []
  | bound + 1, place, ended =>
    match node.search { s with resumed := place }
        (fun after => !(after.place = after.start && ended == some after.place)) place with
    | none => []
    | some after =>
      after :: searchAll s node bound after.place (if after.place = after.start then some after.place else none)

end Node

end ScriptBridge.Shell.Branching
