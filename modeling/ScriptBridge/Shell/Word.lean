/-
What words come to. An expanded word is a list of atoms; atoms are cut into fields where characters separate them, and
a field whose pattern matches files stands for those.
-/
import ScriptBridge.Shell.Names
import ScriptBridge.Shell.Pattern

namespace ScriptBridge.Shell

/-- an atom of an expanded word: a character, a mark that a quoted part was there even if it is empty, a mark that a
quoted list of arguments was empty, or a gap between words. A character that splits may separate words. -/
inductive Atom where
  | char (c : Char) (quoted splits : Bool)
  | mark
  | vanished
  | gap

/-- a word before its pattern is matched with files: characters, each with whether it is quoted -/
abbrev Field := List (Char × Bool)

/-- the text of a field -/
def fieldText (f : Field) : Octets := f.map Prod.fst

/-- the atoms of a value -/
def valueAtoms (quoted : Bool) (o : Octets) : List Atom := o.map fun c => .char c quoted (!quoted)

/-- all characters of atoms as one text -/
def joinAtoms (atoms : List Atom) : Field :=
  atoms.filterMap fun
    | .char c quoted _ => some (c, quoted)
    | .gap => some (' ', true)
    | _ => none

/-! ## Cutting into fields -/

/-- whether a character is a blank that may separate words together with others -/
def isBlankSeparator (c : Char) : Bool := c == ' ' || c == '\t' || c == '\n'

/-- what cutting has reached: the fields so far and the characters of the current one, the last ones first; whether a
quoted part of it was there, whether an empty list of arguments was, and whether blanks have just ended a field -/
structure Cutting where
  done : List Field
  current : Field
  marked : Bool
  gone : Bool
  afterBlank : Bool

namespace Cutting

/-- ends the current field, if there is one -/
def close (s : Cutting) (afterBlank : Bool) : Cutting :=
  if !s.current.isEmpty || (s.marked && !s.gone) then ⟨s.current.reverse :: s.done, [], false, false, afterBlank⟩
  else ⟨s.done, [], false, false, s.afterBlank⟩

/-- goes on by an atom. A separator that is no blank ends a field even if that is empty, but belongs to blanks that
have just ended one. -/
def step (separators : Octets) (s : Cutting) : Atom → Cutting
  | .mark => { s with marked := true }
  | .vanished => { s with gone := true }
  | .gap => s.close false
  | .char c quoted splits =>
    if splits && separators.contains c then
      if isBlankSeparator c then s.close true
      else if s.afterBlank && s.current.isEmpty && !s.marked then { s with afterBlank := false }
      else ⟨s.current.reverse :: s.done, [], false, false, false⟩
    else { s with current := (c, quoted) :: s.current, afterBlank := false }

end Cutting

/-- cuts atoms into fields -/
def splitAtoms (separators : Octets) (atoms : List Atom) : List Field :=
  ((atoms.foldl (Cutting.step separators) ⟨[], [], false, false, false⟩).close false).done.reverse

/-- characters of a line, each with whether it may separate -/
abbrev LineChars := List (Char × Bool)

/-- a line without separating blanks at its start -/
def dropBlankSeparators (separators : Octets) (o : LineChars) : LineChars :=
  o.dropWhile fun (c, free) => free && isBlankSeparator c && separators.contains c

/-- the first field of a line, and what follows the separator after it -/
def takeField (separators : Octets) (o : LineChars) : Octets × LineChars :=
  let field := o.takeWhile fun (c, free) => !(free && separators.contains c)
  let rest := dropBlankSeparators separators (o.drop field.length)
  let rest := match rest with
    | (c, free) :: more =>
      if free && separators.contains c && !isBlankSeparator c then dropBlankSeparators separators more else rest
    | [] => []
  (field.map Prod.fst, rest)

/-- the fields of a line assigned to names. The last name takes all that is left, without blanks at its end; a single
separator at its end is dropped too if nothing else separates it. -/
def assignFields (separators : Octets) : List Octets → LineChars → List (Octets × Octets)
  | [], _ => []
  | [name], o =>
    let (field, rest) := takeField separators o
    let whole := (dropBlankSeparators separators o.reverse).reverse
    [(name, if rest.isEmpty then field else whole.map Prod.fst)]
  | name :: names, o =>
    let (field, rest) := takeField separators o
    (name, field) :: assignFields separators names rest

/-! ## Patterns -/

/-- a field cut at its slashes -/
def fieldPieces (f : Field) : List Field :=
  let (done, last) := f.foldl (fun (acc : List Field × Field) c =>
    if c.1 == '/' then (acc.2.reverse :: acc.1, []) else (acc.1, c :: acc.2)) ([], [])
  (last.reverse :: done).reverse

/-- the paths that pieces of a pattern match, below a path that is already fixed -/
def matchPieces (files : Files) : Option Octets → List Field → List Octets
  | base, [] => [base.getD []]
  | base, piece :: rest =>
    let extend (name : Octets) : Octets := match base with
      | none => name
      | some b => b ++ '/' :: name
    if !isWild piece then matchPieces files (some (extend (fieldText piece))) rest
    else
      let folder : Path := match base with
        | none => ⟨"."⟩
        | some b => if b.isEmpty then ⟨"/"⟩ else pathOf b
      let showsHidden := piece.head?.map Prod.fst == some '.'
      let names := ((listFolder files true folder).map fun names => ['.'] :: ['.', '.'] :: names).getD []
      let names := names.filter fun n => (showsHidden || n.head? != some '.') && patternMatches piece n
      names.flatMap fun n => matchPieces files (some (extend n)) rest

/-- the words that a field stands for: the files it matches, or itself -/
def matchFiles (files : Files) (f : Field) : List Octets :=
  if !isWild f then [fieldText f]
  else
    let found := (matchPieces files none (fieldPieces f)).filter fun o => files.has (pathOf o)
    if found.isEmpty then [fieldText f] else found

/-- a text without the shortest or longest start or end that matches a pattern -/
def dropMatching (fromStart longest : Bool) (pattern : Field) (o : Octets) : Octets :=
  let lengths := List.range (o.length + 1)
  let lengths := if longest then lengths.reverse else lengths
  let part (n : Nat) := if fromStart then o.take n else o.drop (o.length - n)
  match lengths.find? fun n => patternMatches pattern (part n) with
  | some n => if fromStart then o.drop n else o.take (o.length - n)
  | none => o

end ScriptBridge.Shell
