/-
Patterns of the extended shell, as in `case`, in conditions and on words. Beside stars, question marks and bracketed
sets there are groups, where they are known: `?(…)`, `*(…)`, `+(…)`, `@(…)` and `!(…)` with choices between bars.

A pattern is matched by the rests that it can leave of a text; `restsOf` lists them, longest first. A text matches when
nothing can be left of it.
-/
import ScriptBridge.Shell.Word

namespace ScriptBridge.Shell.Extended

/-- an item of a pattern -/
inductive GlobItem where
  | one (c : Char)
  | any
  | many
  | among (negated : Bool) (items : List SetItem)
  | group (mark : Char) (choices : List (List GlobItem))

/-- how patterns are read and matched -/
structure GlobStyle where
  groups : Bool
  caseless : Bool

mutual

/-- the items of a pattern, up to the end of a group or of one of its choices where `inside` says that it is in one -/
def readGlob (groups : Bool) : Nat → Bool → List PatternChar → List GlobItem × List PatternChar
  | 0, _, _ => ([], [])
  | _, _, [] => ([], [])
  | fuel + 1, inside, (c, quoted) :: rest =>
    let onward (item : GlobItem) (rest : List PatternChar) : List GlobItem × List PatternChar :=
      let (items, rest) := readGlob groups fuel inside rest
      (item :: items, rest)
    if quoted then onward (.one c) rest
    else if inside && (c == '|' || c == ')') then ([], (c, quoted) :: rest)
    else
      let opens : Bool := match rest with
        | ('(', false) :: _ => groups && "?*+@!".toList.contains c
        | _ => false
      if opens then
        let (choices, rest) := readChoices groups fuel (rest.drop 1)
        onward (.group c choices) rest
      else match c with
        | '*' => onward .many rest
        | '?' => onward .any rest
        | '[' =>
          match readBracket ['!', '^'] (rest.map Prod.fst) with
          | some ((negated, items), after) => onward (.among negated items) (rest.drop (rest.length - after.length))
          | none => onward (.one c) rest
        | '\\' => match rest with
          | (d, _) :: rest => onward (.one d) rest
          | [] => ([.one c], [])
        | c => onward (.one c) rest

/-- the choices of a group, after its parenthesis -/
def readChoices (groups : Bool) : Nat → List PatternChar → List (List GlobItem) × List PatternChar
  | 0, rest => ([], rest)
  | fuel + 1, o =>
    let (items, rest) := readGlob groups fuel true o
    match rest with
    | ('|', _) :: rest =>
      let (others, rest) := readChoices groups fuel rest
      (items :: others, rest)
    | _ :: rest => ([items], rest)
    | [] => ([items], [])

end

/-- all ends of a text, itself first -/
def endsOf : Octets → List Octets
  | [] => [[]]
  | c :: rest => (c :: rest) :: endsOf rest

/-- ends of one text, longest first and each once -/
def distinctEnds (ends : List Octets) : List Octets :=
  let sorted := ends.mergeSort fun a b => b.length ≤ a.length
  sorted.foldr (fun o kept => match kept with
    | other :: _ => if o.length == other.length then kept else o :: kept
    | [] => [o]) []

/-- whether a character is meant by another one -/
def sameChar (style : GlobStyle) (a b : Char) : Bool := a == b || (style.caseless && a.toLower == b.toLower)

/-- whether a set has a character -/
def setHas (style : GlobStyle) (items : List SetItem) (c : Char) : Bool :=
  inSet items c || (style.caseless && (inSet items c.toLower || inSet items c.toUpper))

mutual

/-- what items can leave of texts that are ends of one text -/
def restsOf (style : GlobStyle) : Nat → List GlobItem → List Octets → List Octets
  | 0, _, _ => []
  | _, [], ends => ends
  | fuel + 1, item :: items, ends =>
    if ends.isEmpty then []
    else
      let next (p : Char → Bool) : List Octets := ends.filterMap fun
        | c :: rest => if p c then some rest else none
        | [] => none
      let after : List Octets := match item with
        | .one d => next fun c => sameChar style c d
        | .any => next fun _ => true
        | .among negated set => next fun c => setHas style set c != negated
        | .many => endsOf (ends.headD [])
        | .group mark choices =>
          let once := distinctEnds (anyRests style fuel choices ends)
          match mark with
          | '@' => once
          | '?' => distinctEnds (ends ++ once)
          | '+' => repeated style fuel choices once
          | '*' => repeated style fuel choices ends
          | _ => distinctEnds (ends.flatMap fun o =>
              let taken := (anyRests style fuel choices [o]).map List.length
              (endsOf o).filter fun e => !taken.contains e.length)
      restsOf style fuel items after

/-- what one of some choices can leave -/
def anyRests (style : GlobStyle) : Nat → List (List GlobItem) → List Octets → List Octets
  | 0, _, _ => []
  | _, [], _ => []
  | fuel + 1, choice :: choices, ends => restsOf style fuel choice ends ++ anyRests style fuel choices ends

/-- what choices can leave when they are taken again and again -/
def repeated (style : GlobStyle) : Nat → List (List GlobItem) → List Octets → List Octets
  | 0, _, ends => ends
  | fuel + 1, choices, ends =>
    let more := distinctEnds (ends ++ anyRests style fuel choices ends)
    if more.length == ends.length then ends else repeated style fuel choices more

end

/-- a pattern that was read, with a bound on what matching it takes -/
structure Glob where
  style : GlobStyle
  items : List GlobItem
  bound : Nat

/-- reads a pattern -/
def Glob.read (style : GlobStyle) (pattern : List PatternChar) : Glob :=
  ⟨style, (readGlob style.groups (2 * pattern.length + 2) false pattern).1, pattern.length⟩

/-- what a pattern can leave of a text, longest first -/
def Glob.rests (g : Glob) (o : Octets) : List Octets := restsOf g.style (4 * (g.bound + o.length) + 8) g.items [o]

/-- whether a pattern matches a whole text -/
def Glob.matches (g : Glob) (o : Octets) : Bool := (g.rests o).any List.isEmpty

/-- a text without the shortest or longest start or end that matches -/
def Glob.dropFrom (g : Glob) (fromStart longest : Bool) (o : Octets) : Octets :=
  if fromStart then
    let rests := g.rests o
    ((if longest then rests.getLast? else rests.head?).getD o)
  else
    let starts := (List.range (o.length + 1)).filter fun n => g.matches (o.drop n)
    match (if longest then starts.head? else starts.getLast?) with
    | some n => o.take n
    | none => o

/-- the longest match at the start of a text, with what it leaves -/
def Glob.atStart (g : Glob) (o : Octets) : Option (Octets × Octets) :=
  ((g.rests o).getLast?).map fun rest => (o.take (o.length - rest.length), rest)

/-- a text with matches replaced; an empty match is none -/
def Glob.replaceAll (g : Glob) (all : Bool) (replacement : Octets → Octets) : Nat → Octets → Octets
  | 0, o => o
  | _, [] => []
  | fuel + 1, c :: rest =>
    match g.atStart (c :: rest) with
    | some (found, after) =>
      if found.isEmpty then c :: g.replaceAll all replacement fuel rest
      else replacement found ++ (if all then g.replaceAll all replacement fuel after else after)
    | none => c :: g.replaceAll all replacement fuel rest

/-! ## Files -/

/-- whether a pattern stands for more than its own characters -/
def isGlob (groups : Bool) (pattern : List PatternChar) : Bool :=
  isWild pattern || (groups && (pattern.zip (pattern.drop 1)).any fun (a, b) =>
    !a.2 && !b.2 && b.1 == '(' && "+@!".toList.contains a.1)

/-- how files are matched: whether hidden ones count, and whether two stars go through folders -/
structure FileStyle extends GlobStyle where
  hidden : Bool
  deep : Bool

/-- all folders below a folder, by their paths from it, in order; hidden ones count where that is said -/
def foldersBelow (files : Files) (hidden : Bool) : Nat → Octets → List Octets
  | 0, _ => []
  | fuel + 1, base =>
    let inside (name : Octets) : Octets := if base.isEmpty then name else base ++ '/' :: name
    let names := ((listFolder files hidden (if base.isEmpty then ⟨"."⟩ else pathOf base)).getD [])
    (names.filter fun n => files.isFolder (pathOf (inside n))).flatMap fun n =>
      inside n :: foldersBelow files hidden fuel (inside n)

/-- the paths that pieces of a pattern match, below a path that is already fixed -/
def globPieces (style : FileStyle) (files : Files) : Option Octets → List Field → List Octets
  | base, [] => [base.getD []]
  | base, piece :: rest =>
    let extend (name : Octets) : Octets := match base with
      | none => name
      | some b => b ++ '/' :: name
    if style.deep && piece.map Prod.fst == ['*', '*'] && piece.all (fun c => !c.2) then
      let here : Octets := (base.getD [])
      let below := foldersBelow files style.hidden 64 here
      if rest.isEmpty then
        let all := (here :: below).flatMap fun b =>
          ((listFolder files style.hidden (if b.isEmpty then ⟨"."⟩ else pathOf b)).getD []).map fun n =>
            if b.isEmpty then n else b ++ '/' :: n
        ((if here.isEmpty then [] else [here ++ ['/']]) ++ all.mergeSort inOrder)
      else (none :: below.map some).flatMap fun b => globPieces style files (match b with
        | none => base
        | some b => some b) rest
    else if !isGlob style.groups piece then globPieces style files (some (extend (fieldText piece))) rest
    else
      let folder : Path := match base with
        | none => ⟨"."⟩
        | some b => if b.isEmpty then ⟨"/"⟩ else pathOf b
      let showsHidden := style.hidden || piece.head?.map Prod.fst == some '.'
      let glob := Glob.read style.toGlobStyle piece
      let names := ((listFolder files true folder).getD []).filter fun n =>
        (showsHidden || n.head? != some '.') && glob.matches n
      names.flatMap fun n => globPieces style files (some (extend n)) rest

/-- the files that a field matches; `none` when it is no pattern -/
def globFiles (style : FileStyle) (files : Files) (f : Field) : Option (List Octets) :=
  if !isGlob style.groups f then none
  else some ((globPieces style files none (fieldPieces f)).filter fun o => files.has (pathOf o))

end ScriptBridge.Shell.Extended
