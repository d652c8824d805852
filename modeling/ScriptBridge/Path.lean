/-
Paths of files. A path is kept as it was written; what it names is its list of components, in which repeated slashes,
a slash at the end and a `.` after the start do not count. Two paths are equal as paths when their components are.

`join` keeps the spelling of both parts. `relativeTo?` takes a root off the front of a path, component by component,
and keeps the spelling of what follows.
-/
import ScriptBridge.Text.Lines

namespace ScriptBridge

/-- a path as it was written -/
structure Path where
  text : String
deriving DecidableEq, Repr, Inhabited

namespace Path

open Text

/-- what a path is made of. `current` stands only at the start of a relative path. -/
inductive Component where
  | root
  | current
  | parent
  | name (s : List Char)
deriving DecidableEq, Repr

/-- whether a path starts at the root of the file tree -/
def isAbsolute (p : Path) : Bool := p.text.toList.head? == some '/'

/-- the parts of a path between slashes, without the slash that an absolute path starts with -/
def pieces (p : Path) : List (List Char) :=
  splitOn '/' (if p.isAbsolute then p.text.toList.drop 1 else p.text.toList)

/-- a piece that names nothing -/
def isSkipped (piece : List Char) : Bool := piece = [] || piece = ['.']

/-- the component that a piece is, away from the start of a relative path -/
def ofPiece? (piece : List Char) : Option Component :=
  if isSkipped piece then none else if piece = ['.', '.'] then some .parent else some (.name piece)

/-- the components of a path -/
def components (p : Path) : List Component :=
  if p.isAbsolute then .root :: p.pieces.filterMap ofPiece?
  else if p.pieces.head? = some ['.'] then .current :: p.pieces.filterMap ofPiece?
  else p.pieces.filterMap ofPiece?

/-- place of a kind of component in the order of paths -/
def Component.rank : Component → Nat
  | .root => 0
  | .current => 1
  | .parent => 2
  | .name _ => 3

/-- the name of a component that has one -/
def Component.chars : Component → List Char
  | .name s => s
  | _ => []

/-- order of components: by kind, names by their characters -/
def Component.less (a b : Component) : Bool :=
  a.rank < b.rank || (a.rank == b.rank && decide (a.chars < b.chars))

/-- order of lists of components: at the first difference; a first part comes before the whole -/
def lessComponents : List Component → List Component → Bool
  | [], [] => false
  | [], _ :: _ => true
  | _ :: _, [] => false
  | a :: as, b :: bs => a.less b || (a == b && lessComponents as bs)

/-- order of paths -/
def less (p q : Path) : Bool := lessComponents p.components q.components

/-- a path below another one. An absolute path stays as it is; one slash is put between the two if it is missing. -/
def join (p : Path) (more : Path) : Path :=
  if more.isAbsolute then more
  else
    let front := p.text.toList
    if front.isEmpty || front.getLast? == some '/' then ⟨p.text ++ more.text⟩ else ⟨p.text ++ "/" ++ more.text⟩

/-- a path below another one, given by its text -/
def child (p : Path) (name : String) : Path := p.join ⟨name⟩

/-- pieces without those at the end that name nothing -/
def dropSkippedEnd (ps : List (List Char)) : List (List Char) :=
  (ps.reverse.dropWhile isSkipped).reverse

/-- the text after a number of components has been taken off the front: the first piece that counts is dropped as
often, then what names nothing at both ends -/
def afterComponents : Nat → List (List Char) → List Char
  | 0, ps => joinWith '/' (dropSkippedEnd (ps.dropWhile isSkipped))
  | n + 1, ps => afterComponents n ((ps.dropWhile isSkipped).drop 1)

/-- the text of a path without what names nothing at its end -/
def trimmedText (p : Path) : List Char :=
  if p.isAbsolute then '/' :: joinWith '/' (dropSkippedEnd p.pieces)
  else match p.pieces with
    | [] => []
    | first :: rest => joinWith '/' (first :: dropSkippedEnd rest)

/-- the part of a path below a root; `none` when the path does not start with the components of the root -/
def relativeTo? (root p : Path) : Option String :=
  if root.components.isPrefixOf p.components then
    match root.components with
    | [] => some (String.ofList p.trimmedText)
    | .root :: rest => some (String.ofList (afterComponents rest.length p.pieces))
    | .current :: rest => some (String.ofList (afterComponents rest.length (p.pieces.drop 1)))
    | all => some (String.ofList (afterComponents all.length p.pieces))
  else none

/-- the path above a path; `none` for the root and for a path without components -/
def parent? (p : Path) : Option Path :=
  if p.isAbsolute then
    match dropSkippedEnd p.pieces with
    | [] => none
    | ps => some ⟨String.ofList ('/' :: joinWith '/' (dropSkippedEnd ps.dropLast))⟩
  else match p.pieces with
    | [] => none
    | first :: rest =>
      match dropSkippedEnd rest with
      | [] => if first = [] then none else some ⟨""⟩
      | ps => some ⟨String.ofList (joinWith '/' (first :: dropSkippedEnd ps.dropLast))⟩

/-- the name of the file at the end of a path -/
def fileName? (p : Path) : Option (List Char) :=
  match p.components.getLast? with
  | some (.name s) => some s
  | _ => none

/-- what follows the last dot of a file name; a dot at the start of the name does not count -/
def extension? (p : Path) : Option (List Char) :=
  p.fileName?.bind fun name =>
    match (splitOn '.' name).reverse with
    | last :: before :: more => if more = [] ∧ before = [] then none else some last
    | _ => none

end Path

end ScriptBridge
