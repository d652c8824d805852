/-
File trees: folders, files, symbolic links and devices, with a folder to start relative paths from.

`locate` follows a path through a tree as an operating system does: every name but the last has to be a folder, a link
is replaced by its target, and more than forty links are refused. What it finds is a place, named by the folders from
the top without links; from a place the node is read and replaced by `Node.at?` and `Node.set`.
-/
import ScriptBridge.Path
import ScriptBridge.Table
import ScriptBridge.Text.Measure
import ScriptBridge.Text.Utf8

namespace ScriptBridge

/-- what is no file but is read and written like one: `null` is empty and takes everything, `full` takes nothing,
`full` and `zero` hold zeros without an end -/
inductive Device where
  | null
  | full
  | zero
  | terminal
deriving DecidableEq, Repr, Inhabited

/-- what a name in a folder stands for -/
inductive Node where
  | file (content : List UInt8) (executable : Bool)
  | folder (entries : List (String × Node))
  | link (target : String)
  | device (kind : Device)
deriving Inhabited

namespace Node

/-- the node of a name in a folder -/
def child? (n : Node) (name : String) : Option Node :=
  match n with
  | .folder entries => Table.find? name entries
  | _ => none

/-- the node at the end of a list of names -/
def at? (n : Node) : List String → Option Node
  | [] => some n
  | name :: rest => (n.child? name).bind fun c => c.at? rest

/-- puts a node at the end of a list of names, or removes what is there; the folders on the way have to exist -/
def set (value : Option Node) : List String → Node → Node
  | [], n => value.getD n
  | [name], .folder entries =>
    match value with
    | some v => .folder (Table.putEntry name v entries)
    | none => .folder (entries.filter fun e => !decide (e.1 = name))
  | name :: rest, .folder entries =>
    .folder (entries.map fun e => if e.1 = name then (e.1, set value rest e.2) else e)
  | _ :: _, n => n

/-- the content of a file -/
def content? : Node → Option (List UInt8)
  | .file content _ => some content
  | _ => none

/-- whether a node is a folder -/
def isFolder : Node → Bool
  | .folder _ => true
  | _ => false

end Node

/-- why a file operation fails -/
inductive FileError where
  | notFound
  | badFormat
  | badDescriptor
  | denied
  | alreadyExists
  | notFolder
  | isFolder
  | noSpace
  | nameTooLong
  | tooManyLinks
  | nulByte
  | notText
deriving DecidableEq, Repr, Inhabited

/-- the wording of a failure -/
def FileError.message : FileError → String
  | notFound => "No such file or directory (os error 2)"
  | badFormat => "Exec format error (os error 8)"
  | badDescriptor => "Bad file descriptor (os error 9)"
  | denied => "Permission denied (os error 13)"
  | alreadyExists => "File exists (os error 17)"
  | notFolder => "Not a directory (os error 20)"
  | isFolder => "Is a directory (os error 21)"
  | noSpace => "No space left on device (os error 28)"
  | nameTooLong => "File name too long (os error 36)"
  | tooManyLinks => "Too many levels of symbolic links (os error 40)"
  | nulByte => "file name contained an unexpected NUL byte"
  | notText => "stream did not contain valid UTF-8"

/-- a file tree with the folder that relative paths start from -/
structure Files where
  top : Node
  here : List String
deriving Inhabited

/-- how much of a device without an end is read -/
def endlessSize : Nat := 1048576

/-- what is read from a device -/
def Device.content : Device → List UInt8
  | null => []
  | terminal => []
  | full => List.replicate endlessSize 0
  | zero => List.replicate endlessSize 0

/-- where a path leads: to a node, to one that is no folder although a slash follows its name, or to a name that a
folder does not have. `asFolder` says that the path ends with a slash. -/
inductive Place where
  | found (names : List String)
  | slashed (names : List String)
  | absent (folder : List String) (name : String) (asFolder : Bool)
deriving DecidableEq, Repr

/-- the parts of a path text between slashes; `true` when it starts at the top -/
def pathParts (text : String) : Bool × List String :=
  let p : Path := ⟨text⟩
  (p.isAbsolute, p.pieces.map String.ofList)

namespace Files

/-- no files at all -/
def empty : Files := ⟨.folder [], []⟩

/-- follows the parts of a path from a folder. `links` is how many links may still be followed, `last` whether a link
at the end of the path is followed too. -/
def follow (top : Node) (last : Bool) (links : Nat) (here : List String) (parts : List String) :
    Except FileError Place :=
  match parts with
  | [] => .ok (.found here)
  | part :: rest =>
    match top.at? here with
    | none => .error .notFound
    | some node =>
      if !node.isFolder then if (part :: rest).all (· == "") then .ok (.slashed here) else .error .notFolder
      else if part = "" ∨ part = "." then follow top last links here rest
      else if part = ".." then follow top last links here.dropLast rest
      else if 255 < part.utf8ByteSize then .error .nameTooLong
      else match node.child? part with
        | none =>
          if rest.all (· == "") then .ok (.absent here part !rest.isEmpty) else .error .notFound
        | some (.link target) =>
          if rest.isEmpty && !last then .ok (.found (here ++ [part]))
          else match links with
            | 0 => .error .tooManyLinks
            | links + 1 =>
              let (absolute, more) := pathParts target
              follow top last links (if absolute then [] else here) (more ++ rest)
        | some _ => follow top last links (here ++ [part]) rest
termination_by (links, parts.length)

/-- where a path leads -/
def locate (f : Files) (p : Path) (last : Bool) : Except FileError Place :=
  if p.text.isEmpty then .error .notFound
  else if p.text.toList.contains (Char.ofNat 0) then .error .nulByte
  else if 4095 < p.text.utf8ByteSize then .error .nameTooLong
  else
    let (absolute, parts) := pathParts p.text
    follow f.top last 40 (if absolute then [] else f.here) parts

/-- the node that a path leads to, links followed -/
def node (f : Files) (p : Path) : Except FileError Node := do
  match ← f.locate p true with
  | .found names => match f.top.at? names with
    | some n => .ok n
    | none => .error .notFound
  | .slashed _ => .error .notFolder
  | .absent _ _ _ => .error .notFound

/-- whether a path leads to something -/
def has (f : Files) (p : Path) : Bool := (f.node p).isOk

/-- whether a path leads to a file -/
def isFile (f : Files) (p : Path) : Bool :=
  match f.node p with
  | .ok (.file _ _) => true
  | _ => false

/-- whether a path leads to a folder -/
def isFolder (f : Files) (p : Path) : Bool :=
  match f.node p with
  | .ok (.folder _) => true
  | _ => false

/-- the content of a file -/
def read (f : Files) (p : Path) : Except FileError (List UInt8) := do
  match ← f.node p with
  | .file content _ => .ok content
  | .device d => .ok d.content
  | _ => .error .isFolder

/-- the text of a file -/
def readText (f : Files) (p : Path) : Except FileError String := do
  match Text.decode? (← f.read p) with
  | some text => .ok (String.ofList text)
  | none => .error .notText

/-- why nothing can be made in a folder: two folders at the top only show what the system does -/
def barred? (folder : List String) : Option FileError :=
  match folder with
  | "proc" :: _ => some .notFound
  | "sys" :: _ => some .denied
  | _ => none

/-- gives a file a content; a file that does not exist is made. A path that ends with a slash names no file. -/
def write (f : Files) (p : Path) (content : List UInt8) : Except FileError Files := do
  match ← f.locate p true with
  | .found names =>
    match f.top.at? names with
    | some (.file _ executable) => .ok { f with top := f.top.set (some (.file content executable)) names }
    | some (.device .full) => if content.isEmpty then .ok f else .error .noSpace
    | some (.device _) => .ok f
    | _ => .error .isFolder
  | .slashed _ => .error .isFolder
  | .absent folder name asFolder =>
    if asFolder then .error .isFolder
    else match barred? folder with
      | some e => .error e
      | none => .ok { f with top := f.top.set (some (.file content false)) (folder ++ [name]) }

/-- gives a file a text -/
def writeText (f : Files) (p : Path) (text : String) : Except FileError Files :=
  f.write p (Text.encode text.toList)

/-- removes a file or a link; what is not there stays so -/
def remove (f : Files) (p : Path) : Files :=
  match f.locate p false with
  | .ok (.found names) => { f with top := f.top.set none names }
  | _ => f

/-- a path without the slashes at its end -/
def withoutEndSlashes (p : Path) : Path :=
  match (p.text.toList.reverse.dropWhile (· == '/')).reverse with
  | [] => p
  | kept => ⟨String.ofList kept⟩

/-- makes one folder; slashes at the end of its name do not count -/
def makeFolder (f : Files) (p : Path) : Except FileError Files := do
  match ← f.locate (withoutEndSlashes p) false with
  | .found _ => .error .alreadyExists
  | .slashed _ => .error .notFolder
  | .absent folder name _ =>
    match barred? folder with
    | some e => .error e
    | none => .ok { f with top := f.top.set (some (.folder [])) (folder ++ [name]) }

/-- makes a folder and those above it that are missing; `steps` bounds the number of folders above -/
def makeFoldersUpTo : Nat → Files → Path → Except FileError Files
  | 0, _, _ => .error .notFound
  | steps + 1, f, p =>
    if p.text.isEmpty then .ok f
    else
      let settle (f : Files) (e : FileError) : Except FileError Files := if f.isFolder p then .ok f else .error e
      match f.makeFolder p with
      | .ok f => .ok f
      | .error .notFound => do
        let f ← match p.parent? with
          | some above => makeFoldersUpTo steps f above
          | none => .error .notFound
        match f.makeFolder p with
        | .ok f => .ok f
        | .error e => settle f e
      | .error e => settle f e

/-- makes a folder and those above it that are missing -/
def makeFolders (f : Files) (p : Path) : Except FileError Files :=
  makeFoldersUpTo (p.text.length + 1) f p

/-- puts a node at a path, with the folders above it -/
def place (f : Files) (p : Path) (value : Node) : Except FileError Files := do
  let f ← match p.parent? with
    | some above => f.makeFolders above
    | none => .ok f
  match ← f.locate p false with
  | .found names => .ok { f with top := f.top.set (some value) names }
  | .slashed _ => .error .notFolder
  | .absent folder name _ => .ok { f with top := f.top.set (some value) (folder ++ [name]) }

end Files

end ScriptBridge
