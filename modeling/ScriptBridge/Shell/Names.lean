/-
File names as scripts write them: the path that octets name, the last part of a path and what stands before it, and
the names that a folder holds.
-/
import ScriptBridge.Files.Tree
import ScriptBridge.Shell.Octets

namespace ScriptBridge.Shell

/-- the path that octets name -/
def pathOf (o : Octets) : Path := ⟨text o⟩

/-- the octets of a place in the tree, from the top -/
def placeText (names : List String) : Octets := octets ("/" ++ String.intercalate "/" names)

/-- the device that octets name, if they name one -/
def deviceAt? (files : Files) (o : Octets) : Option Device :=
  match files.node (pathOf o) with
  | .ok (.device d) => some d
  | _ => none

/-- why a file cannot be used, without the number of the cause -/
def briefCause (e : FileError) : Octets := (octets e.message).takeWhile (· != '(') |>.reverse.drop 1 |>.reverse

/-- a text without slashes at its end -/
def withoutSlashes (o : Octets) : Octets := (o.reverse.dropWhile (· == '/')).reverse

/-- the last part of a path -/
def lastPart (o : Octets) : Octets :=
  let path := withoutSlashes o
  if path.isEmpty && !o.isEmpty then ['/'] else (path.reverse.takeWhile (· != '/')).reverse

/-- the last part of a path without an ending, if it has it -/
def lastPartWithout (ending o : Octets) : Octets :=
  let name := lastPart o
  if ending.reverse.isPrefixOf name.reverse && name != ending then name.take (name.length - ending.length) else name

/-- a path without its last part -/
def partsBefore (o : Octets) : Octets :=
  let path := withoutSlashes o
  if !path.contains '/' then if path.isEmpty && !o.isEmpty then ['/'] else ['.']
  else
    let above := withoutSlashes (path.reverse.dropWhile (· != '/')).reverse
    if above.isEmpty then ['/'] else above

/-- the names in a folder that are shown, in order -/
def listFolder (files : Files) (all : Bool) (path : Path) : Option (List Octets) :=
  match files.node path with
  | .ok (.folder entries) =>
    let names := (entries.map fun e => octets e.1).filter fun n => all || n.head? != some '.'
    some (names.mergeSort inOrder)
  | _ => none

end ScriptBridge.Shell
