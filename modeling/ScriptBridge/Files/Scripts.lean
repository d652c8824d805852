/-
The scripts that lint inputs stand for. An input that is a file stands for itself, whatever its name; a folder stands
for the files with the extension `gd` below it, where neither names that start with a dot nor links are followed; an
input that does not exist is missing. Scripts are put in the order of paths, each once, under the spelling met first.
-/
import ScriptBridge.Files.Tree

namespace ScriptBridge

/-- the scripts and the missing inputs of a lint -/
structure ScriptSet where
  files : List Path
  missing : List Path
deriving DecidableEq, Repr, Inhabited

namespace ScriptSet

/-- whether a name in a folder is passed over -/
def isHidden (name : String) : Bool := name.toList.head? == some '.'

/-- whether a path has the extension of scripts -/
def isScript (p : Path) : Bool := p.extension? == some ['g', 'd']

mutual

/-- the scripts below a folder that is named by a path -/
def below (p : Path) : Node → List Path
  | .folder entries => among p entries
  | _ => []

/-- the scripts among the entries of a folder that is named by a path -/
def among (p : Path) : List (String × Node) → List Path
  | [] => []
  | (name, .file _ _) :: rest =>
    if !isHidden name && isScript (p.child name) then p.child name :: among p rest else among p rest
  | (_, .link _) :: rest => among p rest
  | (_, .device _) :: rest => among p rest
  | (name, .folder entries) :: rest =>
    if isHidden name then among p rest else below (p.child name) (.folder entries) ++ among p rest

end

/-- puts a path into a list in the order of paths, unless it is there -/
def insert (p : Path) : List Path → List Path
  | [] => [p]
  | q :: rest => if p.less q then p :: q :: rest else if q.less p then q :: insert p rest else q :: rest

/-- adds what one input stands for -/
def add (f : Files) (set : ScriptSet) (input : Path) : ScriptSet :=
  match f.node input with
  | .ok (.file _ _) => { set with files := insert input set.files }
  | .ok node => { set with files := (below input node).foldl (fun l p => insert p l) set.files }
  | .error _ => { set with missing := set.missing ++ [input] }

/-- what a list of inputs stands for -/
def collect (f : Files) (inputs : List Path) : ScriptSet := inputs.foldl (add f) ⟨[], []⟩

end ScriptSet

end ScriptBridge
