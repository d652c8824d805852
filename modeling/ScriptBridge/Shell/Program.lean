/-
What a program name leads to: a shell, one of the utilities, or a script that names its interpreter in its first line.
A name with a slash is a path; any other name is looked for in folders.
-/
import ScriptBridge.Files.BaseSystem
import ScriptBridge.Shell.Names

namespace ScriptBridge.Shell

/-- the language of a shell: the plain one, or the one with arrays and further expansions -/
inductive Dialect where
  | plain
  | extended
deriving DecidableEq, Inhabited

/-- what can be run; a script runs its interpreter, which was looked for when the script was -/
inductive Executable where
  | shell (dialect : Dialect)
  | utility (name : String)
  | script (interpreter : Octets) (option : Option Octets) (path : Octets) (inner : Executable)
deriving Inhabited

/-- what a program of a machine is -/
def Executable.ofProgram (name : String) : Executable :=
  if name == "dash" then .shell .plain
  else if name == "bash" then .shell .extended
  else .utility name

/-- how much of a script is looked at for its interpreter -/
def firstLineBound : Nat := 255

/-- the interpreter that the first line of a script names, with its option. The name ends at a blank or a zero byte. A
line that is too long is cut off, unless that might cut the name. -/
def interpreter? (content : Octets) : Option (Octets × Option Octets) :=
  match content with
  | '#' :: '!' :: rest =>
    let isGap (c : Char) := c == ' ' || c == '\t'
    let ends (c : Char) := isGap c || c == Char.ofNat 0
    let seen := rest.take (firstLineBound - 2)
    let line := (seen.takeWhile (· != '\n')).dropWhile isGap
    let whole : Bool := rest.length < firstLineBound - 2 || (rest.take (firstLineBound - 1)).contains '\n'
    let program := line.takeWhile fun c => !ends c
    if program.isEmpty || !(whole || line.any ends) then none
    else
      let after := ((line.drop program.length).reverse.dropWhile isGap).reverse
      let option := if after.head?.any isGap then (after.dropWhile isGap).takeWhile (· != Char.ofNat 0) else []
      some (program, if option.isEmpty then none else some option)
  | _ => none

/-- the program that lies at a path, or why there is none; `depth` is how many scripts may interpret each other -/
def programWithin (files : Files) : Nat → Octets → Except FileError Executable
  | depth, name =>
    match files.node (pathOf name) with
    | .error e => .error e
    | .ok (.file content executable) =>
      if !executable then .error .denied
      else match programName? content with
        | some program => .ok (.ofProgram program)
        | none => match interpreter? (ofBytes content) with
          | none => .error .badFormat
          | some (program, option) =>
            match depth with
            | 0 => .error .tooManyLinks
            | depth + 1 => (programWithin files depth program).map fun inner => .script program option name inner
    | .ok _ => .error .denied

/-- the program that lies at a path, or why there is none -/
def programAt (files : Files) (name : Octets) : Except FileError Executable := programWithin files 5 name

/-- the folders that programs are looked for in when nothing else is said -/
def usualFolders : List Octets := [octets "/bin", octets "/usr/bin"]

/-- the folders of a shell whose environment names none -/
def shellFolders : Octets := octets "/usr/local/sbin:/usr/local/bin:/usr/sbin:/usr/bin:/sbin:/bin"

/-- the folders that an environment names -/
def foldersOf (environment : List (Octets × Octets)) : List Octets :=
  match environment.find? fun e => e.1 == "PATH".toList with
  | some (_, folders) => cutAt ':' folders
  | none => usualFolders

/-- the path and the program that a name leads to for a shell, or why there is none. A name without a slash is looked for
in folders; what cannot be run there is passed over, but is the cause when nothing else is found. -/
def findProgram (files : Files) (folders : List Octets) (name : Octets) : Except FileError (Octets × Executable) :=
  if name.contains '/' then (programAt files name).map fun program => (name, program)
  else if name.isEmpty then .error .notFound
  else folders.foldl (fun found folder =>
    match found with
    | .ok _ => found
    | .error e =>
      let path := if folder.isEmpty then octets "./" ++ name else folder ++ '/' :: name
      match programAt files path with
      | .ok program => .ok (path, program)
      | .error .badFormat => .error .badFormat
      | .error .denied => if files.isFile (pathOf path) then .error .denied else .error e
      | .error _ => .error e) (.error .notFound)

/-- the path and the program that a name leads to for the system, or why there is none. What cannot be run is passed
over; it is the cause in the end if it may not be run, and otherwise the last cause is. -/
def findSystemProgram (files : Files) (folders : List Octets) (name : Octets) :
    Except FileError (Octets × Executable) :=
  if name.contains '/' then (programAt files name).map fun program => (name, program)
  else if name.isEmpty then .error .notFound
  else
    let rec search (denied : Bool) (last : FileError) : List Octets → Except FileError (Octets × Executable)
      | [] => .error (if denied then .denied else last)
      | folder :: rest =>
        let path := if folder.isEmpty then name else folder ++ '/' :: name
        match programAt files path with
        | .ok program => .ok (path, program)
        | .error .denied => search true .denied rest
        | .error .notFound => search denied .notFound rest
        | .error .notFolder => search denied .notFolder rest
        | .error e => .error e
    search false .notFound folders

end ScriptBridge.Shell
