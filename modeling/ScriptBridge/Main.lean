/-
The program on a real machine. It reads into a file tree the folder it starts in and every file or folder that its
arguments, its settings or its environment may name, runs on that tree, and then makes on disk what differs. A file
that begins with the name of an interpreter counts as executable.
-/
import ScriptBridge.Cli.Program
import ScriptBridge.Shell.Launch

namespace ScriptBridge.Main

open Cli

/-- the node on disk at a path without links -/
partial def loadNode (path : String) : IO (Option Node) := do
  try
    let real ← IO.FS.realPath path
    if real.toString != path then return some (.link real.toString)
    if ← real.isDir then
      let mut entries : List (String × Node) := []
      for entry in ← real.readDir do
        match ← loadNode (path ++ "/" ++ entry.fileName) with
        | some node => entries := (entry.fileName, node) :: entries
        | none => pure ()
      return some (.folder entries.reverse)
    else
      let content := (← IO.FS.readBinFile path).toList
      return some (.file content ((Shell.interpreter? (Shell.ofBytes (content.take 256))).isSome))
  catch _ => return none

/-- adds what lies on disk at a path, unless the tree has it -/
def loadInto (files : Files) (path : String) : IO Files := do
  if files.has ⟨path⟩ then return files
  try
    let real := (← IO.FS.realPath path).toString
    match ← loadNode real with
    | some node =>
      let files := (files.place ⟨real⟩ node).toOption.getD files
      return if real == path then files else (files.place ⟨path⟩ (.link real)).toOption.getD files
    | none => return files
  catch _ => return files

/-- makes on disk at a path what a tree has there, where it differs from an earlier tree -/
partial def store (path : String) (before after : Option Node) : IO Unit := do
  match before, after with
  | some (.file old _), some (.file new _) => if old != new then IO.FS.writeBinFile path ⟨new.toArray⟩
  | _, some (.file new _) => IO.FS.writeBinFile path ⟨new.toArray⟩
  | some (.folder old), some (.folder new) =>
    for (name, node) in new do
      store (path ++ "/" ++ name) (Table.find? name old) (some node)
    for (name, node) in old do
      if (Table.find? name new).isNone then store (path ++ "/" ++ name) (some node) none
  | _, some (.folder new) =>
    IO.FS.createDirAll path
    for (name, node) in new do
      store (path ++ "/" ++ name) none (some node)
  | some (.folder _), none => IO.FS.removeDirAll path
  | some _, none => IO.FS.removeFile path
  | _, _ => pure ()

/-- the environment variables that the program and the tool see -/
def environment : IO (List (String × String)) := do
  let names := ["HOME", "PATH", "XDG_CONFIG_HOME", "GODOT_FORMATTER_PATH", "GODOT_FORMATTER_SETTINGS"]
  let values ← names.mapM fun name => do return (← IO.getEnv name).map fun value => (name, value)
  return values.filterMap id

end ScriptBridge.Main

open ScriptBridge in
/-- runs the program and gives its exit code -/
def main (args : List String) : IO UInt32 := do
  let folder := (← IO.FS.realPath (← IO.currentDir)).toString
  let env ← Main.environment
  let around : Cli.Surroundings := {
    folder := ⟨folder⟩
    program := ⟨(← IO.appPath).toString⟩
    settingsFile := env.lookup "GODOT_FORMATTER_SETTINGS"
    executable := env.lookup "GODOT_FORMATTER_PATH"
    configHome := env.lookup "XDG_CONFIG_HOME"
    home := env.lookup "HOME" }
  let absolute (path : String) : String := (around.folder.join ⟨path⟩).text
  let named := folder :: (args ++ env.map Prod.snd).filter fun a => a.toList.contains '/'
  let places := named.map absolute
    ++ [(userSettingsPath around.configHome around.home).text, (defaultBuiltIn around.program).text]
  let here := ((ScriptBridge.Path.mk folder).pieces.map String.ofList).filter fun name => !name.isEmpty
  let before ← places.foldlM Main.loadInto ⟨.folder [], here⟩
  let before := before.onMachine
  let tool : Cli.Tool Unit := fun command input files _ =>
    let (reply, files) := Shell.launch env command input files
    (reply, files, ())
  let (ending, after, _) := Cli.run tool around args before ()
  Main.store "" (some before.top) (some after.top)
  let out ← IO.getStdout
  out.putStr ending.text
  out.flush
  return ending.code.toUInt32
