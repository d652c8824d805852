/-
Settings kept in two TOML files. The file of the user and the file of the project each hold tables of settings; a key
of the project's file counts before the same key of the user's, and an environment variable that names an executable
counts before both. A file that does not exist holds nothing.

The settings in memory change only by a `reload` that succeeds, and then hold nothing of an earlier one; a file that
cannot be read or is not TOML leaves them as they were. `init` writes a file with the defaults and leaves the settings
in memory alone.
-/
import ScriptBridge.Files.Tree
import ScriptBridge.Settings.Resolve
import ScriptBridge.Toml.Reader

namespace ScriptBridge

/-- why settings cannot be loaded or written -/
inductive SettingsError where
  | malformed (path reason : String)
  | alreadyExists (path : String)
  | file (cause : FileError)
deriving DecidableEq, Repr, Inhabited

/-- the wording of a failure -/
def SettingsError.message : SettingsError → String
  | malformed path reason => "Settings parse error in " ++ path ++ ": " ++ reason
  | alreadyExists path => "Settings file already exists: " ++ path ++ " (use --force to overwrite)"
  | file cause => cause.message

/-- one of the two settings files -/
inductive SettingsLevel where
  | user
  | project
deriving DecidableEq, Repr, Inhabited

/-- the word for a settings file in reports -/
def SettingsLevel.word : SettingsLevel → String
  | user => "global"
  | project => "project"

/-- the user's settings file; the home folder counts only when no folder for settings is set -/
def userSettingsPath (configHome home : Option String) : Path :=
  let folder : Path := match configHome, home with
    | some dir, _ => ⟨dir⟩
    | none, some dir => if dir.isEmpty then ⟨"."⟩ else (Path.mk dir).child ".config"
    | none, none => ⟨"."⟩
  (folder.child "godot-formatter").child "settings.toml"

/-- the settings file of a project -/
def projectSettingsPath (root : Path) : Path :=
  (root.child ".godot-formatter").child "settings.toml"

/-- the text of a settings file with the defaults, its keys in ascending order -/
def defaultSettingsText : String :=
  let d := Configuration.default
  let line (key : SettingKey) (value : String) := key.name ++ " = " ++ value ++ "\n"
  let flag (b : Bool) := if b then "true" else "false"
  "[" ++ settingsNamespace ++ "]\n"
    ++ line .enableFormatter (flag d.enabledFormat)
    ++ line .enableLinter (flag d.enabledLint)
    ++ line .executablePath ("\"" ++ d.executablePath ++ "\"")
    ++ line .ignoredRules ("[" ++ String.intercalate ", " d.ignoredRules ++ "]")
    ++ line .indentSize (toString d.indentSize)
    ++ line .maxLineLength (toString d.maxLineLength)
    ++ line .reorderCode (flag d.reorderCode)
    ++ line .safe (flag d.safe)
    ++ line .useBuiltInBinary (flag d.useBuiltIn)
    ++ line .useSpaces (flag d.useSpaces)

/-- entries in ascending order of their keys -/
def sortEntries (entries : List (String × Toml)) : List (String × Toml) :=
  entries.mergeSort fun a b => decide (a.1 ≤ b.1)

/-- the settings that the tables of a document hold; values outside a table are none. Where two tables give one
qualified name, the later table in the order of names counts. -/
def Store.ofDocument (entries : List (String × Toml)) : Store :=
  (sortEntries entries).foldl (fun store (space, item) =>
    match item with
    | .table keys => (sortEntries keys).foldl (fun store (key, value) => store.write space key value.toJson) store
    | _ => store) .empty

/-- the settings in a file -/
def loadLayer (files : Files) (path : Path) : Except SettingsError Store :=
  if !files.has path then .ok .empty
  else match files.readText path with
    | .error e => .error (.file e)
    | .ok text => match Toml.parse? text with
      | some entries => .ok (.ofDocument entries)
      | none => .error (.malformed path.text "not a TOML document")

/-- puts the executable that the environment names above all else; a blank one counts as none -/
def overrideExecutable (executable : Option String) (store : Store) : Store :=
  match executable with
  | some path =>
    if (Text.trimmed path).isEmpty then store
    else (store.write settingsNamespace SettingKey.executablePath.name (.string path)).write settingsNamespace
      SettingKey.useBuiltInBinary.name (.bool false)
  | none => store

/-- two settings files and the settings loaded from them -/
structure LayeredSettings where
  userPath : Path
  projectPath : Path
  values : Store
deriving Inhabited

namespace LayeredSettings

/-- settings of two files that have not been loaded -/
def ofPaths (userPath projectPath : Path) : LayeredSettings := ⟨userPath, projectPath, .empty⟩

/-- the file of a level -/
def path (s : LayeredSettings) : SettingsLevel → Path
  | .user => s.userPath
  | .project => s.projectPath

/-- what the two files and the environment hold now -/
def load (s : LayeredSettings) (files : Files) (executable : Option String) : Except SettingsError Store := do
  let user ← loadLayer files s.userPath
  let project ← loadLayer files s.projectPath
  return overrideExecutable executable (user.union project)

/-- reads both files again -/
def reload (s : LayeredSettings) (files : Files) (executable : Option String) :
    LayeredSettings × Except SettingsError Unit :=
  match s.load files executable with
  | .ok values => ({ s with values }, .ok ())
  | .error e => (s, .error e)

/-- writes a settings file with the defaults; an existing one only by force -/
def init (s : LayeredSettings) (files : Files) (level : SettingsLevel) (force : Bool) :
    Files × Except SettingsError Path :=
  let path := s.path level
  if files.has path && !force then (files, .error (.alreadyExists path.text))
  else
    let made := match path.parent? with
      | some above => files.makeFolders above
      | none => .ok files
    match made with
    | .error e => (files, .error (.file e))
    | .ok files => match files.writeText path defaultSettingsText with
      | .ok files => (files, .ok path)
      | .error e => (files, .error (.file e))

end LayeredSettings

end ScriptBridge
