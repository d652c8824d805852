/-
One run of the program: its arguments and what it finds around it, to what it prints, its exit code and the files it
leaves. Arguments that cannot be read print nothing and give the code 2; so does, with a printed failure, an error
that ends the program. A failure that a command reports itself gives the code 0.
-/
import ScriptBridge.Cli.Commands
import ScriptBridge.Json.Printer

namespace ScriptBridge.Cli

/-- what the program finds around it: the folder it starts in, its own place, and the environment's words for the
settings file, the executable and the folders of the user -/
structure Surroundings where
  folder : Path
  program : Path
  settingsFile : Option String
  executable : Option String
  configHome : Option String
  home : Option String
deriving Inhabited

/-- how a run ends: its exit code, and the report it prints if it gets so far -/
structure Ending where
  code : Nat
  report : Option Report
  text : String
deriving Inhabited

namespace Ending

/-- the end of a run that printed a report -/
def ofReport (code : Nat) (report : Report) : Ending := ⟨code, some report, report.json.pretty ++ "\n"⟩

/-- the end of a run that an error ended -/
def aborted (message : String) : Ending := ofReport 2 (.failure message)

/-- the version of the program -/
def versionNumber : String := "1.0.0"

/-- what `--help` prints -/
def helpText : String :=
  "Usage: godot-formatter [--settings FILE] [--builtin FILE] [-v] COMMAND\n\n"
    ++ "  format FILE [--write]\n"
    ++ "  lint PATH... [--severity LIST] [--jobs N]\n"
    ++ "  config init [--global] [--force]\n"
    ++ "  config show\n"
    ++ "  config path [--global]\n"

/-- the end of a run whose arguments ask for no task -/
def ofUsage : UsageError → Ending
  | .help => ⟨0, none, helpText⟩
  | .version level => ⟨0, none, level.title ++ " " ++ versionNumber ++ "\n"⟩
  | _ => ⟨2, none, ""⟩

end Ending

/-- the settings files of a run -/
def settingsOf (around : Surroundings) (args : Arguments) : LayeredSettings :=
  .ofPaths (userSettingsPath around.configHome around.home) <|
    match args.settings with
    | some file => around.folder.join ⟨file⟩
    | none => projectSettingsPath around.folder

variable {σ : Type}

/-- a run whose arguments were read -/
def runArguments (tool : Tool σ) (around : Surroundings) (args : Arguments) (files : Files) (state : σ) :
    Ending × Files × σ :=
  match (settingsOf around args).reload files around.executable with
  | (_, .error e) => (.aborted ("Failed to load settings: " ++ e.message), files, state)
  | (settings, .ok ()) =>
    let builtIn := args.builtIn.getD (defaultBuiltIn around.program).text
    let session := Session.create around.folder settings.values builtIn
    let (result, desk) := perform tool ⟨session, settings, files, state⟩ args.task
    let ending := match result with
      | .ok report => .ofReport 0 report
      | .error message => .aborted message
    (ending, desk.files, desk.state)

/-- a run of the program -/
def run (tool : Tool σ) (around : Surroundings) (args : List String) (files : Files) (state : σ) :
    Ending × Files × σ :=
  match Arguments.read around.settingsFile args with
  | .error e => (.ofUsage e, files, state)
  | .ok args => runArguments tool around args files state

end ScriptBridge.Cli
