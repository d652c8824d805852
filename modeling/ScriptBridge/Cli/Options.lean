/-
The command line's vocabulary: its commands, as a tree of levels below the program itself, and the options that each
level knows. The common options are known at every level.
-/
import ScriptBridge.Settings.Layers

namespace ScriptBridge.Cli

/-- the program itself or one of its commands -/
inductive Level where
  | program
  | format
  | lint
  | config
  | init
  | display
  | path
deriving DecidableEq, Repr, Inhabited

namespace Level

/-- the commands right below a level -/
def commands : Level → List (String × Level)
  | program => [("format", format), ("lint", lint), ("config", config)]
  | config => [("init", init), ("show", display), ("path", path)]
  | _ => []

/-- the name under which a level states its version -/
def title : Level → String
  | program => "godot-formatter"
  | format => "godot-formatter-format"
  | lint => "godot-formatter-lint"
  | config => "godot-formatter-config"
  | init => "godot-formatter-config-init"
  | display => "godot-formatter-config-show"
  | path => "godot-formatter-config-path"

/-- whether one more argument that is no option can be taken after so many -/
def takesOperand (level : Level) (taken : Nat) : Bool :=
  match level with
  | format => taken == 0
  | lint => true
  | _ => false

/-- whether a level cannot do without an operand -/
def needsOperand : Level → Bool
  | format => true
  | lint => true
  | _ => false

end Level

/-- an option -/
inductive Opt where
  | settings
  | builtIn
  | verbose
  | help
  | version
  | write
  | severity
  | jobs
  | user
  | force
deriving DecidableEq, Repr, Inhabited

namespace Opt

/-- the name of an option after two dashes -/
def long : Opt → String
  | settings => "settings"
  | builtIn => "builtin"
  | verbose => "verbose"
  | help => "help"
  | version => "version"
  | write => "write"
  | severity => "severity"
  | jobs => "jobs"
  | user => "global"
  | force => "force"

/-- the letter of an option after one dash -/
def short? : Opt → Option Char
  | verbose => some 'v'
  | help => some 'h'
  | version => some 'V'
  | write => some 'w'
  | jobs => some 'j'
  | force => some 'f'
  | _ => none

/-- whether an option has a value -/
def takesValue : Opt → Bool
  | settings => true
  | builtIn => true
  | severity => true
  | jobs => true
  | _ => false

end Opt

namespace Level

/-- the options that a level has besides the common ones -/
def ownOptions : Level → List Opt
  | format => [.write]
  | lint => [.severity, .jobs]
  | init => [.user, .force]
  | path => [.user]
  | _ => []

/-- the options that a level knows -/
def options (level : Level) : List Opt :=
  [Opt.settings, .builtIn, .verbose, .help, .version] ++ level.ownOptions

/-- the option with a name -/
def long? (level : Level) (name : List Char) : Option Opt :=
  level.options.find? fun o => o.long.toList == name

/-- the option with a letter -/
def letter? (level : Level) (c : Char) : Option Opt :=
  level.options.find? fun o => o.short? == some c

end Level

end ScriptBridge.Cli
