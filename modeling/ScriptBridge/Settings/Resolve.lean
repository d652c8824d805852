/-
Stores of settings. A setting is a JSON value under a namespace and a key, held under the two names joined by a dot.
`read` is all that the rest of the program sees of a store: the value under a namespace and a key, if there is one.

From settings to a configuration. Each option has one key in one namespace; a value that is missing or of the wrong
kind counts as absent, and the option keeps its default. Nothing is ever refused.

`readCount` takes a number by its value, however it is written; `readRules` takes a comma-separated string or an array
of strings, and keeps each rule once, where it first stands.
-/
import ScriptBridge.Json.Value
import ScriptBridge.Settings.Configuration
import ScriptBridge.Table
import ScriptBridge.Text.Lines

namespace ScriptBridge

open Text

/-! ## Stores -/

/-- settings by their qualified names -/
abbrev Store := Table String Json

namespace Store

/-- the name under which a key of a namespace is held -/
def qualified (space key : String) : String := space ++ "." ++ key

/-- the value of a key in a namespace -/
def read (s : Store) (space key : String) : Option Json := s.get? (qualified space key)

/-- gives a key in a namespace a value -/
def write (s : Store) (space key : String) (value : Json) : Store := s.put (qualified space key) value

/-- removes a key of a namespace -/
def remove (s : Store) (space key : String) : Store := s.erase (qualified space key)

end Store

/-! ## Options -/

/-- the namespace of all options -/
def settingsNamespace : String := "godotFormatter"

/-- the settings that options are read from -/
inductive SettingKey where
  | enableFormatter
  | enableLinter
  | indentSize
  | useSpaces
  | reorderCode
  | safe
  | executablePath
  | useBuiltInBinary
  | maxLineLength
  | ignoredRules
deriving DecidableEq, Repr

/-- the name of a setting inside the namespace -/
def SettingKey.name : SettingKey → String
  | enableFormatter => "enableFormatter"
  | enableLinter => "enableLinter"
  | indentSize => "indentSize"
  | useSpaces => "useSpaces"
  | reorderCode => "reorderCode"
  | safe => "safe"
  | executablePath => "gdscriptFormatterPath"
  | useBuiltInBinary => "useBuiltInBinary"
  | maxLineLength => "maxLineLength"
  | ignoredRules => "ignoredRules"

/-- a truth value, or the default -/
def readFlag (value : Option Json) (default : Bool) : Bool := (value.bind Json.bool?).getD default

/-- a whole number from 1 to `2 ^ 32 - 1`, or the default -/
def readCount (value : Option Json) (default : Nat) : Nat :=
  match value with
  | some (.number n) =>
    match n.toNat? with
    | some n => if 0 < n ∧ n < 4294967296 then n else default
    | none => default
  | _ => default

/-- a string without the blanks around it, or the default when nothing is left of it -/
def readPath (value : Option Json) (default : String) : String :=
  match value with
  | some (.string s) => if (trimmed s).isEmpty then default else trimmed s
  | _ => default

/-- the rules that a setting lists, as they are written -/
def rawRules : Option Json → List (List Char)
  | some (.string s) => splitOn ',' s.toList
  | some (.array items) => (items.filterMap Json.string?).map String.toList
  | _ => []

/-- the items of a list in the order of their first occurrence, after those already kept -/
def keepFirst (kept : List (List Char)) : List (List Char) → List (List Char)
  | [] => kept
  | item :: rest => if item ∈ kept then keepFirst kept rest else keepFirst (kept ++ [item]) rest

/-- the rules that a setting lists: trimmed, none empty, each once -/
def readRules (value : Option Json) : List String :=
  (keepFirst [] (((rawRules value).map trim).filter fun rule => !rule.isEmpty)).map String.ofList

/-- the configuration that settings stand for; `lookup` gives the value of a setting -/
def Configuration.ofSettings (lookup : SettingKey → Option Json) : Configuration :=
  let d := Configuration.default
  { enabledFormat := readFlag (lookup .enableFormatter) d.enabledFormat
    enabledLint := readFlag (lookup .enableLinter) d.enabledLint
    indentSize := readCount (lookup .indentSize) d.indentSize
    useSpaces := readFlag (lookup .useSpaces) d.useSpaces
    reorderCode := readFlag (lookup .reorderCode) d.reorderCode
    safe := readFlag (lookup .safe) d.safe
    executablePath := readPath (lookup .executablePath) d.executablePath
    useBuiltIn := readFlag (lookup .useBuiltInBinary) d.useBuiltIn
    maxLineLength := readCount (lookup .maxLineLength) d.maxLineLength
    ignoredRules := readRules (lookup .ignoredRules) }

/-- the configuration that a store stands for -/
def Store.resolve (s : Store) : Configuration :=
  Configuration.ofSettings fun key => s.read settingsNamespace key.name

end ScriptBridge
