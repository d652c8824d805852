/-
The configuration of the formatter and the linter: one value for each option, as one request uses it.
-/

namespace ScriptBridge

/-- the options of one request -/
structure Configuration where
  enabledFormat : Bool
  enabledLint : Bool
  indentSize : Nat
  useSpaces : Bool
  reorderCode : Bool
  safe : Bool
  executablePath : String
  useBuiltIn : Bool
  maxLineLength : Nat
  ignoredRules : List String
deriving DecidableEq, Repr, Inhabited

/-- the options when no setting says otherwise -/
def Configuration.default : Configuration where
  enabledFormat := true
  enabledLint := true
  indentSize := 4
  useSpaces := false
  reorderCode := false
  safe := true
  executablePath := "gdscript-formatter"
  useBuiltIn := true
  maxLineLength := 100
  ignoredRules := []

/-- whether code may be reordered: safe mode forbids it -/
def Configuration.reorderAllowed (c : Configuration) : Bool := c.reorderCode && !c.safe

end ScriptBridge
