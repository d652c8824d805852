/-
Diagnostics: what a linter found, at a place in a document.
-/
import ScriptBridge.Document.Edit

namespace ScriptBridge

/-- how serious a finding is -/
inductive Severity where
  | error
  | warning
deriving DecidableEq, Repr, Inhabited

/-- the word for a severity, the same in linter output and in reports -/
def Severity.token : Severity → String
  | .error => "error"
  | .warning => "warning"

/-- the severity that a word names -/
def Severity.ofToken? (token : String) : Option Severity :=
  if token = Severity.error.token then some .error
  else if token = Severity.warning.token then some .warning
  else none

theorem Severity.ofToken?_token (s : Severity) : ofToken? s.token = some s := by
  cases s <;> rfl

theorem Severity.ofToken?_eq_some {token : String} {s : Severity} (h : ofToken? token = some s) : token = s.token := by
  simp only [ofToken?] at h
  split at h
  · next ht => cases h; exact ht
  · split at h
    · next ht => cases h; exact ht
    · cases h

/-- a finding at a place in a document -/
structure Diagnostic where
  range : Range
  severity : Severity
  message : String
  code : String
  source : String
deriving DecidableEq, Repr, Inhabited

/-- the tool that every diagnostic is attributed to -/
def Diagnostic.toolName : String := "gdscript-formatter"

/-- the diagnostic of a rule: its message starts with the rule in brackets -/
def Diagnostic.ofRule (range : Range) (severity : Severity) (rule text : String) : Diagnostic :=
  { range, severity, message := "[" ++ rule ++ "] " ++ text, code := rule, source := Diagnostic.toolName }

end ScriptBridge
