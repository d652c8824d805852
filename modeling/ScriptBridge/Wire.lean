/-
JSON forms of the values that a host exchanges with the program. A record is an object with one field for each part;
it is also read from an array of its parts in order. Every part is required, other fields do not matter, and numbers
have to be written as whole numbers below `2 ^ 32`. `null` is never a part.
-/
import ScriptBridge.Document.Diagnostic
import ScriptBridge.Document.Basic
import ScriptBridge.Json.Value
import ScriptBridge.Settings.Configuration

namespace ScriptBridge.Wire

/-- the parts of a record with given field names -/
def parts? (names : List String) : Json → Option (List Json)
  | .object fields => names.mapM fun name => fields.lookup name
  | .array items => if items.length = names.length then some items else none
  | _ => none

/-- a whole number below `2 ^ 32` -/
def count? (value : Json) : Option Nat :=
  match value.int? with
  | some n => if 0 ≤ n ∧ n < 4294967296 then some n.toNat else none
  | none => none

/-- a list of strings -/
def strings? (value : Json) : Option (List String) := value.array?.bind fun items => items.mapM Json.string?

def position (p : Position) : Json :=
  .object [("line", .nat p.line), ("character", .nat p.character)]

def position? (value : Json) : Option Position :=
  match parts? ["line", "character"] value with
  | some [line, character] => return ⟨← count? line, ← count? character⟩
  | _ => none

def range (r : Range) : Json :=
  .object [("start", position r.start), ("end", position r.stop)]

def range? (value : Json) : Option Range :=
  match parts? ["start", "end"] value with
  | some [start, stop] => return ⟨← position? start, ← position? stop⟩
  | _ => none

def textEdit (e : TextEdit) : Json :=
  .object [("range", range e.range), ("newText", .string e.newText)]

def textEdit? (value : Json) : Option TextEdit :=
  match parts? ["range", "newText"] value with
  | some [r, newText] => return ⟨← range? r, ← newText.string?⟩
  | _ => none

def severity (s : Severity) : Json := .string s.token

/-- a severity is its word, or an object whose one key is the word and whose value is `null` -/
def severity? : Json → Option Severity
  | .string token => Severity.ofToken? token
  | .object [(token, .null)] => Severity.ofToken? token
  | _ => none

def diagnostic (d : Diagnostic) : Json :=
  .object [("range", range d.range), ("severity", severity d.severity), ("message", .string d.message),
    ("code", .string d.code), ("source", .string d.source)]

def diagnostic? (value : Json) : Option Diagnostic :=
  match parts? ["range", "severity", "message", "code", "source"] value with
  | some [r, s, message, code, source] => do
    return ⟨← range? r, ← severity? s, ← message.string?, ← code.string?, ← source.string?⟩
  | _ => none

def documentId (id : DocumentId) : Json := .string id.uri

def documentId? (value : Json) : Option DocumentId := value.string?.map DocumentId.mk

def configuration (c : Configuration) : Json :=
  .object [("enabledFormat", .bool c.enabledFormat), ("enabledLint", .bool c.enabledLint),
    ("indentSize", .nat c.indentSize), ("useSpaces", .bool c.useSpaces), ("reorderCode", .bool c.reorderCode),
    ("safe", .bool c.safe), ("executablePath", .string c.executablePath), ("useBuiltIn", .bool c.useBuiltIn),
    ("maxLineLength", .nat c.maxLineLength), ("ignoredRules", .array (c.ignoredRules.map .string))]

def configuration? (value : Json) : Option Configuration :=
  match parts? ["enabledFormat", "enabledLint", "indentSize", "useSpaces", "reorderCode", "safe", "executablePath",
      "useBuiltIn", "maxLineLength", "ignoredRules"] value with
  | some [enabledFormat, enabledLint, indentSize, useSpaces, reorderCode, safe, executablePath, useBuiltIn,
      maxLineLength, ignoredRules] => do
    return {
      enabledFormat := ← enabledFormat.bool?
      enabledLint := ← enabledLint.bool?
      indentSize := ← count? indentSize
      useSpaces := ← useSpaces.bool?
      reorderCode := ← reorderCode.bool?
      safe := ← safe.bool?
      executablePath := ← executablePath.string?
      useBuiltIn := ← useBuiltIn.bool?
      maxLineLength := ← count? maxLineLength
      ignoredRules := ← strings? ignoredRules }
  | _ => none

end ScriptBridge.Wire
