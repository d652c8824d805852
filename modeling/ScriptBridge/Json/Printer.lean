/-
JSON text. `compact` writes a value on one line, `pretty` with two spaces for each level; both write the keys of an
object in ascending order and escape only quotes, backslashes and control characters.
-/
import ScriptBridge.Json.Value
import ScriptBridge.Number.Shortest

namespace ScriptBridge.Json

/-- the two hexadecimal digits of a number below 256 -/
def hexPair (n : Nat) : List Char :=
  [Nat.digitChar (n / 16), Nat.digitChar (n % 16)]

/-- the written form of a character inside quotes -/
def escapeChar (c : Char) : List Char :=
  if c = '"' then ['\\', '"']
  else if c = '\\' then ['\\', '\\']
  else if c = '\n' then ['\\', 'n']
  else if c = '\t' then ['\\', 't']
  else if c = '\r' then ['\\', 'r']
  else if c.toNat = 8 then ['\\', 'b']
  else if c.toNat = 12 then ['\\', 'f']
  else if c.toNat < 0x20 then ['\\', 'u', '0', '0'] ++ hexPair c.toNat
  else [c]

/-- the written form of a string -/
def quote (s : String) : String :=
  "\"" ++ String.ofList (s.toList.flatMap escapeChar) ++ "\""

/-- the written form of a number -/
def numberText : JsonNumber → String
  | .int n => toString n
  | .double d => d.text

/-- written fields in ascending order of their keys -/
def sortFields (fields : List (String × String)) : List (String × String) :=
  fields.mergeSort fun a b => decide (a.1 ≤ b.1)

/-- a bracketed list of written parts, each on a line of its own -/
def block (opening closing : String) (level : Nat) (parts : List String) : String :=
  if parts.isEmpty then opening ++ closing
  else
    let indent (n : Nat) := String.ofList (List.replicate (2 * n) ' ')
    opening ++ "\n" ++ String.intercalate ",\n" (parts.map fun p => indent (level + 1) ++ p) ++ "\n" ++ indent level
      ++ closing

mutual

/-- a value on one line -/
def compact : Json → String
  | .null => "null"
  | .bool b => if b then "true" else "false"
  | .number n => numberText n
  | .string s => quote s
  | .array items => "[" ++ String.intercalate "," (compactItems items) ++ "]"
  | .object fields =>
    let parts := sortFields (compactFields fields)
    "\x7b" ++ String.intercalate "," (parts.map fun p => quote p.1 ++ ":" ++ p.2) ++ "\x7d"

def compactItems : List Json → List String
  | [] => []
  | item :: rest => compact item :: compactItems rest

def compactFields : List (String × Json) → List (String × String)
  | [] => []
  | (key, value) :: rest => (key, compact value) :: compactFields rest

end

mutual

/-- a value with one item or field on each line, at a level of indentation -/
def prettyAt (level : Nat) : Json → String
  | .null => "null"
  | .bool b => if b then "true" else "false"
  | .number n => numberText n
  | .string s => quote s
  | .array items => block "[" "]" level (prettyItems (level + 1) items)
  | .object fields =>
    let parts := sortFields (prettyFields (level + 1) fields)
    block "\x7b" "\x7d" level (parts.map fun p => quote p.1 ++ ": " ++ p.2)

def prettyItems (level : Nat) : List Json → List String
  | [] => []
  | item :: rest => prettyAt level item :: prettyItems level rest

def prettyFields (level : Nat) : List (String × Json) → List (String × String)
  | [] => []
  | (key, value) :: rest => (key, prettyAt level value) :: prettyFields level rest

end

/-- a value over several lines -/
def pretty (value : Json) : String := prettyAt 0 value

end ScriptBridge.Json
