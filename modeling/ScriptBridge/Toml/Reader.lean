/-
TOML 1.0 documents. `parse?` gives the top table of a document, or `none` when the text is not TOML: the text is read
as statements, one a line, the statements are put together as tables, and tables that stand for moments become moments.

Values may hold values up to a depth of 79. The readers of values call each other on a shorter rest, so the length of
the text bounds their number.

A table below the top one whose first key is the moment key stands for the moment that the value of that key spells;
what else it holds does not count. Such a value has to be a string that spells a moment as a document would.
-/
import ScriptBridge.Toml.Scalar
import ScriptBridge.Toml.Tables

namespace ScriptBridge.Toml

/-! ## Moments that are written as tables -/

/-- the moment that a text spells -/
def momentOf? (text : List Char) : Option TomlMoment :=
  match readScalar text with
  | some (.moment m, []) => some m
  | _ => none

mutual

/-- a value with the tables in it that stand for moments made moments; `none` when one of them spells none -/
def moments? : Toml → Option Toml
  | .array items => (momentsInItems? items).map .array
  | .table [] => some (.table [])
  | .table ((key, value) :: rest) =>
    if key = momentKey then
      match value with
      | .string s => (momentOf? s.toList).map .moment
      | _ => none
    else
      match moments? value, momentsInEntries? rest with
      | some value, some rest => some (.table ((key, value) :: rest))
      | _, _ => none
  | value => some value

def momentsInItems? : List Toml → Option (List Toml)
  | [] => some []
  | item :: rest =>
    match moments? item, momentsInItems? rest with
    | some item, some rest => some (item :: rest)
    | _, _ => none

def momentsInEntries? : List (String × Toml) → Option (List (String × Toml))
  | [] => some []
  | (key, value) :: rest =>
    match moments? value, momentsInEntries? rest with
    | some value, some rest => some ((key, value) :: rest)
    | _, _ => none

end

/-! ## Documents -/

/-- the deepest nesting of values -/
def maxDepth : Nat := 79

/-- what follows a comment, if one starts here -/
def dropComment : List Char → List Char
  | '#' :: rest => rest.dropWhile isPlain
  | text => text

/-- what follows the end of a line: blanks, a comment, and a line break or the end of the text -/
def lineEnd? (text : List Char) : Option (List Char) :=
  match dropComment (dropSpace text) with
  | [] => some []
  | rest => newline? rest

/-- what follows blanks, comments and line breaks between the items of an array -/
def dropGaps : Nat → List Char → Option (List Char)
  | 0, _ => none
  | fuel + 1, text =>
    match dropSpace text with
    | '#' :: rest => (newline? (rest.dropWhile isPlain)).bind (dropGaps fuel)
    | rest =>
      match newline? rest with
      | some more => dropGaps fuel more
      | none => if rest.head? = some '\r' then none else some rest

mutual

/-- a value, at a depth that may still be entered so many times -/
def readValue : Nat → Nat → List Char → Option (Toml × List Char)
  | 0, _, _ => none
  | fuel + 1, depth, text =>
    match text with
    | 't' :: 'r' :: 'u' :: 'e' :: rest => some (.boolean true, rest)
    | 'f' :: 'a' :: 'l' :: 's' :: 'e' :: rest => some (.boolean false, rest)
    | '[' :: rest =>
      match depth with
      | 0 => none
      | depth + 1 => readItems fuel depth [] rest
    | '\x7b' :: rest =>
      match depth with
      | 0 => none
      | depth + 1 =>
        match dropSpace rest with
        | '\x7d' :: rest => some (.table [], rest)
        | _ => readPairs fuel depth [] rest
    | c :: _ =>
      if c = '"' ∨ c = '\'' then (readString text).map fun (s, rest) => (.string s, rest) else readScalar text
    | [] => none

/-- the items of an array up to its end; a comma may follow the last one -/
def readItems : Nat → Nat → List Toml → List Char → Option (Toml × List Char)
  | 0, _, _, _ => none
  | fuel + 1, depth, read, text =>
    match dropGaps (text.length + 1) text with
    | none => none
    | some (']' :: rest) => some (.array read.reverse, rest)
    | some text =>
      match readValue fuel depth text with
      | none => none
      | some (item, rest) =>
        match dropGaps (rest.length + 1) rest with
        | some (',' :: rest) => readItems fuel depth (item :: read) rest
        | some (']' :: rest) => some (.array (item :: read).reverse, rest)
        | _ => none

/-- the keys between braces up to their end, all on one line -/
def readPairs : Nat → Nat → List (List String × Toml) → List Char → Option (Toml × List Char)
  | 0, _, _, _ => none
  | fuel + 1, depth, read, text =>
    match readKey maxNames text with
    | some (path, '=' :: rest) =>
      match readValue fuel depth (dropSpace rest) with
      | none => none
      | some (value, rest) =>
        match dropSpace rest with
        | ',' :: rest => readPairs fuel depth ((path, value) :: read) rest
        | '\x7d' :: rest => (ofKeys? ((path, value) :: read).reverse).map fun t => (t, rest)
        | _ => none
    | _ => none

end

/-- one statement, up to the end of its line -/
def readStatement (text : List Char) : Option (Statement × List Char) :=
  match text with
  | '[' :: '[' :: rest => do
    let (path, rest) ← readKey maxNames rest
    return (.arrayHeader path, ← lineEnd? (← after? ']' (← after? ']' rest)))
  | '[' :: rest => do
    let (path, rest) ← readKey maxNames rest
    return (.header path, ← lineEnd? (← after? ']' rest))
  | _ => do
    let (path, rest) ← readKey maxNames text
    let (value, rest) ← readValue (2 * rest.length + 2) maxDepth (dropSpace (← after? '=' rest))
    return (.key path value, ← lineEnd? rest)

/-- the statements of a text -/
def readStatements : Nat → List Char → Option (List Statement)
  | 0, _ => none
  | fuel + 1, text =>
    match dropSpace text with
    | [] => some []
    | c :: rest =>
      if c = '#' ∨ c = '\n' ∨ c = '\r' then (lineEnd? (c :: rest)).bind (readStatements fuel)
      else do
        let (statement, rest) ← readStatement (c :: rest)
        return statement :: (← readStatements fuel rest)

/-- the top table of a document; a byte order mark in front does not count -/
def parse? (text : String) : Option (List (String × Toml)) :=
  let chars := match text.toList with
    | c :: rest => if c.toNat = 0xFEFF then rest else c :: rest
    | [] => []
  ((readStatements (chars.length + 1) chars).bind ofStatements?).bind momentsInEntries?

end ScriptBridge.Toml
