/-
Findings in the output of the linter. A finding is one line,

    path:line:rule:severity: message

with the line counted from one, a rule without colons, and a severity that is exactly `error` or `warning`. A path may
hold colons, so every colon is tried as its end, the rightmost first: of all readings of a line the one with the
longest path counts. Lines that cannot be read so are not findings.

`decodeLint` reads a whole output against a document and drops findings on lines that the document does not have;
`decodeFormat` takes a whole output as the new text.
-/
import ScriptBridge.Document.Basic
import ScriptBridge.Document.Diagnostic

namespace ScriptBridge

open Text

/-- one line of linter output -/
structure Finding where
  path : String
  line : Nat
  rule : String
  severity : Severity
  message : String
deriving DecidableEq, Repr, Inhabited

namespace Finding

/-- what stands before and after the first colon of a text -/
def cutColon? : List Char → Option (List Char × List Char)
  | [] => none
  | c :: rest =>
    if c = ':' then some ([], rest) else (cutColon? rest).map fun (before, after) => (c :: before, after)

/-- all ways to cut a text at a colon, leftmost first. What stands before the colon is given backwards, and goes on from
what was passed already. -/
def colonCuts (passed : List Char) : List Char → List (List Char × List Char)
  | [] => []
  | c :: rest =>
    let later := colonCuts (c :: passed) rest
    if c = ':' then (passed, rest) :: later else later

/-- the number that decimal digits denote -/
def digitsValue (digits : List Char) : Nat :=
  digits.foldl (fun n c => n * 10 + (c.toNat - 48)) 0

/-- a line number: one or more ASCII digits whose value is below `2 ^ 32` -/
def lineNumber? (digits : List Char) : Option Nat :=
  if digits.isEmpty || !digits.all Char.isDigit then none
  else if digitsValue digits < 4294967296 then some (digitsValue digits) else none

/-- the finding whose path, given backwards, was passed, and whose other fields are read from what follows its colon -/
def ofFields? (passed after : List Char) : Option Finding := do
  let (digits, rest) ← cutColon? after
  let line ← lineNumber? digits
  let (rule, rest) ← cutColon? rest
  if rule.isEmpty then none
  else do
    let (token, rest) ← cutColon? rest
    let severity ← Severity.ofToken? (String.ofList token)
    match rest with
    | ' ' :: c :: message =>
      some { path := String.ofList passed.reverse, line, rule := String.ofList rule, severity,
             message := String.ofList (c :: message) }
    | _ => none

/-- the finding that a line without its terminator is -/
def ofChars? (line : List Char) : Option Finding :=
  ((colonCuts [] line).reverse.filter fun cut => !cut.1.isEmpty).findSome? fun cut => ofFields? cut.1 cut.2

/-- the finding that a line is; one carriage return at its end does not count -/
def ofLine? (line : String) : Option Finding := ofChars? (dropReturn line.toList)

/-- the diagnostic of a finding on a line of a document; `none` when the document has no such line -/
def diagnostic? (document : Document) (f : Finding) : Option Diagnostic :=
  if f.line = 0 then none
  else (document.lineLength? (f.line - 1)).map fun length =>
    Diagnostic.ofRule (Range.ofLine (f.line - 1) length) f.severity f.rule f.message

end Finding

/-- diagnostics in the output of the linter, in its order -/
def decodeLint (stdout : String) (document : Document) : List Diagnostic :=
  (lines stdout.toList).filterMap fun line =>
    (Finding.ofChars? (dropReturn line)).bind (Finding.diagnostic? document)

/-- the edit that the output of the formatter stands for -/
def decodeFormat (stdout : String) (document : Document) : TextEdit :=
  ⟨document.fullRange, stdout⟩

end ScriptBridge
