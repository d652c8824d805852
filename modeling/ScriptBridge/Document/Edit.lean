/-
Places in a document and replacements of its text. Lines and characters are counted from zero, characters in UTF-16
code units, as editor hosts count them; people are shown both counted from one.
-/

namespace ScriptBridge

/-- a place in a document -/
structure Position where
  line : Nat
  character : Nat
deriving DecidableEq, Repr, Inhabited

/-- a part of a document; nothing keeps its ends in order -/
structure Range where
  start : Position
  stop : Position
deriving DecidableEq, Repr, Inhabited

/-- the replacement of a part of a document -/
structure TextEdit where
  range : Range
  newText : String
deriving DecidableEq, Repr, Inhabited

/-- line and column as people count them -/
def Position.display (p : Position) : Nat × Nat := (p.line + 1, p.character + 1)

/-- the text of a line of a given length -/
def Range.ofLine (line length : Nat) : Range := ⟨⟨line, 0⟩, ⟨line, length⟩⟩

end ScriptBridge
