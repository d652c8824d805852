/-
Documents as they are while one request runs: identity, file if there is one, and text.

A document is read through its line table: `lineStarts` are the byte offsets at which lines start, `line?` is the text
of a line without its terminator, `offset` turns a position into a byte offset. A position past the end of a line means
the end of that line, one past the last line the end of the text, and one inside a character of two units the end of
that character. `apply` replaces what lies between the offsets of a range, or nothing when the range is reversed.
-/
import ScriptBridge.Document.Edit
import ScriptBridge.Path
import ScriptBridge.Text.Measure

namespace ScriptBridge

open Text

/-- what a document is known by -/
structure DocumentId where
  uri : String
deriving DecidableEq, Repr, Inhabited

/-- the identity of a file: its path as a URI, backslashes read as slashes -/
def DocumentId.ofPath (p : Path) : DocumentId :=
  let shown := p.text.toList.map fun c => if c = '\\' then '/' else c
  ⟨(if shown.head? = some '/' then "file://" else "file:///") ++ String.ofList shown⟩

/-- a document as it is while one request runs -/
structure Document where
  id : DocumentId
  path : Option Path
  text : String
deriving DecidableEq, Repr, Inhabited

namespace Document

/-- the document of a file with a given text -/
def ofFile (path : Path) (text : String) : Document := ⟨.ofPath path, some path, text⟩

/-- byte offsets just after each line feed of a text that starts at a given offset -/
def startsAfter (offset : Nat) : List Char → List Nat
  | [] => []
  | c :: rest =>
    let next := offset + c.utf8Size
    if c = '\n' then next :: startsAfter next rest else startsAfter next rest

/-- byte offsets at which the lines of a document start -/
def lineStarts (d : Document) : List Nat := 0 :: startsAfter 0 d.text.toList

/-- number of lines; an empty document has one -/
def lineCount (d : Document) : Nat := d.lineStarts.length

/-- text of a line without its terminator -/
def line? (d : Document) (i : Nat) : Option (List Char) :=
  d.lineStarts[i]?.map fun start =>
    let stop := match d.lineStarts[i + 1]? with
      | some next => next - 1
      | none => byteLength d.text.toList
    dropReturn (slice start stop d.text.toList)

/-- length of a line in UTF-16 code units -/
def lineLength? (d : Document) (i : Nat) : Option Nat := (d.line? i).map unitLength

/-- the whole text -/
def fullRange (d : Document) : Range :=
  let last := d.lineCount - 1
  ⟨⟨0, 0⟩, ⟨last, (d.lineLength? last).getD 0⟩⟩

/-- byte offset of a position -/
def offset (d : Document) (p : Position) : Nat :=
  match d.lineStarts[p.line]?, d.line? p.line with
  | some start, some line => start + byteLength (takeUnits p.character line)
  | _, _ => byteLength d.text.toList

/-- text of the document after an edit -/
def apply (d : Document) (e : TextEdit) : String :=
  let start := d.offset e.range.start
  let stop := max (d.offset e.range.stop) start
  String.ofList (takeBytes start d.text.toList ++ e.newText.toList ++ dropBytes stop d.text.toList)

end Document

end ScriptBridge
