/-
Whole-text replacement. The edit of a format covers the range from the first position of a document to the end of its
last line. A carriage return belongs to no line, so one that ends the whole text lies behind that range.

- `offset_fullRange_stop`: where the range ends in the text.
- `apply_fullRange`: what a replacement of the range leaves.
- `apply_decodeFormat`: a format puts the output of its run in place of the document, up to that one character.
- `final_return_survives`: that character does stay.
-/
import Mathlib.Algebra.Group.Nat.Defs
import ScriptBridge.Document.Finding
import ScriptBridge.Proofs.Document.LineTable

namespace ScriptBridge

open Text

namespace Text

theorem takeBytes_zero (text : List Char) : takeBytes 0 text = [] := takeBytes_append [] text

theorem getLast?_before (pieces : List (List Char)) (i : Nat) : (before pieces i).getLast? ≠ some '\r' := by
  rcases before_opens pieces i with h | h <;> simp [h]

end Text

namespace Document

/-- the last piece of a document -/
theorem last_piece (d : Document) : ∃ piece, d.pieces[d.lineCount - 1]? = some piece ∧
    d.text.toList = before d.pieces (d.lineCount - 1) ++ piece := by
  have hpos := List.length_pos_iff.2 d.pieces_ne_nil
  have hi : d.lineCount - 1 < d.pieces.length := by rw [d.lineCount_eq]; omega
  refine ⟨_, List.getElem?_eq_getElem hi, ?_⟩
  have hcut := join_cut d.pieces _ _ (List.getElem?_eq_getElem hi)
  rw [d.join_pieces, behind_last _ _ (by rw [d.lineCount_eq]; omega), List.append_nil] at hcut
  exact hcut

theorem offset_start (d : Document) : d.offset ⟨0, 0⟩ = 0 := by
  cases h : d.pieces with
  | nil => exact absurd h d.pieces_ne_nil
  | cons piece more =>
    rw [d.offset_eq ⟨0, 0⟩ piece (by rw [h]; rfl)]
    simp [before, takeUnits, byteLength]

/-- the full range ends where the last line does -/
theorem offset_fullRange_stop (d : Document) (piece : List Char) (h : d.pieces[d.lineCount - 1]? = some piece) :
    d.offset d.fullRange.stop = byteLength (before d.pieces (d.lineCount - 1) ++ dropReturn piece) := by
  have hlen : d.lineLength? (d.lineCount - 1) = some (unitLength (dropReturn piece)) := by
    simp [lineLength?, d.line?_eq, h]
  simp only [fullRange, hlen, Option.getD_some]
  rw [d.offset_eq ⟨_, _⟩ piece h, takeUnits_of_le _ _ (Nat.le_refl _)]

/-- a replacement of the full range leaves of the old text only a carriage return at its very end -/
theorem apply_fullRange (d : Document) (text : String) :
    d.apply ⟨d.fullRange, text⟩ = if d.text.toList.getLast? = some '\r' then text ++ "\r" else text := by
  obtain ⟨piece, hp, htext⟩ := d.last_piece
  have hstop := d.offset_fullRange_stop piece hp
  -- the text ends with a carriage return just when its last piece does
  have hlast : d.text.toList.getLast? = some '\r' ↔ piece.getLast? = some '\r' := by
    rw [htext]
    cases piece with
    | nil => simp [getLast?_before]
    | cons c rest => rw [List.getLast?_append, List.getLast?_eq_some_getLast (List.cons_ne_nil c rest), Option.some_or]
  have hsplit : d.text.toList = (before d.pieces (d.lineCount - 1) ++ dropReturn piece) ++
      (if piece.getLast? = some '\r' then ['\r'] else []) := by
    rw [List.append_assoc, dropReturn_append, ← htext]
  have hdrop : dropBytes (d.offset d.fullRange.stop) d.text.toList =
      if piece.getLast? = some '\r' then ['\r'] else [] := by
    have hcut := dropBytes_append (before d.pieces (d.lineCount - 1) ++ dropReturn piece)
      (if piece.getLast? = some '\r' then ['\r'] else [])
    rwa [← hsplit, ← hstop] at hcut
  have hstart : d.fullRange.start = ⟨0, 0⟩ := rfl
  simp only [apply, hstart, offset_start, takeBytes_zero, List.nil_append, Nat.max_zero, hdrop, hlast]
  split <;> simp [String.ofList_append]

/-- **A format replaces the document, but for a final carriage return.** For every document and every output, the text
after the edit is the output exactly when the document does not end with a carriage return; when it does, that character
stays behind the output. -/
theorem apply_decodeFormat (d : Document) (stdout : String) :
    d.apply (decodeFormat stdout d) = (if d.text.toList.getLast? = some '\r' then stdout ++ "\r" else stdout) ∧
    (d.apply (decodeFormat stdout d) = stdout ↔ d.text.toList.getLast? ≠ some '\r') := by
  have happly : d.apply (decodeFormat stdout d) = _ := d.apply_fullRange stdout
  refine ⟨happly, ?_⟩
  rw [happly]
  split
  · next h => simp [h, String.ext_iff]
  · next h => simp [h]

/-- not every format replaces the whole document, even a short one: of `a\r` the carriage return stays -/
theorem final_return_survives : ¬ ∀ (d : Document) (stdout : String), d.text.utf8ByteSize < 2 ^ 32 →
    d.apply (decodeFormat stdout d) = stdout := by
  intro h
  have hwhole := h ⟨⟨"untitled:1"⟩, none, "a\r"⟩ "X" (by decide)
  exact absurd hwhole (by decide)

end Document

end ScriptBridge
