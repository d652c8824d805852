/-
The line table of a document and the pieces of its text between line feeds.

A document stores byte offsets, the pieces are a list of texts; here the two are tied. `pieces` are the lines with their
carriage returns, `before ps i` is all text in front of piece `i` and `behind ps i` all text after it.

- `join_cut`: the text is what stands before a piece, the piece, and what stands behind it.
- `lineStart_eq`: line `i` starts at the byte where piece `i` does; `line?_eq`: its text is that piece without one
  carriage return at its end; `lineCount_eq`: there are as many lines as pieces.
- `offset_eq`: a position on a line is the byte after what stands before the line and the shortest part of the line
  that holds as many units; `offset_past`: any other is the end of the text.
-/
import ScriptBridge.Document.Basic
import ScriptBridge.Text.Lines

namespace ScriptBridge

/-! ## Cutting texts -/

namespace Text

theorem slice_middle (a b c : List Char) : slice (byteLength a) (byteLength a + byteLength b) (a ++ b ++ c) = b := by
  unfold slice
  rw [List.append_assoc, dropBytes_append, Nat.add_sub_cancel_left, takeBytes_append]

theorem units_pos (c : Char) : 0 < units c := by
  unfold units
  split <;> omega

/-- as many units as a text has take all of it -/
theorem takeUnits_of_le (n : Nat) (text : List Char) (h : unitLength text ≤ n) : takeUnits n text = text := by
  induction text generalizing n with
  | nil => cases n <;> rfl
  | cons c rest ih =>
    simp only [unitLength] at h
    have hc := units_pos c
    cases n with
    | zero => omega
    | succ n => rw [takeUnits, ih _ (by omega)]

/-- a text is itself without its carriage return, and that carriage return if it has one -/
theorem dropReturn_append (text : List Char) :
    dropReturn text ++ (if text.getLast? = some '\r' then ['\r'] else []) = text := by
  induction text with
  | nil => rfl
  | cons c rest ih =>
    cases rest with
    | nil => by_cases h : c = '\r' <;> simp [dropReturn, h]
    | cons d rest =>
      rw [List.getLast?_cons_cons]
      simpa [dropReturn] using ih

theorem dropReturn_eq_self (piece : List Char) (h : piece.getLast? ≠ some '\r') : dropReturn piece = piece := by
  have hd := dropReturn_append piece
  rwa [if_neg h, List.append_nil] at hd

/-- all text in front of a piece -/
def before (pieces : List (List Char)) (i : Nat) : List Char := (pieces.take i).flatMap fun piece => piece ++ ['\n']

/-- all text after a piece -/
def behind (pieces : List (List Char)) (i : Nat) : List Char :=
  match pieces.drop (i + 1) with
  | [] => []
  | more => '\n' :: joinWith '\n' more

theorem before_succ (pieces : List (List Char)) (i : Nat) (piece : List Char) (h : pieces[i]? = some piece) :
    before pieces (i + 1) = before pieces i ++ piece ++ ['\n'] := by
  simp [before, List.take_add_one, h]

/-- what stands before a piece is empty or ends with a line feed -/
theorem before_opens (pieces : List (List Char)) (i : Nat) :
    before pieces i = [] ∨ (before pieces i).getLast? = some '\n' := by
  unfold before
  rcases List.eq_nil_or_concat (pieces.take i) with h | ⟨init, last, h⟩
  · simp [h]
  · simp [h]

theorem join_cut (pieces : List (List Char)) (i : Nat) (piece : List Char) (h : pieces[i]? = some piece) :
    joinWith '\n' pieces = before pieces i ++ piece ++ behind pieces i := by
  induction pieces generalizing i with
  | nil => simp at h
  | cons first more ih =>
    cases i with
    | zero =>
      obtain rfl : first = piece := by simpa using h
      cases more <;> simp [joinWith, before, behind]
    | succ i =>
      have h : more[i]? = some piece := by simpa using h
      cases more with
      | nil => simp at h
      | cons second more => simpa [joinWith, before, behind] using ih i h

theorem behind_last (pieces : List (List Char)) (i : Nat) (h : pieces.length ≤ i + 1) : behind pieces i = [] := by
  unfold behind
  rw [List.drop_eq_nil_of_le h]

end Text

open Text

namespace Document

/-! ## Line starts -/

/-- where pieces start, when the first of them starts at an offset -/
def pieceStarts (offset : Nat) : List (List Char) → List Nat
  | [] => []
  | piece :: more => offset :: pieceStarts (offset + byteLength piece + 1) more

theorem startsAfter_eq (offset : Nat) (text : List Char) :
    offset :: startsAfter offset text = pieceStarts offset (splitOn '\n' text) := by
  induction text generalizing offset with
  | nil => rfl
  | cons c rest ih =>
    have hih := ih (offset + c.utf8Size)
    simp only [startsAfter, splitOn]
    split
    · next hc => subst hc; rw [hih]; rfl
    · cases hs : splitOn '\n' rest with
      | nil => exact absurd hs (splitOn_ne_nil _ _)
      | cons piece more =>
        rw [hs] at hih
        simp only [pieceStarts, List.cons.injEq, true_and] at hih ⊢
        rw [hih, byteLength, Nat.add_assoc offset]

theorem length_pieceStarts (offset : Nat) (pieces : List (List Char)) :
    (pieceStarts offset pieces).length = pieces.length := by
  induction pieces generalizing offset with
  | nil => rfl
  | cons piece more ih => simp [pieceStarts, ih]

theorem pieceStarts_getElem? (offset : Nat) (pieces : List (List Char)) (i : Nat) (h : i < pieces.length) :
    (pieceStarts offset pieces)[i]? = some (offset + byteLength (before pieces i)) := by
  induction pieces generalizing offset i with
  | nil => simp at h
  | cons piece more ih =>
    cases i with
    | zero => rfl
    | succ i =>
      have hlt : i < more.length := by simpa using h
      rw [pieceStarts, List.getElem?_cons_succ, ih _ i hlt]
      have hb : before (piece :: more) (i + 1) = piece ++ ['\n'] ++ before more i := by simp [before]
      rw [hb, byteLength_append, byteLength_append]
      simp only [byteLength, Option.some.injEq]
      have hn : Char.utf8Size '\n' = 1 := rfl
      omega

/-- the pieces of the text between line feeds: its lines with their carriage returns -/
def pieces (d : Document) : List (List Char) := splitOn '\n' d.text.toList

theorem join_pieces (d : Document) : joinWith '\n' d.pieces = d.text.toList := join_splitOn _ _

theorem pieces_ne_nil (d : Document) : d.pieces ≠ [] := splitOn_ne_nil _ _

theorem lineStarts_eq (d : Document) : d.lineStarts = pieceStarts 0 d.pieces := startsAfter_eq 0 _

theorem lineCount_eq (d : Document) : d.lineCount = d.pieces.length := by
  rw [lineCount, lineStarts_eq, length_pieceStarts]

theorem lineStart_eq (d : Document) (i : Nat) (h : i < d.pieces.length) :
    d.lineStarts[i]? = some (byteLength (before d.pieces i)) := by
  rw [lineStarts_eq, pieceStarts_getElem? 0 _ i h, Nat.zero_add]

theorem lineStart_none (d : Document) (i : Nat) (h : d.pieces.length ≤ i) : d.lineStarts[i]? = none := by
  rw [lineStarts_eq, List.getElem?_eq_none_iff, length_pieceStarts]
  exact h

/-- **A line is a piece without its carriage return** -/
theorem line?_eq (d : Document) (i : Nat) : d.line? i = d.pieces[i]?.map dropReturn := by
  cases h : d.pieces[i]? with
  | none => simp [line?, d.lineStart_none i (List.getElem?_eq_none_iff.1 h)]
  | some piece =>
    have hi := (List.getElem?_eq_some_iff.1 h).1
    have hcut : d.text.toList = before d.pieces i ++ piece ++ behind d.pieces i := by
      rw [← d.join_pieces]; exact join_cut _ i piece h
    simp only [line?, d.lineStart_eq i hi, Option.map_some, Option.some.injEq]
    -- the line ends at the next line feed, or at the end of the text
    by_cases hn : i + 1 < d.pieces.length
    · rw [d.lineStart_eq (i + 1) hn, before_succ _ _ _ h]
      simp only [byteLength_append, byteLength]
      have hn : Char.utf8Size '\n' = 1 := rfl
      rw [hn, Nat.add_sub_cancel, hcut, slice_middle]
    · rw [d.lineStart_none (i + 1) (by omega), hcut, behind_last _ _ (by omega)]
      simp only [List.append_nil, byteLength_append]
      have hs := slice_middle (before d.pieces i) piece []
      rw [List.append_nil] at hs
      rw [hs]

/-! ## Offsets of positions -/

theorem offset_eq (d : Document) (p : Position) (piece : List Char) (h : d.pieces[p.line]? = some piece) :
    d.offset p = byteLength (before d.pieces p.line ++ takeUnits p.character (dropReturn piece)) := by
  have hi := (List.getElem?_eq_some_iff.1 h).1
  simp [offset, d.lineStart_eq _ hi, d.line?_eq, h, byteLength_append]

theorem offset_past (d : Document) (p : Position) (h : d.pieces.length ≤ p.line) :
    d.offset p = byteLength d.text.toList := by
  simp [offset, d.lineStart_none _ h]

end Document

end ScriptBridge
