/-
The line table as a refinement of cutting a text at its line feeds. The table is a list of byte offsets, noted in one
pass over the text, and a line is read between two of them. What it stands for is the list of the pieces of the text:
texts without line feeds that make up the text when they are put together with a line feed between them.

- `mem_startsAfter`, `startsAfter_increasing`: the offsets that a pass notes, and their order.
- `mem_lineStarts`: a line starts where the text does and behind each line feed, and nowhere else.
- `pieces_unique`: no other texts without line feeds make up the text.
- `line_of_piece`, `line_past`: the line of each index.
- `lines_refine_pieces`: the table and the pieces together.
-/
import ScriptBridge.Proofs.Document.Positions

namespace ScriptBridge.Document

open Text

/-! ## Starts of lines -/

theorem mem_startsAfter_cons (offset : Nat) (c : Char) (rest : List Char) (start : Nat) :
    start ∈ startsAfter offset (c :: rest) ↔
      (c = '\n' ∧ start = offset + c.utf8Size) ∨ start ∈ startsAfter (offset + c.utf8Size) rest := by
  rw [startsAfter]
  by_cases hc : c = '\n'
  · simp [hc]
  · simp [hc]

/-- a pass over a text notes the offsets behind its line feeds -/
theorem mem_startsAfter (offset : Nat) (text : List Char) (start : Nat) :
    start ∈ startsAfter offset text ↔
      ∃ front rest, text = front ++ '\n' :: rest ∧ start = offset + byteLength (front ++ ['\n']) := by
  induction text generalizing offset with
  | nil => simp [startsAfter]
  | cons c rest ih =>
    rw [mem_startsAfter_cons, ih]
    constructor
    · rintro (⟨rfl, rfl⟩ | ⟨front, more, rfl, rfl⟩)
      · exact ⟨[], rest, rfl, rfl⟩
      · refine ⟨c :: front, more, rfl, ?_⟩
        rw [List.cons_append, byteLength, Nat.add_assoc]
    · rintro ⟨front, more, htext, rfl⟩
      cases front with
      | nil =>
        obtain ⟨rfl, rfl⟩ := List.cons.inj htext
        exact Or.inl ⟨rfl, rfl⟩
      | cons first front =>
        obtain ⟨rfl, rfl⟩ := List.cons.inj htext
        refine Or.inr ⟨front, more, rfl, ?_⟩
        rw [List.cons_append, byteLength, Nat.add_assoc]

theorem lt_of_mem_startsAfter {offset : Nat} {text : List Char} {start : Nat} (h : start ∈ startsAfter offset text) :
    offset < start := by
  obtain ⟨front, rest, -, rfl⟩ := (mem_startsAfter offset text start).1 h
  have hfeed : byteLength ['\n'] = 1 := rfl
  rw [byteLength_append, hfeed]
  omega

theorem startsAfter_increasing (offset : Nat) (text : List Char) : (startsAfter offset text).Pairwise (· < ·) := by
  induction text generalizing offset with
  | nil => exact List.Pairwise.nil
  | cons c rest ih =>
    rw [startsAfter]
    split
    · refine List.pairwise_cons.2 ⟨?_, ih _⟩
      intro start hstart
      exact lt_of_mem_startsAfter hstart
    · exact ih _

/-- the offsets of a document's line table grow -/
theorem lineStarts_increasing (d : Document) : d.lineStarts.Pairwise (· < ·) := by
  refine List.pairwise_cons.2 ⟨?_, startsAfter_increasing 0 d.text.toList⟩
  intro start hstart
  exact lt_of_mem_startsAfter hstart

/-- a line starts at the start of the text and behind each line feed, and nowhere else -/
theorem mem_lineStarts (d : Document) (start : Nat) :
    start ∈ d.lineStarts ↔ ∃ front rest, d.text.toList = front ++ rest ∧ byteLength front = start ∧
      (front = [] ∨ front.getLast? = some '\n') := by
  rw [lineStarts, List.mem_cons, mem_startsAfter]
  constructor
  · rintro (rfl | ⟨front, rest, htext, rfl⟩)
    · exact ⟨[], d.text.toList, rfl, rfl, Or.inl rfl⟩
    · refine ⟨front ++ ['\n'], rest, ?_, (Nat.zero_add _).symm, Or.inr List.getLast?_concat⟩
      rw [htext, List.append_assoc, List.singleton_append]
  · rintro ⟨front, rest, htext, rfl, rfl | hlast⟩
    · exact Or.inl rfl
    · obtain ⟨init, rfl⟩ := List.getLast?_eq_some_iff.1 hlast
      refine Or.inr ⟨init, rest, ?_, (Nat.zero_add _).symm⟩
      rw [htext, List.append_assoc, List.singleton_append]

/-! ## Pieces -/

/-- no other texts without line feeds make up the text of a document -/
theorem pieces_unique (d : Document) {texts : List (List Char)} (hne : texts ≠ []) (hfree : ∀ text ∈ texts, '\n' ∉ text)
    (hjoin : joinWith '\n' texts = d.text.toList) : texts = d.pieces := by
  rw [pieces, ← hjoin, splitOn_joinWith '\n' texts hne, (flatMap_splitOn_eq_self '\n' texts).2 hfree]

/-- the line of a piece is the piece without the carriage return at its end, if it has one -/
theorem line_of_piece (d : Document) (i : Nat) (hi : i < d.lineCount) :
    ∃ piece line, d.pieces[i]? = some piece ∧ d.line? i = some line ∧
      (piece = line ++ ['\r'] ∨ piece = line ∧ piece.getLast? ≠ some '\r') := by
  rw [lineCount_eq] at hi
  have hpiece := List.getElem?_eq_getElem hi
  refine ⟨_, dropReturn d.pieces[i], hpiece, ?_, ?_⟩
  · rw [line?_eq, hpiece]
    rfl
  · by_cases hlast : d.pieces[i].getLast? = some '\r'
    · left
      have hwhole := dropReturn_append d.pieces[i]
      rw [if_pos hlast] at hwhole
      exact hwhole.symm
    · right
      exact ⟨(dropReturn_eq_self _ hlast).symm, hlast⟩

theorem line_past (d : Document) (i : Nat) (hi : d.lineCount ≤ i) : d.line? i = none := by
  rw [lineCount_eq] at hi
  rw [line?_eq, List.getElem?_eq_none_iff.2 hi]
  rfl

/-! ## Main result -/

/-- **The line table refines the cut at line feeds.** For every document: its pieces hold no line feed and make up the
text with a line feed between each two, and no other texts do. There are as many lines as pieces, one more than there
are line feeds. Line `i` is piece `i`, without one carriage return if the piece ends with one; past the last piece there
is no line. The offsets of the table grow strictly, and they are just the byte offsets of the start of the text and of
the places behind its line feeds, each the end of a first part of the text; that of line `i` is where piece `i`
stands. -/
theorem lines_refine_pieces (d : Document) :
    (joinWith '\n' d.pieces = d.text.toList ∧ (∀ piece ∈ d.pieces, '\n' ∉ piece) ∧
      ∀ texts, texts ≠ [] → (∀ text ∈ texts, '\n' ∉ text) → joinWith '\n' texts = d.text.toList → texts = d.pieces) ∧
    (d.lineCount = d.pieces.length ∧ d.lineCount = d.text.toList.count '\n' + 1) ∧
    (∀ i, i < d.lineCount → ∃ piece line, d.pieces[i]? = some piece ∧ d.line? i = some line ∧
      (piece = line ++ ['\r'] ∨ piece = line ∧ piece.getLast? ≠ some '\r')) ∧
    (∀ i, d.lineCount ≤ i → d.line? i = none) ∧
    d.lineStarts.Pairwise (· < ·) ∧
    (∀ start, start ∈ d.lineStarts ↔ ∃ front rest, d.text.toList = front ++ rest ∧ byteLength front = start ∧
      (front = [] ∨ front.getLast? = some '\n')) ∧
    ∀ i, i < d.lineCount → d.lineStarts[i]? = some (byteLength (before d.pieces i)) := by
  refine ⟨⟨d.join_pieces, d.pieces_free, ?_⟩, ⟨d.lineCount_eq, d.lineCount_eq_feeds⟩, d.line_of_piece, d.line_past,
    d.lineStarts_increasing, d.mem_lineStarts, ?_⟩
  · intro texts hne hfree hjoin
    exact d.pieces_unique hne hfree hjoin
  · intro i hi
    rw [lineCount_eq] at hi
    exact d.lineStart_eq i hi

/-- a carriage return inside a line stays, and one at the end of the text goes although nothing follows it -/
example : (⟨⟨"untitled:1"⟩, none, "\na\rb\r\n\r"⟩ : Document).lineStarts = [0, 1, 6] ∧
    (⟨⟨"untitled:1"⟩, none, "\na\rb\r\n\r"⟩ : Document).line? 1 = some ['a', '\r', 'b'] ∧
    (⟨⟨"untitled:1"⟩, none, "\na\rb\r\n\r"⟩ : Document).line? 2 = some [] := by
  decide

end ScriptBridge.Document
