/-
The order of positions. Positions are ordered by their lines and then by their columns, whether or not the document has
such a line or column. What stands in front of a position is a first part of what stands in front of any later one, so
offsets follow the order, and an edit with its ends in order replaces just what lies between them. The way back is open
where a position can be exact: at each end of a character of a line.

- `takeUnits_prefix_of_le`, `takeUnits_of_prefix`: columns of one line.
- `front`, `offset_eq_front`: the offset of a position as the length of the text in front of it; `front_mono`: such
  texts are first parts of each other.
- `apply_between`: an edit whose ends are in order.
- `offsets_follow_positions`: order, edits and ends of characters.
-/
import ScriptBridge.Proofs.Document.Positions

namespace ScriptBridge

/-- lines count first, then columns -/
def Position.AtMost (p q : Position) : Prop := p.line < q.line ∨ p.line = q.line ∧ p.character ≤ q.character

namespace Text

/-! ## Columns of a line -/

theorem byteLength_le_of_prefix {a b : List Char} (h : a <+: b) : byteLength a ≤ byteLength b := by
  obtain ⟨more, rfl⟩ := h
  rw [byteLength_append]
  exact Nat.le_add_right _ _

theorem length_le_byteLength (text : List Char) : text.length ≤ byteLength text := by
  induction text with
  | nil => exact Nat.le_refl _
  | cons c rest ih =>
    have hc := Char.utf8Size_pos c
    rw [List.length_cons, byteLength]
    omega

theorem unitLength_append (a b : List Char) : unitLength (a ++ b) = unitLength a + unitLength b := by
  induction a with
  | nil => exact (Nat.zero_add _).symm
  | cons c a ih => rw [List.cons_append, unitLength, unitLength, ih, Nat.add_assoc]

/-- a later column has all in front of it that an earlier one has -/
theorem takeUnits_prefix_of_le {m n : Nat} (h : m ≤ n) (line : List Char) :
    takeUnits m line <+: takeUnits n line := by
  induction line generalizing m n with
  | nil => cases m <;> cases n <;> exact List.prefix_refl _
  | cons c rest ih =>
    cases m with
    | zero => exact List.nil_prefix
    | succ m =>
      cases n with
      | zero => omega
      | succ n =>
        rw [takeUnits, takeUnits]
        exact List.cons_prefix_cons.2 ⟨rfl, ih (by omega)⟩

/-- the column after a first part of a line has just that part in front of it -/
theorem takeUnits_of_prefix {part line : List Char} (h : part <+: line) : takeUnits (unitLength part) line = part := by
  induction part generalizing line with
  | nil => rw [unitLength, takeUnits]
  | cons c part ih =>
    obtain ⟨more, rfl⟩ := h
    have hc := units_pos c
    have hrest := ih (List.prefix_append part more)
    obtain ⟨n, hn⟩ : ∃ n, units c = n + 1 := ⟨units c - 1, by omega⟩
    have htotal : unitLength (c :: part) = (n + unitLength part) + 1 := by rw [unitLength, hn]; omega
    have hleft : n + unitLength part + 1 - units c = unitLength part := by omega
    rw [htotal, List.cons_append, takeUnits, hleft, hrest]

theorem before_prefix_of_le (pieces : List (List Char)) {i j : Nat} (h : i ≤ j) :
    before pieces i <+: before pieces j := by
  have htake : pieces.take j = pieces.take i ++ (pieces.drop i).take (j - i) := by
    rw [← List.take_add, Nat.add_sub_cancel' h]
  unfold before
  rw [htake, List.flatMap_append]
  exact List.prefix_append _ _

end Text

open Text

namespace Document

/-! ## In front of a position -/

/-- all text in front of a position; past the last line that is the whole text -/
def front (d : Document) (p : Position) : List Char :=
  match d.pieces[p.line]? with
  | some piece => before d.pieces p.line ++ takeUnits p.character (dropReturn piece)
  | none => d.text.toList

theorem front_of_piece (d : Document) (p : Position) {piece : List Char} (h : d.pieces[p.line]? = some piece) :
    d.front p = before d.pieces p.line ++ takeUnits p.character (dropReturn piece) := by
  simp only [front, h]

theorem front_past (d : Document) (p : Position) (h : d.pieces[p.line]? = none) : d.front p = d.text.toList := by
  simp only [front, h]

theorem offset_eq_front (d : Document) (p : Position) : d.offset p = byteLength (d.front p) := by
  cases h : d.pieces[p.line]? with
  | none => rw [d.front_past p h, d.offset_past p (List.getElem?_eq_none_iff.1 h)]
  | some piece => rw [d.front_of_piece p h, d.offset_eq p piece h]

/-- on a line, what stands in front of a position is no more than the line with all before it -/
theorem front_prefix_piece (d : Document) (p : Position) {piece : List Char} (h : d.pieces[p.line]? = some piece) :
    d.front p <+: before d.pieces p.line ++ piece := by
  have hcolumn := takeUnits_prefix p.character (dropReturn piece)
  rw [d.front_of_piece p h, List.prefix_append_right_inj]
  exact hcolumn.trans ⟨_, dropReturn_append piece⟩

theorem front_prefix_text (d : Document) (p : Position) : d.front p <+: d.text.toList := by
  cases h : d.pieces[p.line]? with
  | none => exact ⟨[], by rw [d.front_past p h, List.append_nil]⟩
  | some piece =>
    have htext := join_cut d.pieces p.line piece h
    rw [d.join_pieces] at htext
    rw [htext]
    exact (d.front_prefix_piece p h).trans (List.prefix_append _ _)

/-- **What stands in front of a position is a first part of what stands in front of a later one** -/
theorem front_mono (d : Document) {p q : Position} (h : p.AtMost q) : d.front p <+: d.front q := by
  cases hq : d.pieces[q.line]? with
  | none =>
    rw [d.front_past q hq]
    exact d.front_prefix_text p
  | some piece =>
    rw [d.front_of_piece q hq]
    rcases h with hline | ⟨hline, hcolumn⟩
    · -- all of the earlier line, with its line feed, stands before the later one
      have hlt : p.line < d.pieces.length := Nat.lt_trans hline (List.getElem?_eq_some_iff.1 hq).1
      have hp := List.getElem?_eq_getElem hlt
      have hbefore := before_prefix_of_le d.pieces (Nat.succ_le_of_lt hline)
      rw [before_succ _ _ _ hp] at hbefore
      have hfeed := (d.front_prefix_piece p hp).trans (List.prefix_append _ ['\n'])
      exact (hfeed.trans hbefore).trans (List.prefix_append _ _)
    · have hp : d.pieces[p.line]? = some piece := hline ▸ hq
      rw [d.front_of_piece p hp, hline, List.prefix_append_right_inj]
      exact takeUnits_prefix_of_le hcolumn _

theorem offset_mono (d : Document) {p q : Position} (h : p.AtMost q) : d.offset p ≤ d.offset q := by
  rw [offset_eq_front, offset_eq_front]
  exact byteLength_le_of_prefix (d.front_mono h)

/-! ## Edits and ends of characters -/

/-- an edit whose ends are in order replaces what lies between them -/
theorem apply_between (d : Document) (r : Range) (h : r.start.AtMost r.stop) :
    ∃ covered rest, d.text.toList = d.front r.start ++ covered ++ rest ∧ d.front r.stop = d.front r.start ++ covered ∧
      ∀ text, (d.apply ⟨r, text⟩).toList = d.front r.start ++ text.toList ++ rest := by
  obtain ⟨covered, hcovered⟩ := d.front_mono h
  obtain ⟨rest, hrest⟩ := d.front_prefix_text r.stop
  rw [← hcovered] at hrest
  refine ⟨covered, rest, hrest.symm, hcovered.symm, fun text => ?_⟩
  refine d.apply_of_cut _ hrest.symm (d.offset_eq_front _).symm ?_
  rw [Nat.max_eq_right (d.offset_mono h), hcovered, offset_eq_front]

/-- every end of a character of a line is the offset of the position that counts the units up to it -/
theorem offset_unitLength (d : Document) {i start : Nat} {line part : List Char} (hstart : d.lineStarts[i]? = some start)
    (hline : d.line? i = some line) (hpart : part <+: line) :
    d.offset ⟨i, unitLength part⟩ = start + byteLength part := by
  simp only [offset, hstart, hline, takeUnits_of_prefix hpart]

/-- lines and columns need no larger numbers than the bytes of the text -/
theorem position_fits (d : Document) {i : Nat} {line part : List Char} (hline : d.line? i = some line)
    (hpart : part <+: line) : i ≤ byteLength d.text.toList ∧ unitLength part ≤ byteLength d.text.toList := by
  constructor
  · have hi : i < d.lineCount := by
      rw [line?_eq] at hline
      obtain ⟨piece, hpiece, -⟩ := Option.map_eq_some_iff.1 hline
      rw [lineCount_eq]
      exact (List.getElem?_eq_some_iff.1 hpiece).1
    have hfeeds := d.lineCount_eq_feeds
    have hbytes := length_le_byteLength d.text.toList
    have hcount := List.count_le_length (a := '\n') (l := d.text.toList)
    omega
  · obtain ⟨more, rfl⟩ := hpart
    have hfits := d.line_fits i _ hline
    rw [unitLength_append] at hfits
    omega

/-- **Offsets follow the order of positions.** For every document: of two positions in order, on whatever lines and
columns, the offset of the first is at most that of the second. So an edit whose range is in order replaces what lies
between the two offsets, with nothing to correct at its end, and putting back the text that the range covers leaves the
document as it was. Each end of a character of a line is the offset of the position on that line whose column counts the
units up to it; line and column are no larger than the bytes of the text. -/
theorem offsets_follow_positions (d : Document) :
    (∀ p q : Position, p.AtMost q → d.offset p ≤ d.offset q) ∧
    (∀ r : Range, r.start.AtMost r.stop → ∃ front covered rest, d.text.toList = front ++ covered ++ rest ∧
      byteLength front = d.offset r.start ∧ byteLength (front ++ covered) = d.offset r.stop ∧
      (∀ text, (d.apply ⟨r, text⟩).toList = front ++ text.toList ++ rest) ∧
      d.apply ⟨r, String.ofList covered⟩ = d.text) ∧
    ∀ i start line part, d.lineStarts[i]? = some start → d.line? i = some line → part <+: line →
      d.offset ⟨i, unitLength part⟩ = start + byteLength part ∧
      i ≤ byteLength d.text.toList ∧ unitLength part ≤ byteLength d.text.toList := by
  refine ⟨fun p q h => d.offset_mono h, fun r h => ?_, fun i start line part hstart hline hpart => ?_⟩
  · obtain ⟨covered, rest, htext, hstop, happly⟩ := d.apply_between r h
    refine ⟨_, covered, rest, htext, (d.offset_eq_front _).symm, ?_, happly, ?_⟩
    · rw [← hstop, offset_eq_front]
    · have hsame := happly (String.ofList covered)
      rw [String.toList_ofList, ← htext] at hsame
      exact String.toList_injective hsame
  · exact ⟨d.offset_unitLength hstart hline hpart, d.position_fits hline hpart⟩

/-- from between the units of a character to past the end of a later line, over a terminator of two characters -/
theorem offsets_follow_positions_astral :
    let d : Document := ⟨⟨"untitled:1"⟩, none, "😀a\r\nb"⟩
    let r : Range := ⟨⟨0, 1⟩, ⟨1, 7⟩⟩
    r.start.AtMost r.stop ∧ d.offset r.start ≤ d.offset r.stop ∧
    (∃ front covered rest, d.text.toList = front ++ covered ++ rest ∧
      byteLength front = d.offset r.start ∧ byteLength (front ++ covered) = d.offset r.stop ∧
      (∀ text, (d.apply ⟨r, text⟩).toList = front ++ text.toList ++ rest) ∧
      d.apply ⟨r, String.ofList covered⟩ = d.text) ∧
    d.lineStarts[0]? = some 0 ∧ d.line? 0 = some ['😀', 'a'] ∧ ['😀'] <+: ['😀', 'a'] ∧
    d.offset ⟨0, unitLength ['😀']⟩ = 0 + byteLength ['😀'] ∧
    0 ≤ byteLength d.text.toList ∧ unitLength ['😀'] ≤ byteLength d.text.toList := by
  intro d r
  obtain ⟨hmono, hedit, hends⟩ := offsets_follow_positions d
  have horder : r.start.AtMost r.stop := .inl (by decide)
  have hstart : d.lineStarts[0]? = some 0 := by decide
  have hline : d.line? 0 = some ['😀', 'a'] := by decide
  have hpart : ['😀'] <+: ['😀', 'a'] := List.prefix_append _ _
  exact ⟨horder, hmono _ _ horder, hedit r horder, hstart, hline, hpart, hends 0 0 _ _ hstart hline hpart⟩

end Document

end ScriptBridge
