/-
Positions and edits. What a position means is said here without the line table, by cutting the text: `LineCut` says that
a text is all before a line, the line, and its terminator with all behind it; `PointsTo` says which byte offset a
position has. An edit cuts the text at two such offsets.

- `lineCut_of_piece`, `LineCut.unique`: every line has exactly one such cut; `lineCount_eq_feeds`: a document has one
  line more than it has line feeds.
- `takeUnits_first`, `Text.FirstHolding.unique`: the part of a line in front of a column.
- `offset_iff`: the offset of a position is the one that it points to.
- `line_slice`: the text of a line is read between two offsets that end characters of the text.
- `apply_between_offsets`: an edit replaces what stands between its offsets, and nothing when they are reversed.
-/
import Mathlib.Data.List.Basic
import ScriptBridge.Proofs.Document.LineTable
import ScriptBridge.Proofs.Text.Pieces

namespace ScriptBridge

/-! ## Parts of a text -/

namespace Text

/-- `first` is the shortest first part of a line that holds at least `n` units, or the whole line when it holds fewer -/
structure FirstHolding (n : Nat) (line first : List Char) : Prop where
  part : first <+: line
  enough : n ≤ unitLength line → n ≤ unitLength first
  shortest : ∀ other, other <+: line → n ≤ unitLength other → first.length ≤ other.length
  whole : unitLength line < n → first = line

/-- nothing, or a line feed and more -/
def Feeds (rest : List Char) : Prop := rest = [] ∨ ∃ more, rest = '\n' :: more

/-- what follows a line: a line feed or nothing, or a carriage return in front of one of these, which then belongs to
the terminator -/
def Closes (line tail : List Char) : Prop :=
  (line.getLast? ≠ some '\r' ∧ Feeds tail) ∨ ∃ rest, tail = '\r' :: rest ∧ Feeds rest

/-- the text is `head`, then line `i` without its terminator, then `tail` -/
structure LineCut (text : List Char) (i : Nat) (head line tail : List Char) : Prop where
  whole : text = head ++ line ++ tail
  feeds : head.count '\n' = i
  opens : head = [] ∨ head.getLast? = some '\n'
  oneLine : '\n' ∉ line
  closes : Closes line tail

/-- a text has no more units than bytes -/
theorem unitLength_le_byteLength (text : List Char) : unitLength text ≤ byteLength text := by
  induction text with
  | nil => exact Nat.le_refl _
  | cons c rest ih =>
    have hc : units c ≤ c.utf8Size := by
      have hpos := Char.utf8Size_pos c
      unfold units
      split
      · omega
      · next hbig =>
        -- a character of two units lies past all that one to three bytes can write
        have hval : 65536 ≤ c.val.toNat := Nat.not_lt.1 hbig
        simp only [Char.utf8Size, UInt32.le_iff_toNat_le]
        split_ifs with h1 h2 h3
        · simp at h1; omega
        · simp at h2; omega
        · simp at h3; omega
        · omega
    simp only [unitLength, byteLength]
    omega

/-! ## The part of a line in front of a column -/

theorem takeUnits_prefix (n : Nat) (line : List Char) : takeUnits n line <+: line :=
  takeUnits_append_drop n line

theorem takeUnits_enough (n : Nat) (line : List Char) (h : n ≤ unitLength line) :
    n ≤ unitLength (takeUnits n line) := by
  induction line generalizing n with
  | nil =>
    obtain rfl : n = 0 := by simpa [unitLength] using h
    exact Nat.le_refl _
  | cons c rest ih =>
    cases n with
    | zero => exact Nat.zero_le _
    | succ n =>
      simp only [unitLength] at h
      simp only [takeUnits, unitLength]
      have := ih (n + 1 - units c) (by omega)
      omega

theorem takeUnits_shortest (n : Nat) (line other : List Char) (hp : other <+: line) (h : n ≤ unitLength other) :
    (takeUnits n line).length ≤ other.length := by
  induction line generalizing n other with
  | nil => cases n <;> simp [takeUnits]
  | cons c rest ih =>
    cases n with
    | zero => simp [takeUnits]
    | succ n =>
      cases other with
      | nil => simp [unitLength] at h
      | cons d other =>
        obtain ⟨rfl, hrest⟩ := List.cons_prefix_cons.1 hp
        simp only [unitLength] at h
        have := ih (n + 1 - units d) other hrest (by omega)
        simpa [takeUnits] using this

/-- the reader of columns takes just that part -/
theorem takeUnits_first (n : Nat) (line : List Char) : FirstHolding n line (takeUnits n line) where
  part := takeUnits_prefix n line
  enough := takeUnits_enough n line
  shortest := takeUnits_shortest n line
  whole h := takeUnits_of_le n line (Nat.le_of_lt h)

theorem FirstHolding.unique {n : Nat} {line a b : List Char} (ha : FirstHolding n line a) (hb : FirstHolding n line b) :
    a = b := by
  by_cases h : n ≤ unitLength line
  · have hab := ha.shortest b hb.part (hb.enough h)
    have hba := hb.shortest a ha.part (ha.enough h)
    have hp := List.prefix_of_prefix_length_le ha.part hb.part hab
    exact hp.eq_of_length (Nat.le_antisymm hab hba)
  · rw [ha.whole (by omega), hb.whole (by omega)]

/-! ## Cuts at a line -/

theorem count_before (pieces : List (List Char)) (h : ∀ piece ∈ pieces, '\n' ∉ piece) (i : Nat)
    (hi : i ≤ pieces.length) : (before pieces i).count '\n' = i := by
  induction i with
  | zero => rfl
  | succ i ih =>
    have hget := List.getElem?_eq_getElem (Nat.lt_of_succ_le hi)
    have hfree := h _ (List.getElem_mem (Nat.lt_of_succ_le hi))
    rw [before_succ _ _ _ hget, List.count_append, List.count_append, ih (Nat.le_of_succ_le hi),
      List.count_eq_zero.2 hfree]
    rfl

theorem behind_feeds (pieces : List (List Char)) (i : Nat) : Feeds (behind pieces i) := by
  unfold behind
  split
  · exact Or.inl rfl
  · exact Or.inr ⟨_, rfl⟩

/-- every piece between line feeds gives a cut: its line is the piece without one carriage return at its end -/
theorem lineCut_of_piece (pieces : List (List Char)) (hfree : ∀ piece ∈ pieces, '\n' ∉ piece) (i : Nat)
    (piece : List Char) (h : pieces[i]? = some piece) :
    ∃ tail, LineCut (joinWith '\n' pieces) i (before pieces i) (dropReturn piece) tail := by
  have hi := (List.getElem?_eq_some_iff.1 h).1
  have hpiece := dropReturn_append piece
  have hone : '\n' ∉ piece := hfree piece (List.mem_of_getElem? h)
  refine ⟨(if piece.getLast? = some '\r' then ['\r'] else []) ++ behind pieces i, ?_, ?_, ?_, ?_, ?_⟩
  · rw [join_cut pieces i piece h, List.append_assoc, List.append_assoc, ← List.append_assoc (dropReturn piece), hpiece]
  · exact count_before pieces hfree i (Nat.le_of_lt hi)
  · exact before_opens pieces i
  · intro hmem
    rw [← hpiece] at hone
    exact hone (List.mem_append_left _ hmem)
  · by_cases hr : piece.getLast? = some '\r'
    · exact Or.inr ⟨behind pieces i, by simp [hr], behind_feeds pieces i⟩
    · refine Or.inl ⟨?_, by simpa [hr] using behind_feeds pieces i⟩
      rwa [dropReturn_eq_self piece hr]

/-- a first part that grows without a line feed, and again ends with one, has not grown -/
theorem opens_same {a c : List Char} (hc : '\n' ∉ c) (h : a ++ c = [] ∨ (a ++ c).getLast? = some '\n') : c = [] := by
  rcases List.eq_nil_or_concat c with rfl | ⟨init, last, rfl⟩
  · rfl
  · rcases h with h | h
    · simp at h
    · obtain rfl : last = '\n' := by simpa [List.getLast?_append] using h
      simp at hc

/-- a line that grows without a line feed, and is followed by a terminator before and after, has not grown -/
theorem closes_same {line c tail : List Char} (hc : '\n' ∉ c) (h : Closes line (c ++ tail))
    (h' : Closes (line ++ c) tail) : c = [] := by
  cases c with
  | nil => rfl
  | cons x c =>
    exfalso
    have hx : x ≠ '\n' := fun e => hc (by simp [e])
    -- what was added starts with the carriage return that ended the line, so nothing but a line feed can follow it
    rcases h with ⟨-, h | ⟨more, h⟩⟩ | ⟨rest, h, hrest⟩
    · simp at h
    · exact hx (List.cons.inj h).1
    · obtain ⟨rfl, rfl⟩ := List.cons.inj h
      cases c with
      | nil =>
        rcases h' with ⟨h', -⟩ | ⟨rest, rfl, -⟩
        · simp at h'
        · rcases hrest with h | ⟨more, h⟩ <;> simp at h
      | cons y c =>
        rcases hrest with h | ⟨more, h⟩
        · simp at h
        · exact hc (by simp [(List.cons.inj h).1])

/-- **A text has one cut at each line** -/
theorem LineCut.unique {text : List Char} {i : Nat} {head line tail head' line' tail' : List Char}
    (h : LineCut text i head line tail) (h' : LineCut text i head' line' tail') :
    head = head' ∧ line = line' ∧ tail = tail' := by
  have hsame : head = head' := by
    have htext : head ++ (line ++ tail) = head' ++ (line' ++ tail') := by
      rw [← List.append_assoc, ← h.whole, h'.whole, List.append_assoc]
    rcases List.append_eq_append_iff.1 htext with ⟨c, hc, -⟩ | ⟨c, hc, -⟩
    · have hfree : c.count '\n' = 0 := by
        have := h'.feeds
        rw [hc, List.count_append, h.feeds] at this
        omega
      rw [hc, opens_same (List.count_eq_zero.1 hfree) (hc ▸ h'.opens), List.append_nil]
    · have hfree : c.count '\n' = 0 := by
        have := h.feeds
        rw [hc, List.count_append, h'.feeds] at this
        omega
      rw [hc, opens_same (List.count_eq_zero.1 hfree) (hc ▸ h.opens), List.append_nil]
  subst hsame
  have hrest : line ++ tail = line' ++ tail' := by
    have htext : head ++ (line ++ tail) = head ++ (line' ++ tail') := by
      rw [← List.append_assoc, ← List.append_assoc, ← h.whole, ← h'.whole]
    exact List.append_cancel_left htext
  rcases List.append_eq_append_iff.1 hrest with ⟨c, rfl, rfl⟩ | ⟨c, rfl, rfl⟩
  · have hfree : '\n' ∉ c := fun hmem => h'.oneLine (List.mem_append_right _ hmem)
    obtain rfl := closes_same hfree h.closes h'.closes
    simp
  · have hfree : '\n' ∉ c := fun hmem => h.oneLine (List.mem_append_right _ hmem)
    obtain rfl := closes_same hfree h'.closes h.closes
    simp

/-- the parts of a text at two offsets, in either order, both at ends of its characters -/
theorem two_cuts {text a x b y : List Char} (ha : text = a ++ x) (hb : text = b ++ y) :
    ∃ covered tail, text = a ++ covered ++ tail ∧
      byteLength (a ++ covered) = max (byteLength a) (byteLength b) := by
  rcases List.append_eq_append_iff.1 (ha.symm.trans hb) with ⟨c, rfl, rfl⟩ | ⟨c, rfl, rfl⟩
  · refine ⟨c, y, by rw [hb], ?_⟩
    rw [byteLength_append]
    omega
  · refine ⟨[], x, by rw [ha, List.append_nil], ?_⟩
    rw [List.append_nil, byteLength_append]
    omega

end Text

open Text

namespace Document

/-! ## Lines of a document -/

/-- **A document has one line more than it has line feeds** -/
theorem lineCount_eq_feeds (d : Document) : d.lineCount = d.text.toList.count '\n' + 1 := by
  rw [lineCount_eq, pieces, length_splitOn]

theorem pieces_free (d : Document) : ∀ piece ∈ d.pieces, '\n' ∉ piece := splitOn_free '\n' _

/-- every line of a document has a cut, and `line?` gives its text -/
theorem lineCut (d : Document) (i : Nat) (hi : i < d.lineCount) :
    ∃ head line tail, LineCut d.text.toList i head line tail ∧ d.line? i = some line ∧
      d.lineStarts[i]? = some (byteLength head) := by
  rw [lineCount_eq] at hi
  have hget := List.getElem?_eq_getElem hi
  obtain ⟨tail, hcut⟩ := lineCut_of_piece d.pieces d.pieces_free i _ hget
  rw [d.join_pieces] at hcut
  exact ⟨_, _, tail, hcut, by rw [line?_eq, hget]; rfl, d.lineStart_eq i hi⟩

/-- the text of a line is read between two offsets that end characters, and without its carriage return -/
theorem line_slice (d : Document) (i : Nat) (hi : i < d.lineCount) :
    ∃ head piece rest, d.text.toList = head ++ piece ++ rest ∧
      d.lineStarts[i]? = some (byteLength head) ∧
      (d.lineStarts[i + 1]?.map (· - 1)).getD (byteLength d.text.toList) = byteLength (head ++ piece) ∧
      d.line? i = some (dropReturn piece) := by
  rw [lineCount_eq] at hi
  have hget := List.getElem?_eq_getElem hi
  have htext := join_cut d.pieces i _ hget
  rw [d.join_pieces] at htext
  refine ⟨_, _, _, htext, d.lineStart_eq i hi, ?_, by rw [line?_eq, hget]; rfl⟩
  by_cases hn : i + 1 < d.pieces.length
  · rw [d.lineStart_eq (i + 1) hn, before_succ _ _ _ hget, byteLength_append]
    rfl
  · rw [d.lineStart_none (i + 1) (by omega), Option.map_none, Option.getD_none, htext,
      behind_last _ _ (by omega), List.append_nil]

/-! ## Offsets -/

/-- what a position points to: the end of the text when there is no such line, else the byte after the shortest part of
the line that holds as many units as the column counts, or after the whole line when it holds fewer -/
inductive PointsTo (d : Document) (p : Position) : Nat → Prop where
  | past (h : d.lineCount ≤ p.line) : PointsTo d p (byteLength d.text.toList)
  | within {head line tail first : List Char} (cut : LineCut d.text.toList p.line head line tail)
      (part : FirstHolding p.character line first) : PointsTo d p (byteLength (head ++ first))

theorem PointsTo.unique {d : Document} {p : Position} {m n : Nat} (hm : d.PointsTo p m) (hn : d.PointsTo p n) :
    m = n := by
  have hlines {head line tail} (cut : LineCut d.text.toList p.line head line tail) : p.line < d.lineCount := by
    rw [lineCount_eq_feeds, cut.whole, List.count_append, List.count_append, cut.feeds]
    omega
  cases hm with
  | past h =>
    cases hn with
    | past h' => rfl
    | within cut part => exact absurd (hlines cut) (Nat.not_lt.2 h)
  | within cut part =>
    cases hn with
    | past h => exact absurd (hlines cut) (Nat.not_lt.2 h)
    | within cut' part' =>
      obtain ⟨rfl, rfl, rfl⟩ := cut.unique cut'
      rw [part.unique part']

theorem offset_pointsTo (d : Document) (p : Position) : d.PointsTo p (d.offset p) := by
  by_cases h : p.line < d.lineCount
  · obtain ⟨head, line, tail, cut, hline, hstart⟩ := d.lineCut p.line h
    have hoff : d.offset p = byteLength (head ++ takeUnits p.character line) := by
      simp [offset, hline, hstart, byteLength_append]
    rw [hoff]
    exact .within cut (takeUnits_first _ _)
  · have h := Nat.not_lt.1 h
    rw [d.offset_past p (by rwa [← lineCount_eq])]
    exact .past h

/-- **The offset of a position is the one that it points to** -/
theorem offset_iff (d : Document) (p : Position) (n : Nat) : d.offset p = n ↔ d.PointsTo p n :=
  ⟨fun h => h ▸ d.offset_pointsTo p, (d.offset_pointsTo p).unique⟩

/-- what a position points to ends a character of the text, or is its start -/
theorem PointsTo.cut {d : Document} {p : Position} {n : Nat} (h : d.PointsTo p n) :
    ∃ front rest, d.text.toList = front ++ rest ∧ byteLength front = n := by
  cases h with
  | past h => exact ⟨d.text.toList, [], (List.append_nil _).symm, rfl⟩
  | @within head line tail first cut part =>
    obtain ⟨more, rfl⟩ := part.part
    exact ⟨head ++ first, more ++ tail, by rw [cut.whole]; simp, rfl⟩

/-- no line of a document has more units than the text has bytes -/
theorem line_fits (d : Document) (i : Nat) (line : List Char) (h : d.line? i = some line) :
    unitLength line ≤ byteLength d.text.toList := by
  have hi : i < d.lineCount := by
    rw [lineCount_eq]
    by_contra hi
    rw [line?_eq, List.getElem?_eq_none_iff.2 (Nat.not_lt.1 hi)] at h
    cases h
  obtain ⟨head, line', tail, cut, hline, -⟩ := d.lineCut i hi
  obtain rfl : line' = line := Option.some.inj (hline.symm.trans h)
  have hunits := unitLength_le_byteLength line'
  rw [cut.whole, byteLength_append, byteLength_append]
  omega

/-! ## Edits -/

/-- an edit on a text that is cut at its offsets -/
theorem apply_of_cut (d : Document) (e : TextEdit) {front covered rest : List Char}
    (htext : d.text.toList = front ++ covered ++ rest) (hstart : byteLength front = d.offset e.range.start)
    (hstop : byteLength (front ++ covered) = max (d.offset e.range.start) (d.offset e.range.stop)) :
    (d.apply e).toList = front ++ e.newText.toList ++ rest := by
  have hbefore : takeBytes (d.offset e.range.start) d.text.toList = front := by
    rw [htext, List.append_assoc, ← hstart, takeBytes_append]
  have hbehind : dropBytes (max (d.offset e.range.stop) (d.offset e.range.start)) d.text.toList = rest := by
    rw [htext, Nat.max_comm, ← hstop, dropBytes_append]
  simp only [apply, hbefore, hbehind, String.toList_ofList]

/-- **An edit replaces what lies between two offsets.** For every document and every edit, wherever its positions lie
and in whatever order: the text is cut at the offset of the start and at the larger of both offsets, each the end of a
character, and the new text stands in place of what is between. The offset of a position is the end of the text past the
last line, and else the end of the shortest part of the line that holds the units of its column, or of the whole line.
Lines themselves are read between ends of characters, and their units can be counted in as many bits as their bytes. -/
theorem apply_between_offsets (d : Document) (e : TextEdit) :
    (∃ front covered rest, d.text.toList = front ++ covered ++ rest ∧
      byteLength front = d.offset e.range.start ∧
      byteLength (front ++ covered) = max (d.offset e.range.start) (d.offset e.range.stop) ∧
      (d.apply e).toList = front ++ e.newText.toList ++ rest) ∧
    (∀ p n, d.offset p = n ↔ d.PointsTo p n) ∧
    (∀ i, i < d.lineCount → ∃ head piece rest, d.text.toList = head ++ piece ++ rest ∧
      d.lineStarts[i]? = some (byteLength head) ∧
      (d.lineStarts[i + 1]?.map (· - 1)).getD (byteLength d.text.toList) = byteLength (head ++ piece) ∧
      d.line? i = some (dropReturn piece)) ∧
    ∀ i line, d.line? i = some line → unitLength line ≤ byteLength d.text.toList := by
  refine ⟨?_, d.offset_iff, d.line_slice, d.line_fits⟩
  obtain ⟨front, x, hfront, hstart⟩ := (d.offset_pointsTo e.range.start).cut
  obtain ⟨upto, y, hupto, hstop⟩ := (d.offset_pointsTo e.range.stop).cut
  obtain ⟨covered, rest, htext, hmax⟩ := two_cuts hfront hupto
  rw [hstart, hstop] at hmax
  exact ⟨front, covered, rest, htext, hstart, hmax, d.apply_of_cut e htext hstart hmax⟩

/-- a column between the two units of a character means its end, and one past the line the end before its terminator -/
example : (⟨⟨"untitled:1"⟩, none, "😀a\r\nb"⟩ : Document).offset ⟨0, 1⟩ = 4 ∧
    (⟨⟨"untitled:1"⟩, none, "😀a\r\nb"⟩ : Document).offset ⟨0, 9⟩ = 5 := by
  decide

end Document

end ScriptBridge
