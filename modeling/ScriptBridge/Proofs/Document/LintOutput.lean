/-
The findings in a whole output. `Stream` says how a text is read as lines, each ended by a line feed or by a carriage
return and a line feed, the last one perhaps by nothing; `Reports` says what the diagnostic of a finding is, its range
and what a replacement of that range does included.

- `stream_iff`: a text is a stream of just one list of lines, and that is what `lines` gives.
- `apply_ofLine`: the range of a line covers its text, and nothing of its terminator.
- `decodeLint_eq`: an output gives the diagnostics of its findings on lines that the document has.
- `decodeLint_reports`: hence what the diagnostics of an output are.
-/
import ScriptBridge.Document.Finding
import ScriptBridge.Proofs.Document.Positions

namespace ScriptBridge

open Text

/-! ## Streams of lines -/

namespace Text

/-- a text is a stream of lines: each ends with a line feed, or with a carriage return and a line feed, neither of them
part of the line; what follows the last line feed is a line if it is not empty -/
inductive Stream : List Char → List (List Char) → Prop where
  | done : Stream [] []
  | last {line} (free : '\n' ∉ line) (nonempty : line ≠ []) : Stream line [line]
  | feed {line rest more} (free : '\n' ∉ line) (bare : line.getLast? ≠ some '\r') (h : Stream rest more) :
      Stream (line ++ '\n' :: rest) (line :: more)
  | returnFeed {line rest more} (free : '\n' ∉ line) (h : Stream rest more) :
      Stream (line ++ '\r' :: '\n' :: rest) (line :: more)

/-- the first line feed of a text ends its first line -/
theorem lines_append (piece rest : List Char) (h : '\n' ∉ piece) :
    lines (piece ++ '\n' :: rest) = dropReturn piece :: lines rest := by
  unfold lines
  rw [splitOn_append '\n' piece rest h]
  cases hs : splitOn '\n' rest with
  | nil => exact absurd hs (splitOn_ne_nil _ _)
  | cons first more => rfl

theorem lines_of_free (text : List Char) (h : '\n' ∉ text) (hne : text ≠ []) : lines text = [text] := by
  unfold lines
  rw [splitOn_of_free '\n' text h]
  simp [terminated, hne]

theorem stream_terminated (pieces : List (List Char)) (hne : pieces ≠ []) (hfree : ∀ piece ∈ pieces, '\n' ∉ piece) :
    Stream (joinWith '\n' pieces) (terminated pieces) := by
  induction pieces with
  | nil => exact absurd rfl hne
  | cons piece more ih =>
    have hpiece := hfree piece List.mem_cons_self
    cases more with
    | nil =>
      cases piece with
      | nil => exact .done
      | cons c rest => exact .last hpiece (List.cons_ne_nil _ _)
    | cons second more =>
      have hmore := ih (List.cons_ne_nil _ _) fun p hp => hfree p (List.mem_cons_of_mem _ hp)
      simp only [joinWith, terminated] at hmore ⊢
      by_cases hr : piece.getLast? = some '\r'
      · have hsplit := dropReturn_append piece
        rw [if_pos hr] at hsplit
        have hline : '\n' ∉ dropReturn piece := fun hmem => hpiece (hsplit ▸ List.mem_append_left _ hmem)
        have hstream := Stream.returnFeed hline hmore
        rwa [← List.singleton_append, ← List.append_assoc, hsplit] at hstream
      · rw [dropReturn_eq_self piece hr]
        exact .feed hpiece hr hmore

/-- **A text is a stream of its lines, and of no others** -/
theorem stream_iff (text : List Char) (ls : List (List Char)) : Stream text ls ↔ ls = lines text := by
  constructor
  · intro h
    induction h with
    | done => rfl
    | last free nonempty => exact (lines_of_free _ free nonempty).symm
    | feed free bare _ ih => rw [lines_append _ _ free, dropReturn_eq_self _ bare, ih]
    | @returnFeed line rest more free _ ih =>
      have hfree : '\n' ∉ line ++ ['\r'] := by simp [free]
      have hlines := lines_append (line ++ ['\r']) rest hfree
      rw [dropReturn_append_return, List.append_assoc, List.singleton_append] at hlines
      rw [hlines, ih]
  · rintro rfl
    have h := stream_terminated (splitOn '\n' text) (splitOn_ne_nil _ _) (splitOn_free _ _)
    rwa [join_splitOn] at h

end Text

/-! ## The range of a line -/

namespace Document

/-- **A replacement of the range of a line replaces its text.** What stands before the line, its terminator and
everything behind it stay. -/
theorem apply_ofLine (d : Document) (i : Nat) {head line tail : List Char}
    (cut : LineCut d.text.toList i head line tail) (text : String) :
    (d.apply ⟨Range.ofLine i (unitLength line), text⟩).toList = head ++ text.toList ++ tail := by
  have hzero : FirstHolding 0 line [] := by
    have h := takeUnits_first 0 line
    rwa [takeUnits] at h
  have hall : FirstHolding (unitLength line) line line := by
    have h := takeUnits_first (unitLength line) line
    rwa [takeUnits_of_le _ _ (Nat.le_refl _)] at h
  have hstart := (d.offset_iff ⟨i, 0⟩ _).2 (.within cut hzero)
  have hstop := (d.offset_iff ⟨i, unitLength line⟩ _).2 (.within cut hall)
  rw [List.append_nil] at hstart
  refine d.apply_of_cut _ cut.whole hstart.symm ?_
  rw [Range.ofLine, hstart, hstop, byteLength_append]
  omega

end Document

/-! ## Diagnostics -/

/-- what the diagnostic of a finding is, in a document that has its line -/
structure Reports (d : Document) (f : Finding) (x : Diagnostic) : Prop where
  severity : x.severity = f.severity
  code : x.code = f.rule
  message : x.message = "[" ++ f.rule ++ "] " ++ f.message
  shown : x.range.start.display.1 = f.line
  place : ∃ head line tail, LineCut d.text.toList (f.line - 1) head line tail ∧
    x.range = ⟨⟨f.line - 1, 0⟩, ⟨f.line - 1, unitLength line⟩⟩ ∧
    ∀ text, (d.apply ⟨x.range, text⟩).toList = head ++ text.toList ++ tail

/-- the finding is on a line of the document -/
def Finding.onLineOf (d : Document) (f : Finding) : Bool := decide (1 ≤ f.line ∧ f.line ≤ d.lineCount)

theorem Finding.diagnostic?_onLine (d : Document) (f : Finding) (h : f.onLineOf d = true) :
    ∃ x, f.diagnostic? d = some x ∧ Reports d f x := by
  obtain ⟨hpos, hle⟩ : 1 ≤ f.line ∧ f.line ≤ d.lineCount := of_decide_eq_true h
  obtain ⟨head, line, tail, cut, hline, -⟩ := d.lineCut (f.line - 1) (by omega)
  have hlen : d.lineLength? (f.line - 1) = some (unitLength line) := by rw [Document.lineLength?, hline]; rfl
  refine ⟨_, by rw [diagnostic?, if_neg (by omega), hlen]; rfl, ⟨rfl, rfl, rfl, ?_, head, line, tail, cut, rfl, ?_⟩⟩
  · exact Nat.sub_add_cancel hpos
  · exact d.apply_ofLine _ cut

theorem Finding.diagnostic?_offLine (d : Document) (f : Finding) (h : f.onLineOf d = false) :
    f.diagnostic? d = none := by
  have hoff : ¬ (1 ≤ f.line ∧ f.line ≤ d.lineCount) := of_decide_eq_false h
  unfold diagnostic?
  split
  · rfl
  · have hnone : d.line? (f.line - 1) = none := by
      rw [d.line?_eq, List.getElem?_eq_none_iff.2 (by rw [← d.lineCount_eq]; omega)]
      rfl
    rw [Document.lineLength?, hnone]
    rfl

/-- of a list of findings, those on lines of the document have a diagnostic each, in their order -/
theorem reports_filterMap (d : Document) (found : List Finding) :
    List.Forall₂ (Reports d) (found.filter (Finding.onLineOf d)) (found.filterMap (Finding.diagnostic? d)) := by
  induction found with
  | nil => exact .nil
  | cons f found ih =>
    cases h : f.onLineOf d with
    | true =>
      obtain ⟨x, hx, hreports⟩ := f.diagnostic?_onLine d h
      rw [List.filter_cons_of_pos h, List.filterMap_cons_some hx]
      exact .cons hreports ih
    | false =>
      rw [List.filter_cons_of_neg (by simp [h]), List.filterMap_cons_none (f.diagnostic?_offLine d h)]
      exact ih

/-- the findings in lines of output, in their order -/
def findingsIn (ls : List (List Char)) : List Finding := ls.filterMap fun line => Finding.ofLine? (String.ofList line)

theorem decodeLint_eq (stdout : String) (d : Document) :
    decodeLint stdout d = (findingsIn (lines stdout.toList)).filterMap (Finding.diagnostic? d) := by
  simp only [decodeLint, findingsIn, List.filterMap_filterMap, Finding.ofLine?, String.toList_ofList]

/-- **An output gives one diagnostic for each finding on a line of the document.** For every output and every document:
the diagnostics are, in order and with repetitions, those of the lines of the output that are findings with a line
number from one to the number of lines; every other line of the output gives none. Each of them carries rule and text
of its finding, is shown on its line, and has the range of the text of that line: a replacement of the range puts
another text in its place and leaves the terminator of the line and all other lines. -/
theorem decodeLint_reports (stdout : String) (d : Document) :
    ∃ ls, Stream stdout.toList ls ∧
      List.Forall₂ (Reports d) ((findingsIn ls).filter fun f => decide (1 ≤ f.line ∧ f.line ≤ d.lineCount))
        (decodeLint stdout d) := by
  refine ⟨_, (stream_iff _ _).2 rfl, ?_⟩
  rw [decodeLint_eq]
  exact reports_filterMap d _

end ScriptBridge
