/-
An output in chunks. The linter is read line by line, and neither what ends a line nor whether the last line is ended
matters: the diagnostics of two chunks with a line ending between them are those of the one and then those of the other.
A carriage return is dropped in two places, in front of a line feed and at the end of a line that is read as a finding.
So a chunk that ends with two of its own loses both in front of a line feed, but only one without it; chunks that end
with a carriage return are left out.

- `lines_append_feed`: a line feed between two texts keeps their lines apart.
- `decodeLint_returnFeed`, `decodeLint_feed`: two chunks, by what stands between them.
- `decodeLint_chunks`: one line, two chunks, any number of chunks.
-/
import ScriptBridge.Proofs.Document.LintOutput

namespace ScriptBridge

open Text

/-! ## Lines of two texts -/

namespace Text

theorem terminated_append (pieces more : List (List Char)) (h : more ≠ []) :
    terminated (pieces ++ more) = pieces.map dropReturn ++ terminated more := by
  induction pieces with
  | nil => rfl
  | cons piece pieces ih =>
    have hne : pieces ++ more ≠ [] := by simp [h]
    obtain ⟨second, rest, hrest⟩ := List.exists_cons_of_ne_nil hne
    rw [List.cons_append, hrest, terminated, ← hrest, ih]
    · rfl
    · exact List.cons_ne_nil _ _

/-- **A line feed keeps the lines of two texts apart.** Every piece of the first one is ended by a line feed then. -/
theorem lines_append_feed (a b : List Char) :
    lines (a ++ '\n' :: b) = (splitOn '\n' a).map dropReturn ++ lines b := by
  unfold lines
  rw [splitOn_append_mark, terminated_append _ _ (splitOn_ne_nil _ _)]

end Text

/-! ## Two chunks -/

/-- the diagnostic of a line of output, if it is a finding on a line of the document -/
def Document.found? (d : Document) (line : List Char) : Option Diagnostic :=
  (Finding.ofChars? (dropReturn line)).bind (Finding.diagnostic? d)

theorem Document.found?_nil (d : Document) : d.found? [] = none := rfl

theorem decodeLint_eq_filterMap (stdout : String) (d : Document) :
    decodeLint stdout d = (lines stdout.toList).filterMap d.found? := rfl

/-- an empty last piece is no line, but it would not be a finding either -/
theorem filterMap_terminated (d : Document) (init : List (List Char)) (last : List Char) :
    (terminated (init ++ [last])).filterMap d.found? = (init.map dropReturn ++ [last]).filterMap d.found? := by
  rw [terminated_append _ _ (List.cons_ne_nil _ _), List.filterMap_append, List.filterMap_append]
  cases last with
  | nil => simp [terminated, d.found?_nil]
  | cons c last => rfl

theorem decodeLint_of_pieces (text : String) (d : Document) {init : List (List Char)} {last : List Char}
    (h : splitOn '\n' text.toList = init ++ [last]) :
    decodeLint text d = (init.map dropReturn ++ [last]).filterMap d.found? := by
  rw [decodeLint_eq_filterMap, lines, h, filterMap_terminated]

theorem decodeLint_of_feed (front back : List Char) (d : Document) :
    decodeLint (String.ofList (front ++ '\n' :: back)) d =
      ((splitOn '\n' front).map dropReturn).filterMap d.found? ++ decodeLint (String.ofList back) d := by
  rw [decodeLint_eq_filterMap, String.toList_ofList, lines_append_feed, List.filterMap_append, decodeLint_eq_filterMap,
    String.toList_ofList]

/-- a carriage return and a line feed between two chunks belong to neither -/
theorem decodeLint_returnFeed (a b : String) (d : Document) :
    decodeLint (a ++ "\r\n" ++ b) d = decodeLint a d ++ decodeLint b d := by
  obtain ⟨init, last, hsplit, -, hmore⟩ := splitOn_last '\n' a.toList
  have htext : a ++ "\r\n" ++ b = String.ofList ((a.toList ++ ['\r']) ++ '\n' :: b.toList) := by simp [String.ext_iff]
  have hends : (splitOn '\n' (a.toList ++ ['\r'])).map dropReturn = init.map dropReturn ++ [last] := by
    rw [hmore ['\r'] (by decide), List.map_append, List.map_singleton, dropReturn_append_return]
  rw [htext, decodeLint_of_feed, hends, ← decodeLint_of_pieces a d hsplit, String.ofList_toList]

/-- nor does a line feed alone, unless the first chunk ends with a carriage return -/
theorem decodeLint_feed (a b : String) (d : Document) (h : a.toList.getLast? ≠ some '\r') :
    decodeLint (a ++ "\n" ++ b) d = decodeLint a d ++ decodeLint b d := by
  obtain ⟨init, last, hsplit, ⟨front, hfront⟩, -⟩ := splitOn_last '\n' a.toList
  have htext : a ++ "\n" ++ b = String.ofList (a.toList ++ '\n' :: b.toList) := by simp [String.ext_iff]
  have hbare : last.getLast? ≠ some '\r' := fun hlast => h (by rw [← hfront, List.getLast?_append, hlast]; rfl)
  have hends : (splitOn '\n' a.toList).map dropReturn = init.map dropReturn ++ [last] := by
    rw [hsplit, List.map_append, List.map_singleton, dropReturn_eq_self last hbare]
  rw [htext, decodeLint_of_feed, hends, ← decodeLint_of_pieces a d hsplit, String.ofList_toList]

/-- a text without a line feed is one line, or none if it is empty -/
theorem decodeLint_line (line : String) (d : Document) (h : '\n' ∉ line.toList) :
    decodeLint line d = ((Finding.ofLine? line).bind (Finding.diagnostic? d)).toList := by
  have hfound : (Finding.ofLine? line).bind (Finding.diagnostic? d) = d.found? line.toList := rfl
  have hpieces : splitOn '\n' line.toList = [] ++ [line.toList] := splitOn_of_free _ _ h
  rw [decodeLint_of_pieces line d hpieces, hfound]
  cases hline : d.found? line.toList with
  | none => exact List.filterMap_cons_none hline
  | some x => exact List.filterMap_cons_some hline

/-! ## Any number of chunks -/

/-- what ends a line -/
inductive Text.Ending where
  | feed
  | returnFeed

def Text.Ending.text : Ending → String
  | feed => "\n"
  | returnFeed => "\r\n"

/-- a text is made of chunks, each with a line ending behind it, the last one perhaps with nothing. A chunk may have any
number of lines, and does not end with a carriage return of its own. -/
inductive Text.Chunked : String → List String → Prop where
  | done : Chunked "" []
  | last (chunk : String) : Chunked chunk [chunk]
  | ended {chunk rest : String} {more : List String} (ending : Ending)
      (bare : chunk.toList.getLast? ≠ some '\r') (h : Chunked rest more) :
      Chunked (chunk ++ ending.text ++ rest) (chunk :: more)

theorem decodeLint_chunked (d : Document) {text : String} {chunks : List String} (h : Chunked text chunks) :
    decodeLint text d = chunks.flatMap fun chunk => decodeLint chunk d := by
  induction h with
  | done => rfl
  | last chunk => simp
  | @ended chunk rest more ending bare _ ih =>
    rw [List.flatMap_cons, ← ih]
    cases ending with
    | feed => exact decodeLint_feed chunk rest d bare
    | returnFeed => exact decodeLint_returnFeed chunk rest d

/-- **The output of the linter is read line by line, however lines end.** For every document: a text without a line feed
gives the diagnostic of its finding, if it is one on a line of the document. Two texts with a line feed between them, or
with a carriage return and a line feed, give the diagnostics of the first and then those of the second, if the first
does not end with a carriage return. So do any number of chunks, with either ending behind each of them, and behind the
last one or not. -/
theorem decodeLint_chunks (d : Document) :
    (∀ line : String, '\n' ∉ line.toList →
      decodeLint line d = ((Finding.ofLine? line).bind (Finding.diagnostic? d)).toList) ∧
    (∀ a b : String, a.toList.getLast? ≠ some '\r' →
      decodeLint (a ++ "\n" ++ b) d = decodeLint (a ++ "\r\n" ++ b) d ∧
      decodeLint (a ++ "\r\n" ++ b) d = decodeLint a d ++ decodeLint b d) ∧
    ∀ text chunks, Chunked text chunks → decodeLint text d = chunks.flatMap fun chunk => decodeLint chunk d := by
  refine ⟨fun line h => decodeLint_line line d h, fun a b h => ?_, fun text chunks h => decodeLint_chunked d h⟩
  have hreturn := decodeLint_returnFeed a b d
  exact ⟨(decodeLint_feed a b d h).trans hreturn.symm, hreturn⟩

/-- with both endings and an empty line between two findings, the second one in a line that nothing ends -/
theorem decodeLint_chunks_mixed :
    let d : Document := ⟨⟨"untitled:1"⟩, none, "a\nb"⟩
    let first := "C:\\a.gd:2:r:error: m"
    let second := "a.gd:1:s:warning: n\r"
    '\n' ∉ first.toList ∧ decodeLint first d = ((Finding.ofLine? first).bind (Finding.diagnostic? d)).toList ∧
    first.toList.getLast? ≠ some '\r' ∧
    decodeLint (first ++ "\n" ++ second) d = decodeLint (first ++ "\r\n" ++ second) d ∧
    decodeLint (first ++ "\r\n" ++ second) d = decodeLint first d ++ decodeLint second d ∧
    Chunked (first ++ "\r\n" ++ ("" ++ "\n" ++ second)) [first, "", second] ∧
    decodeLint (first ++ "\r\n" ++ ("" ++ "\n" ++ second)) d =
      [first, "", second].flatMap (fun chunk => decodeLint chunk d) ∧
    decodeLint first d = [⟨Range.ofLine 1 1, .error, "[r] m", "r", Diagnostic.toolName⟩] := by
  intro d first second
  obtain ⟨hline, hfeeds, hchunks⟩ := decodeLint_chunks d
  have hfree : '\n' ∉ first.toList := by decide
  have hbare : first.toList.getLast? ≠ some '\r' := by decide
  have hchunked : Chunked (first ++ "\r\n" ++ ("" ++ "\n" ++ second)) [first, "", second] :=
    .ended .returnFeed hbare (.ended .feed (by decide) (.last second))
  obtain ⟨hsame, happend⟩ := hfeeds first second hbare
  exact ⟨hfree, hline first hfree, hbare, hsame, happend, hchunked, hchunks _ _ hchunked, by decide⟩

end ScriptBridge
