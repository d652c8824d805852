/-
Lines of a text. A text is cut at its line feeds; one carriage return before a line feed belongs to the terminator.

`splitOn` keeps everything between the marks, the last piece included, and `join_splitOn` puts the text together again.
`lines` is the reading of a stream of terminated lines: what follows the last line feed counts only if it is not empty,
and keeps its carriage return, since nothing terminated it.

A character is blank when it has the Unicode property White_Space, 25 characters in all; trimming removes blanks at both
ends of a text.
-/

namespace ScriptBridge.Text

/-- the pieces of a text between the occurrences of a character; never empty -/
def splitOn (mark : Char) : List Char → List (List Char)
  | [] => [[]]
  | c :: rest =>
    if c = mark then [] :: splitOn mark rest
    else match splitOn mark rest with
      | [] => [[c]]
      | piece :: more => (c :: piece) :: more

/-- puts pieces together with a character between them -/
def joinWith (mark : Char) : List (List Char) → List Char
  | [] => []
  | [piece] => piece
  | piece :: more => piece ++ mark :: joinWith mark more

/-- a text without the carriage return at its end, if it has one -/
def dropReturn : List Char → List Char
  | [] => []
  | ['\r'] => []
  | c :: rest => c :: dropReturn rest

/-- pieces between line feeds as lines: all but the last had a terminator -/
def terminated : List (List Char) → List (List Char)
  | [] => []
  | [last] => if last.isEmpty then [] else [last]
  | piece :: more => dropReturn piece :: terminated more

/-- the lines of a stream: terminators dropped, no line after a final line feed -/
def lines (text : List Char) : List (List Char) :=
  terminated (splitOn '\n' text)

theorem splitOn_ne_nil (mark : Char) (text : List Char) : splitOn mark text ≠ [] := by
  cases text with
  | nil => simp [splitOn]
  | cons c rest =>
    simp only [splitOn]
    split
    · simp
    · split <;> simp

theorem join_splitOn (mark : Char) (text : List Char) : joinWith mark (splitOn mark text) = text := by
  induction text with
  | nil => rfl
  | cons c rest ih =>
    have hne := splitOn_ne_nil mark rest
    simp only [splitOn]
    split
    · next h =>
      cases hs : splitOn mark rest with
      | nil => exact absurd hs hne
      | cons piece more => rw [hs] at ih; simp [joinWith, ih, h]
    · cases hs : splitOn mark rest with
      | nil => exact absurd hs hne
      | cons piece more =>
        rw [hs] at ih
        cases more <;> simp_all [joinWith]

theorem dropReturn_append_return (text : List Char) : dropReturn (text ++ ['\r']) = text := by
  induction text with
  | nil => rfl
  | cons c rest ih =>
    cases rest with
    | nil => simp [dropReturn]
    | cons d rest => simp_all [dropReturn]

/-! ## Blanks -/

/-- the characters with the property White_Space -/
def isBlank (c : Char) : Bool :=
  let n := c.toNat
  (9 ≤ n && n ≤ 13) || n == 0x20 || n == 0x85 || n == 0xA0 || n == 0x1680 || (0x2000 ≤ n && n ≤ 0x200A)
    || n == 0x2028 || n == 0x2029 || n == 0x202F || n == 0x205F || n == 0x3000

/-- a text without the blanks at its end -/
def trimEnd (text : List Char) : List Char :=
  (text.reverse.dropWhile isBlank).reverse

/-- a text without the blanks at its ends -/
def trim (text : List Char) : List Char :=
  trimEnd (text.dropWhile isBlank)

/-- a string without the blanks at its ends -/
def trimmed (s : String) : String :=
  String.ofList (trim s.toList)

end ScriptBridge.Text
