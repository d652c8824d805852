/-
Measures of a text. A text is counted in two units: bytes of its UTF-8 form, in which places inside a text are
stored, and UTF-16 code units, in which editor hosts count along a line.

`takeBytes` and `dropBytes` cut a text at a byte offset; a cut never falls inside a character. `takeBytes_append` and
`dropBytes_append` say that at the end of a first part they give back the two parts.
-/

namespace ScriptBridge.Text

/-- bytes of a text in UTF-8 -/
def byteLength : List Char → Nat
  | [] => 0
  | c :: rest => c.utf8Size + byteLength rest

/-- the part of a text before a byte offset; a character that reaches past the offset is left out -/
def takeBytes : Nat → List Char → List Char
  | _, [] => []
  | n, c :: rest => if c.utf8Size ≤ n then c :: takeBytes (n - c.utf8Size) rest else []

/-- the part of a text after a byte offset -/
def dropBytes : Nat → List Char → List Char
  | _, [] => []
  | n, c :: rest => if c.utf8Size ≤ n then dropBytes (n - c.utf8Size) rest else c :: rest

/-- the part of a text between two byte offsets -/
def slice (start stop : Nat) (text : List Char) : List Char :=
  takeBytes (stop - start) (dropBytes start text)

/-- UTF-16 code units of a character: two outside the basic plane -/
def units (c : Char) : Nat :=
  if c.toNat < 0x10000 then 1 else 2

/-- UTF-16 code units of a text -/
def unitLength : List Char → Nat
  | [] => 0
  | c :: rest => units c + unitLength rest

/-- the shortest first part of a text that holds at least so many units; the whole text when it is shorter -/
def takeUnits : Nat → List Char → List Char
  | 0, _ => []
  | _ + 1, [] => []
  | n + 1, c :: rest => c :: takeUnits (n + 1 - units c) rest

theorem byteLength_append (a b : List Char) : byteLength (a ++ b) = byteLength a + byteLength b := by
  induction a with
  | nil => simp [byteLength]
  | cons c a ih => simp [byteLength, ih, Nat.add_assoc]

theorem takeBytes_append (a b : List Char) : takeBytes (byteLength a) (a ++ b) = a := by
  induction a with
  | nil =>
    cases b with
    | nil => rfl
    | cons c b => simp [takeBytes, byteLength, Nat.not_le.2 (Char.utf8Size_pos c)]
  | cons c a ih => simp [takeBytes, byteLength, ih]

theorem dropBytes_append (a b : List Char) : dropBytes (byteLength a) (a ++ b) = b := by
  induction a with
  | nil =>
    cases b with
    | nil => rfl
    | cons c b => simp [dropBytes, byteLength, Nat.not_le.2 (Char.utf8Size_pos c)]
  | cons c a ih => simp [dropBytes, byteLength, ih]

/-- `takeUnits n text` is a first part of the text -/
theorem takeUnits_append_drop (n : Nat) (text : List Char) : ∃ rest, takeUnits n text ++ rest = text := by
  induction text generalizing n with
  | nil => exact ⟨[], by cases n <;> rfl⟩
  | cons c text ih =>
    cases n with
    | zero => exact ⟨c :: text, rfl⟩
    | succ n =>
      obtain ⟨rest, h⟩ := ih (n + 1 - units c)
      exact ⟨rest, by simp [takeUnits, h]⟩

end ScriptBridge.Text
