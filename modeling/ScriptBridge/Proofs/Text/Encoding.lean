/-
Texts written as UTF-8 and read back. The first byte of a character says how many bytes follow and narrows the range of
the next one, so that the bytes that a character is written as are taken in one after the other, and none is broken.

- `ofLead_two`, `ofLead_three`, `ofLead_four`: what the first byte of a character asks for, and that its second byte
  gives it.
- `step_single`, `step_lead`, `step_tail`, `step_last`: one byte.
- `scan_char`: all bytes of one character; `decode?_encode`: a text is read back from its bytes.
-/
import ScriptBridge.Text.Utf8

namespace ScriptBridge.Text

/-! ## The first byte -/

theorem ofLead_one {v : Nat} (h : v ≤ 0x7f) : Pending.ofLead v = some ⟨0, 0, 0, v⟩ := by
  rw [Pending.ofLead, if_pos (by omega)]

theorem ofLead_two {v : Nat} (hlow : 0x7f < v) (hhigh : v ≤ 0x7ff) :
    Pending.ofLead (v / 64 % 0x20 + 0xc0) = some ⟨1, 0x80, 0xBF, v / 64⟩ := by
  have hlead : v / 64 % 0x20 + 0xc0 = v / 64 + 0xc0 := by omega
  have hbits : (v / 64 + 0xc0) % 0x20 = v / 64 := by omega
  rw [hlead, Pending.ofLead, if_neg (by omega), if_neg (by omega), if_pos (by omega), hbits]

/-- three bytes: the second one is narrowed where the code would be too small, or that of a surrogate -/
theorem ofLead_three {v : Nat} (hlow : 0x7ff < v) (hhigh : v ≤ 0xffff) (hvalid : v < 0xD800 ∨ 0xDFFF < v) :
    ∃ low high, Pending.ofLead (v / 4096 % 0x10 + 0xe0) = some ⟨2, low, high, v / 4096⟩ ∧
      low ≤ v / 64 % 0x40 + 0x80 ∧ v / 64 % 0x40 + 0x80 ≤ high := by
  have hlead : v / 4096 % 0x10 + 0xe0 = v / 4096 + 0xe0 := by omega
  rw [hlead, Pending.ofLead, if_neg (by omega), if_neg (by omega), if_neg (by omega)]
  by_cases hfirst : v / 4096 = 0
  · exact ⟨0xA0, 0xBF, by rw [if_pos (by omega), hfirst], by omega, by omega⟩
  rw [if_neg (by omega)]
  by_cases hsurrogate : v / 4096 = 0xD
  · exact ⟨0x80, 0x9F, by rw [if_pos (by omega), hsurrogate], by omega, by omega⟩
  · have hbits : (v / 4096 + 0xe0) % 0x10 = v / 4096 := by omega
    exact ⟨0x80, 0xBF, by rw [if_neg (by omega), if_pos (by omega), hbits], by omega, by omega⟩

/-- four bytes: the second one is narrowed where the code would be too small or too large -/
theorem ofLead_four {v : Nat} (hlow : 0xffff < v) (hhigh : v < 0x110000) :
    ∃ low high, Pending.ofLead (v / 262144 % 0x08 + 0xf0) = some ⟨3, low, high, v / 262144⟩ ∧
      low ≤ v / 4096 % 0x40 + 0x80 ∧ v / 4096 % 0x40 + 0x80 ≤ high := by
  have hlead : v / 262144 % 0x08 + 0xf0 = v / 262144 + 0xf0 := by omega
  rw [hlead, Pending.ofLead, if_neg (by omega), if_neg (by omega), if_neg (by omega), if_neg (by omega),
    if_neg (by omega), if_neg (by omega)]
  by_cases hfirst : v / 262144 = 0
  · exact ⟨0x90, 0xBF, by rw [if_pos (by omega), hfirst], by omega, by omega⟩
  rw [if_neg (by omega)]
  by_cases hlast : v / 262144 = 4
  · exact ⟨0x80, 0x8F, by rw [if_neg (by omega), if_pos (by omega), hlast], by omega, by omega⟩
  · have hbits : (v / 262144 + 0xf0) % 8 = v / 262144 := by omega
    exact ⟨0x80, 0xBF, by rw [if_pos (by omega), hbits], by omega, by omega⟩

/-! ## One byte -/

/-- what the bytes read so far give: the pieces that are done, the last one first, and what is pending -/
abbrev Scan := List (Option Char) × Option Pending

/-- one more byte -/
def Scan.step (s : Scan) (byte : UInt8) : Scan :=
  ((Pending.feed s.2 byte).1.reverse ++ s.1, (Pending.feed s.2 byte).2)

/-- more bytes -/
def Scan.run (s : Scan) (bytes : List UInt8) : Scan := bytes.foldl Scan.step s

theorem toNat_ofNat {n : Nat} (h : n < 256) : (UInt8.ofNat n).toNat = n := by
  rw [UInt8.toNat_ofNat']
  exact Nat.mod_eq_of_lt h

theorem step_single (done : List (Option Char)) {n : Nat} (h : n ≤ 0x7f) :
    Scan.step (done, none) (UInt8.ofNat n) = (some (Char.ofNat n) :: done, none) := by
  simp [Scan.step, Pending.feed, toNat_ofNat (show n < 256 by omega), ofLead_one h]

theorem step_lead (done : List (Option Char)) {n : Nat} {p : Pending} (hn : n < 256)
    (hlead : Pending.ofLead n = some p) (howed : p.owed ≠ 0) :
    Scan.step (done, none) (UInt8.ofNat n) = (done, some p) := by
  simp [Scan.step, Pending.feed, toNat_ofNat hn, hlead, howed]

/-- a byte that is asked for, with more to come -/
theorem step_tail (done : List (Option Char)) {owed low high bits x : Nat} (howed : 1 < owed)
    (hlow : low ≤ x % 0x40 + 0x80) (hhigh : x % 0x40 + 0x80 ≤ high) :
    Scan.step (done, some ⟨owed, low, high, bits⟩) (UInt8.ofNat (x % 0x40 + 0x80)) =
      (done, some ⟨owed - 1, 0x80, 0xBF, bits * 0x40 + x % 0x40⟩) := by
  have hbyte := toNat_ofNat (show x % 0x40 + 0x80 < 256 by omega)
  have hbits : (x % 0x40 + 0x80) % 0x40 = x % 0x40 := by omega
  simp only [Scan.step, Pending.feed, hbyte, if_pos (And.intro hlow hhigh), if_neg (Nat.not_le.2 howed), hbits]
  rfl

/-- the last byte that is asked for -/
theorem step_last (done : List (Option Char)) {low high bits x : Nat} (hlow : low ≤ x % 0x40 + 0x80)
    (hhigh : x % 0x40 + 0x80 ≤ high) :
    Scan.step (done, some ⟨1, low, high, bits⟩) (UInt8.ofNat (x % 0x40 + 0x80)) =
      (some (Char.ofNat (bits * 0x40 + x % 0x40)) :: done, none) := by
  have hbyte := toNat_ofNat (show x % 0x40 + 0x80 < 256 by omega)
  have hbits : (x % 0x40 + 0x80) % 0x40 = x % 0x40 := by omega
  simp only [Scan.step, Pending.feed, hbyte, if_pos (And.intro hlow hhigh), if_pos (Nat.le_refl 1), hbits]
  rfl

/-! ## One character -/

/-- the bytes of a character are taken in as that character, with nothing left over -/
theorem scan_char (done : List (Option Char)) (c : Char) :
    Scan.run (done, none) (String.utf8EncodeChar c) = (some c :: done, none) := by
  have hvalid : c.val.toNat < 0xD800 ∨ 0xDFFF < c.val.toNat ∧ c.val.toNat < 0x110000 := c.valid
  have hchar : Char.ofNat c.val.toNat = c := Char.ofNat_toNat c
  -- one case for each number of bytes
  unfold String.utf8EncodeChar
  simp only []
  split
  · next hone =>
    rw [Scan.run, List.foldl_cons, List.foldl_nil, step_single done hone, hchar]
  · next hone =>
    split
    · next htwo =>
      have hlead := ofLead_two (by omega) htwo
      have hlast : c.val.toNat / 64 * 0x40 + c.val.toNat % 0x40 = c.val.toNat := by omega
      simp only [Scan.run, List.foldl_cons, List.foldl_nil]
      rw [step_lead done (by omega) hlead (Nat.succ_ne_zero _), step_last done (by omega) (by omega), hlast, hchar]
    · next htwo =>
      split
      · next hthree =>
        obtain ⟨low, high, hlead, hlow, hhigh⟩ := ofLead_three (v := c.val.toNat) (by omega) hthree (by omega)
        have hlast : (c.val.toNat / 4096 * 0x40 + c.val.toNat / 64 % 0x40) * 0x40 + c.val.toNat % 0x40 =
            c.val.toNat := by omega
        simp only [Scan.run, List.foldl_cons, List.foldl_nil]
        rw [step_lead done (by omega) hlead (Nat.succ_ne_zero _), step_tail done (by omega) hlow hhigh,
          step_last done (by omega) (by omega), hlast, hchar]
      · next hthree =>
        obtain ⟨low, high, hlead, hlow, hhigh⟩ := ofLead_four (v := c.val.toNat) (by omega) (by omega)
        have hlast : ((c.val.toNat / 262144 * 0x40 + c.val.toNat / 4096 % 0x40) * 0x40 + c.val.toNat / 64 % 0x40) *
            0x40 + c.val.toNat % 0x40 = c.val.toNat := by omega
        simp only [Scan.run, List.foldl_cons, List.foldl_nil]
        rw [step_lead done (by omega) hlead (Nat.succ_ne_zero _), step_tail done (by omega) hlow hhigh,
          step_tail done (by omega) (by omega) (by omega), step_last done (by omega) (by omega), hlast, hchar]

/-! ## A text -/

theorem scan_encode (done : List (Option Char)) (text : List Char) :
    Scan.run (done, none) (encode text) = ((text.map some).reverse ++ done, none) := by
  induction text generalizing done with
  | nil => rfl
  | cons c rest ih =>
    rw [encode, List.flatMap_cons, Scan.run, List.foldl_append]
    have hchar := scan_char done c
    rw [Scan.run] at hchar
    rw [hchar]
    exact (ih (some c :: done)).trans (by simp)

/-- **a text is read back from the bytes that it is written as** -/
theorem decode?_encode (text : List Char) : decode? (encode text) = some text := by
  have hscan := scan_encode [] text
  have hpieces : pieces (encode text) = text.map some := by
    change (if (Scan.run ([], none) (encode text)).2.isSome then none :: (Scan.run ([], none) (encode text)).1
      else (Scan.run ([], none) (encode text)).1).reverse = _
    rw [hscan]
    simp
  rw [decode?, hpieces, List.mapM_map]
  exact (List.mapM_pure (f := id)).trans (by rw [List.map_id]; rfl)

end ScriptBridge.Text
