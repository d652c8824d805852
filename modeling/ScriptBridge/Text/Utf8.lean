/-
Bytes read as UTF-8. `pieces` cuts a byte sequence into its characters and its maximal broken parts; the strict
reading refuses every broken part, the lossy reading puts one replacement character for each.

A broken part is as long as it could still have become a character: the first byte that cannot continue it starts
anew.
-/

namespace ScriptBridge.Text

/-- what a first byte asks for: how many bytes follow, the range of the next one, and the bits read so far -/
structure Pending where
  owed : Nat
  low : Nat
  high : Nat
  bits : Nat

/-- the demand of a first byte; `none` for a byte that starts no character -/
def Pending.ofLead (b : Nat) : Option Pending :=
  if b < 0x80 then some ⟨0, 0, 0, b⟩
  else if b < 0xC2 then none
  else if b < 0xE0 then some ⟨1, 0x80, 0xBF, b % 0x20⟩
  else if b = 0xE0 then some ⟨2, 0xA0, 0xBF, 0⟩
  else if b = 0xED then some ⟨2, 0x80, 0x9F, 0xD⟩
  else if b < 0xF0 then some ⟨2, 0x80, 0xBF, b % 0x10⟩
  else if b = 0xF0 then some ⟨3, 0x90, 0xBF, 0⟩
  else if b < 0xF4 then some ⟨3, 0x80, 0xBF, b % 8⟩
  else if b = 0xF4 then some ⟨3, 0x80, 0x8F, 4⟩
  else none

/-- one step over a byte: what is now pending, after the pieces that the byte completed. `none` among the pieces is a
broken part. -/
def Pending.feed (pending : Option Pending) (byte : UInt8) : List (Option Char) × Option Pending :=
  let b := byte.toNat
  let start : List (Option Char) × Option Pending :=
    match Pending.ofLead b with
    | none => ([none], none)
    | some p => if p.owed = 0 then ([some (Char.ofNat p.bits)], none) else ([], some p)
  match pending with
  | none => start
  | some p =>
    if p.low ≤ b ∧ b ≤ p.high then
      let bits := p.bits * 0x40 + b % 0x40
      if p.owed ≤ 1 then ([some (Char.ofNat bits)], none) else ([], some ⟨p.owed - 1, 0x80, 0xBF, bits⟩)
    else (none :: start.1, start.2)

/-- characters and broken parts of a byte sequence, in order -/
def pieces (bytes : List UInt8) : List (Option Char) :=
  let (done, pending) := bytes.foldl (fun (done, pending) byte =>
    let (more, next) := Pending.feed pending byte
    (more.reverse ++ done, next)) ([], none)
  (if pending.isSome then none :: done else done).reverse

/-- the text of a byte sequence, each broken part read as U+FFFD -/
def decodeLossy (bytes : List UInt8) : List Char :=
  (pieces bytes).map (·.getD (Char.ofNat 0xFFFD))

/-- the text of a byte sequence without broken parts -/
def decode? (bytes : List UInt8) : Option (List Char) :=
  (pieces bytes).mapM id

/-- the UTF-8 form of a text -/
def encode (text : List Char) : List UInt8 :=
  text.flatMap String.utf8EncodeChar

end ScriptBridge.Text
