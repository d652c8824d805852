/-
Findings written as a line and read again. `written` is the line of a finding, `path:line:rule:severity: message`. A
path may hold colons, and so may a message; of all readings of a line the one with the longest path counts. So what is
read is what was written unless the message itself goes on, behind one of its colons, like a finding behind its path.

- `eq_or_behind`: of two colons of one text, the second stands at the place of the first or behind it.
- `Tail.inside`: in what is written behind a path, another such text can only begin inside the message.
- `reads_written`: the readings of a written line whose path is not shorter than that of the finding.
- `Writable.read_longest`: a written finding is always read as some finding.
- `ofLine?_written`: when a written finding is read back, and what is read otherwise.
- `ofLine?_written_colons`: the round trip of a finding with colons everywhere but in its rule.
-/
import ScriptBridge.Proofs.Document.FindingGrammar
import ScriptBridge.Proofs.Document.LineTable
import ScriptBridge.Proofs.Text.Pieces

namespace ScriptBridge.Finding

open Text

/-! ## Written findings -/

/-- the line that a finding is written as -/
def written (f : Finding) : String :=
  f.path ++ ":" ++ toString f.line ++ ":" ++ f.rule ++ ":" ++ f.severity.token ++ ": " ++ f.message

/-- what a linter can write: a line number of 32 bits, a rule without colons, no part empty, and no carriage return at
the end, which would count as part of the terminator -/
structure Writable (f : Finding) : Prop where
  path_nonempty : f.path ≠ ""
  line_fits : f.line < 2 ^ 32
  rule_nonempty : f.rule ≠ ""
  rule_colonFree : ':' ∉ f.rule.toList
  message_nonempty : f.message ≠ ""
  message_bare : f.message.toList.getLast? ≠ some '\r'

/-- a message goes on like a finding: behind some text and a colon stand the fields of `g` that follow its path -/
def Hides (message : String) (before : List Char) (g : Finding) : Prop :=
  ∃ text, message.toList = before ++ ':' :: text ∧ Tail text g

/-- everything in front of the message of a finding that is written with some digits, the path apart -/
def header (digits : List Char) (f : Finding) : List Char :=
  digits ++ ':' :: (f.rule.toList ++ ':' :: (f.severity.token.toList ++ [':', ' ']))

/-- the text of a written finding in front of its message -/
def head (f : Finding) : List Char := f.path.toList ++ ':' :: f.header (toString f.line).toList

theorem tailText_eq (digits : List Char) (f : Finding) : f.tailText digits = f.header digits ++ f.message.toList := by
  simp [tailText, header]

theorem toList_written (f : Finding) :
    f.written.toList = f.path.toList ++ ':' :: f.tailText (toString f.line).toList := by
  simp [written, tailText]

theorem toList_written_eq_head (f : Finding) : f.written.toList = f.head ++ f.message.toList := by
  rw [toList_written, tailText_eq, head, List.append_assoc, List.cons_append]

theorem numeral_toString (n : Nat) (h : n < 2 ^ 32) : Numeral (toString n).toList n := by
  have hdigits : (toString n).toList = Nat.toDigits 10 n := Nat.toList_repr
  have hvalue : digitsValue (Nat.toDigits 10 n) = Nat.ofDigitChars 10 (Nat.toDigits 10 n) 0 := by
    simp only [digitsValue, Nat.ofDigitChars, Nat.mul_comm]
    rfl
  rw [hdigits]
  refine ⟨Nat.toDigits_ne_nil, fun c hc => Nat.isDigit_of_mem_toDigits (by omega) (by omega) hc, ?_, h⟩
  rw [← digitsValue_eq_ofDigits, hvalue, Nat.ofDigitChars_ten_toDigits]

theorem Writable.tail {f : Finding} (h : f.Writable) : Tail (f.tailText (toString f.line).toList) f where
  written := ⟨_, numeral_toString f.line h.line_fits, rfl⟩
  rule_nonempty := h.rule_nonempty
  rule_colonFree := h.rule_colonFree
  message_nonempty := h.message_nonempty

theorem Writable.reads {f : Finding} (h : f.Writable) : Reads f.written.toList f :=
  ⟨h.path_nonempty, _, f.toList_written, h.tail⟩

/-- a written finding ends with its message, so the end of the line is no carriage return -/
theorem Writable.dropReturn_written {f : Finding} (h : f.Writable) :
    dropReturn f.written.toList = f.written.toList := by
  have hmessage : f.message.toList ≠ [] := by simpa using h.message_nonempty
  have hlast := List.getLast?_eq_some_getLast hmessage
  refine dropReturn_eq_self _ ?_
  rw [toList_written_eq_head, List.getLast?_append, hlast, Option.some_or, ← hlast]
  exact h.message_bare

/-! ## Where a colon stands -/

/-- two cuts of one text at a colon, where the first part of one holds none: they are the same, or the other one is made
behind it -/
theorem eq_or_behind {p q a b : List Char} (hp : ':' ∉ p) (h : p ++ ':' :: q = a ++ ':' :: b) :
    (a = p ∧ b = q) ∨ ∃ m, a = p ++ ':' :: m ∧ q = m ++ ':' :: b := by
  rcases cuts_of_append h with h | h | ⟨m, rfl, -⟩
  · exact .inl h
  · exact .inr h
  · exact absurd (List.mem_append_right a List.mem_cons_self) hp

/-- cutting a text at its first colon gives one result -/
theorem cut_unique {p q a b : List Char} (hp : ':' ∉ p) (ha : ':' ∉ a) (h : p ++ ':' :: q = a ++ ':' :: b) :
    a = p ∧ b = q := by
  have hcut := cutColon?_append p q hp
  rw [h, cutColon?_append a b ha] at hcut
  cases hcut
  exact ⟨rfl, rfl⟩

/-- what follows a path begins with a digit -/
theorem Tail.first_digit {text : List Char} {g : Finding} (h : Tail text g) :
    ∃ c rest, text = c :: rest ∧ c.isDigit = true := by
  obtain ⟨digits, hnum, rfl⟩ := h.written
  cases digits with
  | nil => exact absurd rfl hnum.nonempty
  | cons c rest => exact ⟨c, _, rfl, hnum.decimal c List.mem_cons_self⟩

theorem Tail.not_of_first {c : Char} {rest : List Char} {g : Finding} (hc : c.isDigit = false) :
    ¬ Tail (c :: rest) g := by
  intro h
  obtain ⟨d, more, heq, hd⟩ := h.first_digit
  cases heq
  rw [hc] at hd
  cases hd

/-- a severity word begins neither with a digit nor with a blank -/
theorem token_first (s : Severity) :
    ∃ c rest, s.token.toList = c :: rest ∧ c.isDigit = false ∧ c ≠ ' ' := by
  cases s
  · exact ⟨'e', _, rfl, rfl, by decide⟩
  · exact ⟨'w', _, rfl, rfl, by decide⟩

/-- a rule cannot be the line number of another finding: a blank would have to begin its severity -/
theorem Tail.not_at_rule {f g : Finding} (hrule : ':' ∉ f.rule.toList) :
    ¬ Tail (f.rule.toList ++ ':' :: (f.severity.token.toList ++ ':' :: ' ' :: f.message.toList)) g := by
  intro h
  obtain ⟨digits, hnum, htext⟩ := h.written
  obtain ⟨-, hrest⟩ := cut_unique hrule hnum.colonFree htext
  obtain ⟨-, hrest⟩ := cut_unique (token_colonFree _) h.rule_colonFree hrest.symm
  obtain ⟨c, rest, htoken, -, hblank⟩ := token_first g.severity
  rw [htoken] at hrest
  exact hblank (List.cons.inj hrest).1

/-- **Inside a written finding** behind its path, another text that could follow a path begins inside the message. -/
theorem Tail.inside {f g : Finding} {digits m text : List Char} (hdigits : ':' ∉ digits)
    (hrule : ':' ∉ f.rule.toList) (h : f.tailText digits = m ++ ':' :: text) (hg : Tail text g) :
    ∃ before, f.message.toList = before ++ ':' :: text ∧ m = f.header digits ++ before := by
  -- the colon in front of the other text is one of those between the fields, or one of the message
  rcases eq_or_behind hdigits h with ⟨-, rfl⟩ | ⟨m₁, rfl, h₁⟩
  · exact absurd hg (Tail.not_at_rule hrule)
  rcases eq_or_behind hrule h₁ with ⟨-, rfl⟩ | ⟨m₂, rfl, h₂⟩
  · obtain ⟨c, rest, htoken, hc, -⟩ := token_first f.severity
    rw [htoken] at hg
    exact absurd hg (Tail.not_of_first hc)
  rcases eq_or_behind (token_colonFree _) h₂ with ⟨-, rfl⟩ | ⟨m₃, rfl, h₃⟩
  · exact absurd hg (Tail.not_of_first rfl)
  cases m₃ with
  | nil => cases h₃
  | cons c before =>
    obtain ⟨rfl, hmessage⟩ := List.cons.inj h₃
    exact ⟨before, hmessage, by simp [header]⟩

/-! ## Readings of a written line -/

/-- what stands behind a path does not depend on the path -/
theorem Tail.withPath {text : List Char} {g : Finding} (h : Tail text g) (path : String) :
    Tail text { g with path := path } :=
  ⟨h.written, h.rule_nonempty, h.rule_colonFree, h.message_nonempty⟩

/-- a message that goes on like a finding gives the line another reading -/
theorem Hides.reads {f g : Finding} {before : List Char} (h : Hides f.message before g) :
    Reads f.written.toList { g with path := String.ofList (f.head ++ before) } := by
  obtain ⟨text, hmessage, htail⟩ := h
  refine ⟨?_, text, ?_, htail.withPath _⟩
  · simp [head, String.ofList_eq_empty_iff]
  · rw [toList_written_eq_head, hmessage, String.toList_ofList, List.append_assoc]

/-- a reading whose path is not shorter than that of the written finding is that finding, or begins in its message -/
theorem reads_written {f g : Finding} (h : f.Writable) (hg : Reads f.written.toList g)
    (hlength : f.path.length ≤ g.path.length) :
    g = f ∨ ∃ before, Hides f.message before g ∧ g.path = String.ofList (f.head ++ before) := by
  obtain ⟨-, text, hline, htail⟩ := hg
  have hpath : f.path.toList <+: g.path.toList := by
    have hf : f.path.toList <+: f.written.toList := ⟨_, f.toList_written.symm⟩
    have hg : g.path.toList <+: f.written.toList := ⟨_, hline.symm⟩
    refine List.prefix_of_prefix_length_le hf hg ?_
    rwa [String.length_toList, String.length_toList]
  obtain ⟨m, hm⟩ := hpath
  rw [toList_written, ← hm, List.append_assoc, List.append_cancel_left_eq] at hline
  cases m with
  | nil =>
    cases hline
    have hsame : f.path = g.path := String.toList_injective (by simpa using hm)
    exact .inl (htail.unique h.tail hsame.symm)
  | cons c m =>
    obtain ⟨rfl, hrest⟩ := List.cons.inj hline
    have hdigits := (numeral_toString f.line h.line_fits).colonFree
    obtain ⟨before, hmessage, rfl⟩ := Tail.inside hdigits h.rule_colonFree hrest htail
    refine .inr ⟨before, ⟨text, hmessage, htail⟩, String.toList_injective ?_⟩
    rw [← hm, String.toList_ofList, head]
    simp

/-- a written finding is read as some finding, and no reading of the line has a longer path -/
theorem Writable.read_longest {f : Finding} (h : f.Writable) :
    ∃ r, ofLine? f.written = some r ∧ Reads f.written.toList r ∧
      ∀ g, Reads f.written.toList g → g.path.length ≤ r.path.length := by
  have hline : ofLine? f.written = ofChars? f.written.toList := by rw [ofLine?, h.dropReturn_written]
  cases hr : ofChars? f.written.toList with
  | none => exact absurd h.reads ((ofChars?_eq_none _).1 hr f)
  | some r => exact ⟨r, hline.trans hr, ofChars?_reads hr⟩

theorem path_lt_head (f : Finding) (before : List Char) :
    f.path.length < (String.ofList (f.head ++ before)).length := by
  simp only [head, String.length_ofList, List.length_append, List.length_cons, String.length_toList]
  omega

/-! ## Main result -/

/-- **Round trip, with its exact ambiguity.** A written finding is read back as it was exactly if its message does not
go on like a finding behind one of its colons. If it does, the last place where it does so counts: what stands there is
read, and everything in front of it is the path. -/
theorem ofLine?_written (f : Finding) (h : f.Writable) :
    (ofLine? f.written = some f ↔ ¬ ∃ before g, Hides f.message before g) ∧
    (∀ before g, Hides f.message before g →
      (∀ other g', Hides f.message other g' → other.length ≤ before.length) →
      ofLine? f.written = some { g with path := String.ofList (f.head ++ before) }) := by
  obtain ⟨r, hr, hreads, hmax⟩ := h.read_longest
  have hcases := reads_written h hreads (hmax f h.reads)
  have hfront : ∀ before g, Hides f.message before g → (String.ofList (f.head ++ before)).length ≤ r.path.length :=
    fun before g hides => hmax { g with path := String.ofList (f.head ++ before) } hides.reads
  have hlonger : ∀ before g, Hides f.message before g → f.path.length < r.path.length :=
    fun before g hides => Nat.lt_of_lt_of_le (f.path_lt_head before) (hfront before g hides)
  rw [hr]
  constructor
  · constructor
    · rintro hrf ⟨before, g, hides⟩
      cases hrf
      exact Nat.lt_irrefl _ (hlonger before g hides)
    · intro hno
      rcases hcases with rfl | ⟨before, hides, -⟩
      · rfl
      · exact absurd ⟨before, r, hides⟩ hno
  · intro before g hides hlast
    rcases hcases with rfl | ⟨other, hother, hpath⟩
    · exact absurd (hlonger before g hides) (Nat.lt_irrefl _)
    · -- the reading with the longest path begins at the last place, so its path has the length of this one
      have hlength : r.path.length = (String.ofList (f.head ++ before)).length := by
        have hle := hfront before g hides
        have hback := hlast other r hother
        rw [hpath] at hle ⊢
        simp only [String.length_ofList, List.length_append] at hle ⊢
        omega
      rw [hreads.unique hides.reads hlength]

/-- a path, a numeric rule and a message with colons -/
theorem ofLine?_written_colons :
    let f : Finding := ⟨"C:\\a:1.gd", 12, "7", .error, "b: 3:rule:error:c"⟩
    f.Writable ∧ (ofLine? f.written = some f ↔ ¬ ∃ before g, Hides f.message before g) ∧
      ofLine? f.written = some f := by
  intro f
  have hf : f.Writable := ⟨by decide, by decide, by decide, by decide, by decide, by decide⟩
  exact ⟨hf, (ofLine?_written f hf).1, by decide⟩

end ScriptBridge.Finding
