/-
The grammar of findings. `Reads` says when a line without its terminator is a finding: the fields with their colons and
the space before the message make up the line, and each field is of its kind. A line can have several such readings,
since a path and a message may hold colons. The reader of findings tries every colon as the end of the path.

- `mem_colonCuts`, `colonCuts_increasing`: the colons tried are all colons of the line, in the order of the paths that
  they end.
- `ofFields?_eq_some`: what the reader does behind a path is the grammar of the other fields.
- `Tail.unique`: a line has at most one reading for each path.
- `ofLine?_longest`: the finding of a line is its reading with the longest path; a line without any reading has none.
-/
import Mathlib.Data.List.Induction
import Mathlib.Data.Nat.Digits.Defs
import ScriptBridge.Document.Finding

namespace ScriptBridge.Finding

open Text

/-! ## The grammar -/

/-- digits as a line number -/
structure Numeral (digits : List Char) (n : Nat) : Prop where
  nonempty : digits ≠ []
  decimal : ∀ c ∈ digits, c.isDigit
  value : n = Nat.ofDigits 10 (digits.reverse.map fun c => c.toNat - '0'.toNat)
  fits : n < 2 ^ 32

/-- the text of all fields behind the path, the line number written with some digits -/
def tailText (digits : List Char) (f : Finding) : List Char :=
  digits ++ ':' :: (f.rule.toList ++ ':' :: (f.severity.token.toList ++ ':' :: ' ' :: f.message.toList))

/-- a text that stands behind the path of a finding and its colon -/
structure Tail (text : List Char) (f : Finding) : Prop where
  written : ∃ digits, Numeral digits f.line ∧ text = f.tailText digits
  rule_nonempty : f.rule ≠ ""
  rule_colonFree : ':' ∉ f.rule.toList
  message_nonempty : f.message ≠ ""

/-- a line that the grammar reads as a finding -/
structure Reads (line : List Char) (f : Finding) : Prop where
  path_nonempty : f.path ≠ ""
  cut : ∃ text, line = f.path.toList ++ ':' :: text ∧ Tail text f

/-! ## Colons -/

theorem cutColon?_eq_some (text a b : List Char) :
    cutColon? text = some (a, b) ↔ text = a ++ ':' :: b ∧ ':' ∉ a := by
  induction text generalizing a with
  | nil => simp [cutColon?]
  | cons c rest ih =>
    simp only [cutColon?]
    split
    · next hc =>
      subst hc
      constructor
      · intro h
        cases h
        simp
      · rintro ⟨h, hfree⟩
        cases a with
        | nil => cases h; rfl
        | cons d a => cases h; simp at hfree
    · next hc =>
      constructor
      · intro h
        obtain ⟨⟨a', b'⟩, hcut, heq⟩ := Option.map_eq_some_iff.1 h
        cases heq
        obtain ⟨rfl, hfree⟩ := (ih a').1 hcut
        exact ⟨rfl, by simp [Ne.symm hc, hfree]⟩
      · rintro ⟨h, hfree⟩
        cases a with
        | nil => cases h; exact absurd rfl hc
        | cons d a =>
          cases h
          rw [(ih a).2 ⟨rfl, fun h => hfree (List.mem_cons_of_mem _ h)⟩]
          rfl

/-- what follows the first colon is never looked at -/
theorem cutColon?_append (a b : List Char) (h : ':' ∉ a) : cutColon? (a ++ ':' :: b) = some (a, b) :=
  (cutColon?_eq_some _ a b).2 ⟨rfl, h⟩

/-- every colon of a line is tried, and nothing else -/
theorem mem_colonCuts (passed line p after : List Char) :
    (p, after) ∈ colonCuts passed line ↔ ∃ a, line = a ++ ':' :: after ∧ p = a.reverse ++ passed := by
  induction line generalizing passed with
  | nil => simp [colonCuts]
  | cons c rest ih =>
    have hlater : (p, after) ∈ colonCuts (c :: passed) rest ↔
        ∃ a, c :: rest = (c :: a) ++ ':' :: after ∧ p = (c :: a).reverse ++ passed := by
      rw [ih]; simp
    simp only [colonCuts]
    constructor
    · intro h
      split at h
      · next hc =>
        rcases List.mem_cons.1 h with h | h
        · cases h; exact ⟨[], by simp [hc]⟩
        · obtain ⟨a, ha⟩ := hlater.1 h
          exact ⟨c :: a, ha⟩
      · obtain ⟨a, ha⟩ := hlater.1 h
        exact ⟨c :: a, ha⟩
    · rintro ⟨a, hline, hp⟩
      cases a with
      | nil => cases hline; simp [hp]
      | cons d a =>
        cases hline
        have hmem := hlater.2 ⟨a, rfl, hp⟩
        split
        · exact List.mem_cons_of_mem _ hmem
        · exact hmem

/-- of two colons the later one ends the longer path -/
theorem colonCuts_increasing (passed line : List Char) :
    (colonCuts passed line).Pairwise fun a b => a.1.length < b.1.length := by
  induction line generalizing passed with
  | nil => exact List.Pairwise.nil
  | cons c rest ih =>
    simp only [colonCuts]
    split
    · refine List.pairwise_cons.2 ⟨?_, ih _⟩
      rintro ⟨p, after⟩ hmem
      obtain ⟨a, _, rfl⟩ := (mem_colonCuts _ _ _ _).1 hmem
      simp only [List.length_append, List.length_cons]
      omega
    · exact ih _

/-! ## Fields -/

theorem digitsValue_eq_ofDigits (digits : List Char) :
    digitsValue digits = Nat.ofDigits 10 (digits.reverse.map fun c => c.toNat - '0'.toNat) := by
  induction digits using List.reverseRecOn with
  | nil => rfl
  | append_singleton init c ih =>
    have hfold : digitsValue (init ++ [c]) = digitsValue init * 10 + (c.toNat - 48) := by
      simp [digitsValue, List.foldl_append]
    have hzero : '0'.toNat = 48 := rfl
    rw [hfold, ih, List.reverse_append, List.reverse_singleton, List.singleton_append, List.map_cons, Nat.ofDigits_cons,
      hzero]
    omega

theorem lineNumber?_eq_some (digits : List Char) (n : Nat) : lineNumber? digits = some n ↔ Numeral digits n := by
  unfold lineNumber?
  constructor
  · intro h
    split at h
    · cases h
    · next hd =>
      split at h
      · next hfits =>
        cases h
        simp only [Bool.or_eq_true, List.isEmpty_iff, Bool.not_eq_true', not_or, Bool.not_eq_false] at hd
        exact ⟨hd.1, List.all_eq_true.1 hd.2, digitsValue_eq_ofDigits digits, hfits⟩
      · cases h
  · intro h
    have hvalue : digitsValue digits = n := by rw [digitsValue_eq_ofDigits, h.value]
    have hall : digits.all Char.isDigit = true := List.all_eq_true.2 h.decimal
    have hfits : n < 4294967296 := h.fits
    rw [hvalue, hall, if_neg (by simp [h.nonempty]), if_pos hfits]

theorem Numeral.colonFree {digits : List Char} {n : Nat} (h : Numeral digits n) : ':' ∉ digits :=
  fun hmem => absurd (h.decimal ':' hmem) (by decide)

theorem token_colonFree (s : Severity) : ':' ∉ s.token.toList := by
  cases s <;> decide

/-- behind a path, the reader accepts just what the grammar does -/
theorem ofFields?_eq_some (passed text : List Char) (f : Finding) :
    ofFields? passed text = some f ↔ f.path = String.ofList passed.reverse ∧ Tail text f := by
  constructor
  · intro h
    simp only [ofFields?, Option.bind_eq_bind, Option.bind_eq_some_iff] at h
    obtain ⟨⟨digits, rest⟩, hdigits, line, hline, ⟨rule, rest'⟩, hrule, h⟩ := h
    split at h
    · cases h
    · next hne =>
      obtain ⟨⟨token, message⟩, htoken, h⟩ := Option.bind_eq_some_iff.1 h
      obtain ⟨severity, hsev, h⟩ := Option.bind_eq_some_iff.1 h
      obtain ⟨rfl, -⟩ := (cutColon?_eq_some _ _ _).1 hdigits
      obtain ⟨rfl, hfree⟩ := (cutColon?_eq_some _ _ _).1 hrule
      obtain ⟨rfl, -⟩ := (cutColon?_eq_some _ _ _).1 htoken
      have htok := Severity.ofToken?_eq_some hsev
      split at h
      · next _ c m hmessage =>
        cases h
        obtain rfl : message = ' ' :: c :: m := hmessage
        refine ⟨rfl, ⟨digits, (lineNumber?_eq_some _ _).1 hline, ?_⟩, ?_, by simpa using hfree, ?_⟩
        · simp [tailText, ← htok]
        · simpa [String.ext_iff] using hne
        · simp [String.ext_iff]
      · cases h
  · rintro ⟨hpath, ⟨⟨digits, hnum, rfl⟩, hrule, hfree, hmessage⟩⟩
    obtain ⟨c, m, hm⟩ : ∃ c m, f.message.toList = c :: m := by
      cases h : f.message.toList with
      | nil => exact absurd (String.toList_eq_nil_iff.1 h) hmessage
      | cons c m => exact ⟨c, m, rfl⟩
    have hne : f.rule.toList.isEmpty = false := by simpa using hrule
    have hback : String.ofList (c :: m) = f.message := by rw [← hm, String.ofList_toList]
    simp only [ofFields?, tailText, cutColon?_append _ _ hnum.colonFree, (lineNumber?_eq_some _ _).2 hnum,
      cutColon?_append _ _ hfree, hne, cutColon?_append _ _ (token_colonFree f.severity), Severity.ofToken?_token, hm,
      hback, ← hpath, String.ofList_toList, Option.bind_eq_bind, Option.bind_some, Bool.false_eq_true, if_false]

/-- the text behind a path settles all other fields -/
theorem Tail.unique {text : List Char} {f g : Finding} (hf : Tail text f) (hg : Tail text g) (h : f.path = g.path) :
    f = g := by
  have hread (e : Finding) (he : Tail text e) : ofFields? e.path.toList.reverse text = some e :=
    (ofFields?_eq_some _ _ _).2 ⟨by simp, he⟩
  have hfg := hread f hf
  rw [h, hread g hg] at hfg
  exact (Option.some.inj hfg).symm

/-- a line has at most one reading for each length of a path -/
theorem Reads.unique {line : List Char} {f g : Finding} (hf : Reads line f) (hg : Reads line g)
    (h : f.path.length = g.path.length) : f = g := by
  obtain ⟨-, text, rfl, hf⟩ := hf
  obtain ⟨-, text', htext, hg⟩ := hg
  obtain ⟨hpath, htail⟩ := List.append_inj htext (by rwa [String.length_toList, String.length_toList])
  cases htail
  exact hf.unique hg (String.toList_injective hpath)

/-! ## Readings of a line -/

/-- the cuts of a line that the reader tries, in its order -/
def cuts (line : List Char) : List (List Char × List Char) :=
  (colonCuts [] line).reverse.filter fun cut => !cut.1.isEmpty

theorem mem_cuts (line p text : List Char) : (p, text) ∈ cuts line ↔ line = p.reverse ++ ':' :: text ∧ p ≠ [] := by
  simp only [cuts, List.mem_filter, List.mem_reverse, mem_colonCuts, List.append_nil]
  constructor
  · rintro ⟨⟨a, rfl, rfl⟩, hne⟩
    exact ⟨by simp, by simpa using hne⟩
  · rintro ⟨rfl, hne⟩
    exact ⟨⟨p.reverse, rfl, by simp⟩, by simpa using hne⟩

theorem cuts_decreasing (line : List Char) : (cuts line).Pairwise fun a b => b.1.length < a.1.length :=
  (List.pairwise_reverse.2 (colonCuts_increasing [] line)).filter _

theorem reads_iff (line : List Char) (f : Finding) :
    Reads line f ↔ ∃ cut ∈ cuts line, ofFields? cut.1 cut.2 = some f := by
  constructor
  · rintro ⟨hne, text, hline, htail⟩
    refine ⟨(f.path.toList.reverse, text), (mem_cuts _ _ _).2 ⟨by simpa using hline, by simpa using hne⟩, ?_⟩
    exact (ofFields?_eq_some _ _ _).2 ⟨by simp, htail⟩
  · rintro ⟨⟨p, text⟩, hmem, hread⟩
    obtain ⟨hline, hne⟩ := (mem_cuts _ _ _).1 hmem
    obtain ⟨hpath, htail⟩ := (ofFields?_eq_some _ _ _).1 hread
    exact ⟨by simpa [hpath] using hne, text, by simpa [hpath] using hline, htail⟩

theorem ofFields?_path_length {passed text : List Char} {f : Finding} (h : ofFields? passed text = some f) :
    f.path.length = passed.length := by
  simp [((ofFields?_eq_some _ _ _).1 h).1]

/-- a finding that the reader gives is a reading, and no reading has a longer path -/
theorem ofChars?_reads {line : List Char} {f : Finding} (h : ofChars? line = some f) :
    Reads line f ∧ ∀ g, Reads line g → g.path.length ≤ f.path.length := by
  have hfind : (cuts line).findSome? (fun cut => ofFields? cut.1 cut.2) = some f := h
  obtain ⟨refused, cut, later, hcuts, hread, hrefused⟩ := List.findSome?_eq_some_iff.1 hfind
  have hmem : cut ∈ cuts line := by simp [hcuts]
  refine ⟨(reads_iff _ _).2 ⟨cut, hmem, hread⟩, ?_⟩
  intro g hg
  obtain ⟨cut', hmem', hread'⟩ := (reads_iff _ _).1 hg
  rw [ofFields?_path_length hread, ofFields?_path_length hread']
  have hdec := cuts_decreasing line
  rw [hcuts] at hmem' hdec
  -- the cut of the other reading was not tried before, so it is this one or ends a shorter path
  rcases List.mem_append.1 hmem' with hbefore | hmem'
  · rw [hrefused cut' hbefore] at hread'
    cases hread'
  · rcases List.mem_cons.1 hmem' with rfl | hlater
    · exact Nat.le_refl _
    · exact Nat.le_of_lt ((List.pairwise_cons.1 (List.pairwise_append.1 hdec).2.1).1 cut' hlater)

theorem ofChars?_eq_none (line : List Char) : ofChars? line = none ↔ ∀ f, ¬ Reads line f := by
  have hfind : ofChars? line = (cuts line).findSome? fun cut => ofFields? cut.1 cut.2 := rfl
  rw [hfind, List.findSome?_eq_none_iff]
  constructor
  · intro h f hf
    obtain ⟨cut, hmem, hread⟩ := (reads_iff _ _).1 hf
    rw [h cut hmem] at hread
    cases hread
  · intro h cut hmem
    cases hread : ofFields? cut.1 cut.2 with
    | none => rfl
    | some f => exact absurd ((reads_iff _ _).2 ⟨cut, hmem, hread⟩) (h f)

/-- **The reader accepts exactly the grammar, with the longest path.** For every line, without a carriage return at its
end: its finding is the reading whose path is at least as long as that of every other reading, and it has none exactly
when it has no reading. -/
theorem ofLine?_longest (line : String) :
    (∀ f, ofLine? line = some f ↔ Reads (dropReturn line.toList) f ∧
      ∀ g, Reads (dropReturn line.toList) g → g.path.length ≤ f.path.length) ∧
    (ofLine? line = none ↔ ∀ f, ¬ Reads (dropReturn line.toList) f) := by
  refine ⟨fun f => ⟨ofChars?_reads, ?_⟩, ofChars?_eq_none _⟩
  rintro ⟨hf, hmax⟩
  cases h : ofLine? line with
  | none => exact absurd hf ((ofChars?_eq_none _).1 h f)
  | some g =>
    obtain ⟨hg, hgmax⟩ := ofChars?_reads h
    rw [hg.unique hf (Nat.le_antisymm (hmax g hg) (hgmax f hf))]

/-- a message that goes on like a finding belongs to the path -/
example : ofLine? "a:1:r:error: b:2:s:warning: c" = some ⟨"a:1:r:error: b", 2, "s", .warning, "c"⟩ := by
  decide

end ScriptBridge.Finding
