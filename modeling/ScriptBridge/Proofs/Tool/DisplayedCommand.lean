/-
The command line as it is shown can be read back: program and arguments are the words of the line. So two commands that
are shown alike differ in their mode at most.

A line of words has one reading: single spaces stand between the words, a word that starts with a quote goes on to the
first quote that no `\''` follows, and any other word is what it looks like, up to the next space.

- `Quotes`, `Begins`, `Spells`: the rule of reading, for a quotation, for the first word of a line and for a whole line.
- `readWords?`: the reading; `readWords?_eq_some_iff`: it is the one of the rule, so a line has one reading at most.
- `quotes_escapeQuotes`, `begins_quoteWord`: a written word reads as the word, whatever it holds, if a word ends behind
  it; `spells_quoteWords`: hence a line of written words reads as these words.
- `Command.ofLine?`: the program and the arguments that a line names; `ofLine?_eq_some_iff`: it reads by the rule of
  words.
- `display_unambiguous`: it reads back every command that is shown.
-/
import ScriptBridge.Tool.Command

namespace ScriptBridge.Text

/-! ## How a line is read -/

/-- behind its opening quote a quotation holds a word, each quote of it as `'\''`; it ends at a quote that no `\''`
follows -/
inductive Quotes : (text word after : List Char) → Prop
  | closed {after : List Char} : (∀ more, after ≠ '\\' :: '\'' :: '\'' :: more) → Quotes ('\'' :: after) [] after
  | quote {text word after : List Char} :
      Quotes text word after → Quotes ('\'' :: '\\' :: '\'' :: '\'' :: text) ('\'' :: word) after
  | other {c : Char} {text word after : List Char} :
      c ≠ '\'' → Quotes text word after → Quotes (c :: text) (c :: word) after

/-- a word ends here: at the end of the line, or before a space -/
def Ends (after : List Char) : Prop := ∀ c ∈ after.head?, c = ' '

/-- a line begins with a word: with a quotation of it, or with the word itself up to the next space -/
inductive Begins : (line word after : List Char) → Prop
  | quoted {text word after : List Char} : Quotes text word after → Begins ('\'' :: text) word after
  | literal {word after : List Char} :
      word.head? ≠ some '\'' → ' ' ∉ word → Ends after → Begins (word ++ after) word after

/-- a line is some words with single spaces between them -/
inductive Spells : (line : List Char) → (words : List (List Char)) → Prop
  | last {line word : List Char} : Begins line word [] → Spells line [word]
  | more {line word rest : List Char} {words : List (List Char)} :
      Begins line word (' ' :: rest) → Spells rest words → Spells line (word :: words)

/-! ## Reading -/

/-- what a quotation holds, and what follows it -/
def readQuotation? : List Char → Option (List Char × List Char)
  | [] => none
  | '\'' :: '\\' :: '\'' :: '\'' :: text => (readQuotation? text).map fun read => ('\'' :: read.1, read.2)
  | c :: text => if c = '\'' then some ([], text) else (readQuotation? text).map fun read => (c :: read.1, read.2)

/-- the first word of a line, and what follows it -/
def readWord? : List Char → Option (List Char × List Char)
  | '\'' :: text => readQuotation? text
  | line => some (line.takeWhile (· ≠ ' '), line.dropWhile (· ≠ ' '))

theorem readQuotation?_closed {after : List Char} (h : ∀ more, after ≠ '\\' :: '\'' :: '\'' :: more) :
    readQuotation? ('\'' :: after) = some ([], after) := by
  rw [readQuotation?, if_pos rfl]
  exact fun more _ => h more

theorem readQuotation?_other {c : Char} (h : c ≠ '\'') (text : List Char) :
    readQuotation? (c :: text) = (readQuotation? text).map fun read => (c :: read.1, read.2) := by
  rw [readQuotation?, if_neg h]
  exact fun _ hc => absurd hc h

theorem readQuotation?_eq_some_iff {text word after : List Char} :
    readQuotation? text = some (word, after) ↔ Quotes text word after := by
  constructor
  · intro h
    induction text using readQuotation?.induct generalizing word with
    | case1 => cases h
    | case2 text ih =>
      simp only [readQuotation?, Option.map_eq_some_iff, Prod.exists, Prod.mk.injEq] at h
      obtain ⟨inner, _, hread, rfl, rfl⟩ := h
      exact .quote (ih hread)
    | case3 text hno =>
      rw [readQuotation?_closed fun more hmore => hno more rfl hmore] at h
      cases h
      exact .closed fun more hmore => hno more rfl hmore
    | case4 c text hno hc ih =>
      rw [readQuotation?_other hc] at h
      simp only [Option.map_eq_some_iff, Prod.exists, Prod.mk.injEq] at h
      obtain ⟨inner, _, hread, rfl, rfl⟩ := h
      exact .other hc (ih hread)
  · intro h
    induction h with
    | closed hafter => exact readQuotation?_closed hafter
    | quote _ ih => simp only [readQuotation?, ih, Option.map_some]
    | other hc _ ih => simp only [readQuotation?_other hc, ih, Option.map_some]

/-- where no quotation begins, a word goes on to the next space -/
theorem readWord?_literal {line : List Char} (h : line.head? ≠ some '\'') :
    readWord? line = some (line.takeWhile (· ≠ ' '), line.dropWhile (· ≠ ' ')) := by
  unfold readWord?
  split
  · exact absurd rfl h
  · rfl

theorem ends_dropWhile (line : List Char) : Ends (line.dropWhile (· ≠ ' ')) := by
  intro c hc
  have hnot := List.head?_dropWhile_not (· ≠ ' ') line
  rw [Option.mem_def.1 hc] at hnot
  simpa using hnot

/-- a literal word and what follows it are found again -/
theorem span_literal {word after : List Char} (hword : ' ' ∉ word) (hafter : Ends after) :
    (word ++ after).takeWhile (· ≠ ' ') = word ∧ (word ++ after).dropWhile (· ≠ ' ') = after := by
  have hall : ∀ c ∈ word, decide (c ≠ ' ') = true := fun c hc => decide_eq_true fun h => hword (h ▸ hc)
  rw [List.takeWhile_append_of_pos hall, List.dropWhile_append_of_pos hall]
  cases after with
  | nil => simp
  | cons c after =>
    obtain rfl : c = ' ' := hafter c rfl
    simp

theorem readWord?_eq_some_iff {line word after : List Char} :
    readWord? line = some (word, after) ↔ Begins line word after := by
  constructor
  · intro h
    by_cases hquote : line.head? = some '\''
    · obtain ⟨text, rfl⟩ := List.head?_eq_some_iff.1 hquote
      exact .quoted (readQuotation?_eq_some_iff.1 h)
    · rw [readWord?_literal hquote, Option.some.injEq, Prod.mk.injEq] at h
      obtain ⟨rfl, rfl⟩ := h
      have hline := List.takeWhile_append_dropWhile (p := (· ≠ ' ')) (l := line)
      have hbegins : Begins (line.takeWhile (· ≠ ' ') ++ line.dropWhile (· ≠ ' ')) _ _ :=
        .literal (fun hfirst => hquote ?_) (fun hspace => ?_) (ends_dropWhile line)
      · rwa [hline] at hbegins
      · rw [← hline, List.head?_append, hfirst]
        rfl
      · simpa using List.all_eq_true.1 List.all_takeWhile _ hspace
  · rintro (hquotes | ⟨hfirst, hword, hafter⟩)
    · exact readQuotation?_eq_some_iff.2 hquotes
    · obtain ⟨htake, hdrop⟩ := span_literal hword hafter
      rw [readWord?_literal, htake, hdrop]
      intro hquote
      rw [List.head?_append] at hquote
      cases word with
      | nil => exact absurd (hafter _ hquote) (by decide)
      | cons c word => exact hfirst hquote

theorem Quotes.length_lt {text word after : List Char} (h : Quotes text word after) : after.length < text.length := by
  induction h with
  | closed _ => exact Nat.lt_succ_self _
  | quote _ ih =>
    simp only [List.length_cons]
    omega
  | other _ _ ih =>
    simp only [List.length_cons]
    omega

theorem Begins.length_le {line word after : List Char} (h : Begins line word after) : after.length ≤ line.length := by
  cases h with
  | quoted h => exact Nat.le_succ_of_le (Nat.le_of_lt h.length_lt)
  | literal _ _ _ => simp

/-- the words of a line -/
def readWords? (line : List Char) : Option (List (List Char)) :=
  match hread : readWord? line with
  | some (word, []) => some [word]
  | some (word, ' ' :: rest) =>
    have : rest.length < line.length := (readWord?_eq_some_iff.1 hread).length_le
    (readWords? rest).map (word :: ·)
  | _ => none
termination_by line.length

theorem readWords?_last {line word : List Char} (h : Begins line word []) : readWords? line = some [word] := by
  rw [readWords?]
  split
  · next other hread =>
    cases hread.symm.trans (readWord?_eq_some_iff.2 h)
    rfl
  · next hread => cases hread.symm.trans (readWord?_eq_some_iff.2 h)
  · next hno _ => exact absurd (readWord?_eq_some_iff.2 h) (hno word)

theorem readWords?_more {line word rest : List Char} (h : Begins line word (' ' :: rest)) :
    readWords? line = (readWords? rest).map (word :: ·) := by
  rw [readWords?]
  split
  · next hread => cases hread.symm.trans (readWord?_eq_some_iff.2 h)
  · next other text hread =>
    cases hread.symm.trans (readWord?_eq_some_iff.2 h)
    rfl
  · next _ hno => exact absurd (readWord?_eq_some_iff.2 h) (hno word rest)

/-- **A line has one reading at most**, the one by the rule -/
theorem readWords?_eq_some_iff {line : List Char} {words : List (List Char)} :
    readWords? line = some words ↔ Spells line words := by
  constructor
  · intro h
    induction line using readWords?.induct generalizing words with
    | case1 line word hread =>
      have hbegins := readWord?_eq_some_iff.1 hread
      cases (readWords?_last hbegins).symm.trans h
      exact .last hbegins
    | case2 line word rest hread _ ih =>
      have hbegins := readWord?_eq_some_iff.1 hread
      rw [readWords?_more hbegins, Option.map_eq_some_iff] at h
      obtain ⟨others, hothers, rfl⟩ := h
      exact .more hbegins (ih hothers)
    | case3 line hlast hmore =>
      rw [readWords?] at h
      split at h
      · next word hread => exact absurd hread (hlast word)
      · next word rest hread => exact absurd hread (hmore word rest)
      · cases h
  · intro h
    induction h with
    | last hbegins => exact readWords?_last hbegins
    | more hbegins _ ih => rw [readWords?_more hbegins, ih, Option.map_some]

/-! ## Written words -/

theorem quotes_escapeQuotes (word after : List Char) (hafter : Ends after) :
    Quotes (escapeQuotes word ++ '\'' :: after) word after := by
  induction word with
  | nil =>
    refine .closed fun more hmore => ?_
    exact absurd (hafter '\\' (by rw [hmore]; rfl)) (by decide)
  | cons c word ih =>
    rw [escapeQuotes]
    split
    · next hc =>
      subst hc
      exact .quote ih
    · next hc => exact .other hc ih

/-- a word that is written without quotes holds neither quotes nor spaces -/
theorem plain_of_not_needsQuotes {word : List Char} (h : needsQuotes word = false) : '\'' ∉ word ∧ ' ' ∉ word := by
  simp only [needsQuotes, Bool.or_eq_false_iff, List.any_eq_false] at h
  constructor
  · intro hmem
    exact h.2 _ hmem (by decide)
  · intro hmem
    exact h.2 _ hmem (by decide)

/-- **A written word reads as the word**, whatever it holds, if a word ends behind it -/
theorem begins_quoteWord (word after : List Char) (hafter : Ends after) :
    Begins (quoteWord word ++ after) word after := by
  rw [quoteWord]
  split
  · have hquotes := quotes_escapeQuotes word after hafter
    rw [List.cons_append, List.append_assoc]
    exact .quoted hquotes
  · next hplain =>
    obtain ⟨hquote, hspace⟩ := plain_of_not_needsQuotes (Bool.eq_false_iff.2 hplain)
    refine .literal (fun hfirst => hquote ?_) hspace hafter
    exact List.mem_of_mem_head? hfirst

/-- a line of written words reads as these words -/
theorem spells_quoteWords {words : List (List Char)} (hne : words ≠ []) : Spells (quoteWords words) words := by
  induction words with
  | nil => exact absurd rfl hne
  | cons word more ih =>
    cases more with
    | nil =>
      have hbegins := begins_quoteWord word [] fun c hc => by cases hc
      rw [List.append_nil] at hbegins
      exact .last hbegins
    | cons second more =>
      have hends : Ends (' ' :: quoteWords (second :: more)) := fun c hc => (Option.some.inj hc).symm
      exact .more (begins_quoteWord word _ hends) (ih (List.cons_ne_nil _ _))

end ScriptBridge.Text

/-! ## Command lines -/

namespace ScriptBridge.Command

open Text

/-- the program and the arguments that a line names -/
def ofLine? (line : String) : Option (String × List String) :=
  match readWords? line.toList with
  | some (program :: args) => some (String.ofList program, args.map String.ofList)
  | _ => none

theorem ofLine?_eq_some_iff (line program : String) (args : List String) :
    ofLine? line = some (program, args) ↔ Spells line.toList ((program :: args).map String.toList) := by
  have hprogram (word : List Char) : String.ofList word = program ↔ word = program.toList := by
    constructor <;> (rintro rfl; simp)
  have hargs (words : List (List Char)) : words.map String.ofList = args ↔ words = args.map String.toList := by
    constructor <;> (rintro rfl; simp)
  rw [← readWords?_eq_some_iff, ofLine?, List.map_cons]
  split
  · next word words hread =>
    rw [hread]
    simp only [Option.some.injEq, Prod.mk.injEq, List.cons.injEq, hprogram, hargs]
  · next hno =>
    simp only [reduceCtorEq, false_iff]
    exact hno _ _

theorem ofLine?_display (c : Command) : ofLine? c.display = some (c.program, c.args) := by
  have hwords : (c.program :: c.args).map String.toList ≠ [] := List.cons_ne_nil _ _
  rw [ofLine?_eq_some_iff, display, String.toList_ofList]
  exact spells_quoteWords hwords

/-- **A shown command line is unambiguous.** Every command, whatever characters its program and its arguments hold, is
read back from the line that is shown for it, and commands that are shown alike have the same program and the same
arguments. A line is read by the rule of `Spells`: words with single spaces between them, where a word that starts with
a quote goes on to the first quote that no `\''` follows, with `'\''` for each quote inside, and any other word is taken
as it is. -/
theorem display_unambiguous :
    (∀ c : Command, ofLine? c.display = some (c.program, c.args)) ∧
    (∀ c d : Command, c.display = d.display → c.program = d.program ∧ c.args = d.args) ∧
    (∀ line program args, ofLine? line = some (program, args) ↔
      Spells line.toList ((program :: args).map String.toList)) := by
  refine ⟨ofLine?_display, fun c d hsame => ?_, ofLine?_eq_some_iff⟩
  have hread : some (c.program, c.args) = some (d.program, d.args) := by
    rw [← ofLine?_display, ← ofLine?_display, hsame]
  exact Prod.mk.inj (Option.some.inj hread)

end ScriptBridge.Command
