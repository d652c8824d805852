/-
Trimming. What trimming leaves of a text neither begins nor ends with a blank, and what it takes away is blanks.

- `TrimsTo`: what trimming has to leave, said without an algorithm; `trimsTo_trim`: it leaves that.
- `trim_eq_self_iff`: the texts that trimming leaves as they are.
- `trim_eq_nil_iff`: nothing is left of a text exactly if it is blank throughout.
-/
import Mathlib.Data.List.DropRight
import ScriptBridge.Text.Lines

namespace ScriptBridge.Text

/-- a text neither begins nor ends with a blank -/
structure Tight (text : List Char) : Prop where
  first : ∀ c ∈ text.head?, isBlank c = false
  last : ∀ c ∈ text.getLast?, isBlank c = false

/-- a text is a tight core with nothing but blanks around it -/
structure TrimsTo (text core : List Char) : Prop where
  around : ∃ before after, text = before ++ core ++ after ∧ (∀ c ∈ before, isBlank c = true) ∧
    ∀ c ∈ after, isBlank c = true
  tight : Tight core

theorem trim_prefix (text : List Char) : trim text <+: text.dropWhile isBlank :=
  List.rdropWhile_prefix isBlank _

theorem tight_trim (text : List Char) : Tight (trim text) := by
  constructor
  · intro c hc
    -- what begins the trimmed text begins the text without its leading blanks
    obtain ⟨rest, hrest⟩ := trim_prefix text
    have hfirst : (text.dropWhile isBlank).head? = some c := by
      rw [← hrest, List.head?_append, Option.mem_def.1 hc]
      rfl
    have hnot := List.head?_dropWhile_not isBlank text
    rw [hfirst] at hnot
    exact hnot
  · intro c hc
    have hne : trim text ≠ [] := by
      intro hnil
      rw [hnil] at hc
      cases hc
    have hlast : (trim text).getLast hne = c := by
      rw [List.getLast?_eq_some_getLast hne] at hc
      exact Option.some.inj hc
    have hnot := List.rdropWhile_last_not isBlank (text.dropWhile isBlank) hne
    rw [← hlast]
    exact Bool.eq_false_iff.2 hnot

theorem trimsTo_trim (text : List Char) : TrimsTo text (trim text) := by
  refine ⟨⟨text.takeWhile isBlank, (text.dropWhile isBlank).rtakeWhile isBlank, ?_, ?_, ?_⟩, tight_trim text⟩
  · have hend : trim text ++ (text.dropWhile isBlank).rtakeWhile isBlank = text.dropWhile isBlank :=
      List.rdropWhile_append_rtakeWhile
    rw [List.append_assoc, hend, List.takeWhile_append_dropWhile]
  · exact fun c hc => List.mem_takeWhile_imp hc
  · exact fun c hc => List.mem_rtakeWhile_imp hc

/-- trimming leaves just the texts without blanks at their ends -/
theorem trim_eq_self_iff (text : List Char) : trim text = text ↔ Tight text := by
  refine ⟨fun h => h ▸ tight_trim text, fun h => ?_⟩
  have hfirst : text.dropWhile isBlank = text := by
    cases text with
    | nil => rfl
    | cons c rest => rw [List.dropWhile_cons, if_neg (Bool.eq_false_iff.1 (h.first c rfl))]
  have hlast : text.rdropWhile isBlank = text := by
    refine List.rdropWhile_eq_self_iff.2 fun hne => Bool.eq_false_iff.1 (h.last _ ?_)
    exact List.getLast?_eq_some_getLast hne
  have htrim : trim text = (text.dropWhile isBlank).rdropWhile isBlank := rfl
  rw [htrim, hfirst, hlast]

theorem trim_eq_nil_iff (text : List Char) : trim text = [] ↔ ∀ c ∈ text, isBlank c = true := by
  have hnil : trim text = [] ↔ ∀ c ∈ text.dropWhile isBlank, isBlank c = true := List.rdropWhile_eq_nil_iff
  rw [hnil]
  constructor
  · intro h c hc
    rw [← List.takeWhile_append_dropWhile (p := isBlank) (l := text)] at hc
    rcases List.mem_append.1 hc with hc | hc
    · exact List.mem_takeWhile_imp hc
    · exact h c hc
  · exact fun h c hc => h c ((List.dropWhile_sublist _).subset hc)

end ScriptBridge.Text
