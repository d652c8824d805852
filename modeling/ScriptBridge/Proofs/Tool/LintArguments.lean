/-
Reading the arguments of a lint back. The arguments stand for a path, a limit of the line length and a list of rules;
`LintArguments.read?` takes them apart again as the tool does, the rules by their commas.

- `ruleList_pieces`: what a list of rules is read as.
- `read?_lintArgs`: path and limit are always read back, and of the rules their pieces between commas.
- `lintArgs_lossless_iff`: hence nothing is lost exactly if the setting has no array with a comma in one of its strings.
- `array_comma_loses_rules`: an array with such a string, whose rules are read back as others, and one of them twice.
-/
import ScriptBridge.Proofs.Settings.Rules
import ScriptBridge.Tool.Command

namespace ScriptBridge

open Text

/-- what the arguments of a lint say -/
structure LintArguments where
  path : Option Path
  maxLineLength : Nat
  rules : List String
deriving DecidableEq, Repr

namespace LintArguments

/-- the number that a word is, which has digits and nothing else -/
def number? (word : String) : Option Nat :=
  if word.toList ≠ [] ∧ word.toList.all Char.isDigit then some (Nat.ofDigitChars 10 word.toList 0) else none

/-- the rules of a list with commas between them -/
def ruleList (list : String) : List String := (splitOn ',' list.toList).map String.ofList

/-- the options of a lint on a path -/
def options? (path : Option Path) : List String → Option LintArguments
  | ["--max-line-length", limit] => (number? limit).map fun n => ⟨path, n, []⟩
  | ["--max-line-length", limit, "--disable", list] => (number? limit).map fun n => ⟨path, n, ruleList list⟩
  | _ => none

/-- what arguments say; options come in pairs, so there is a path if the number of words after the first is odd -/
def read? : List String → Option LintArguments
  | "lint" :: words =>
    if words.length % 2 = 0 then options? none words
    else match words with
      | path :: rest => options? (some ⟨path⟩) rest
      | [] => none
  | _ => none

end LintArguments

/-! ## Reading back -/

theorem toList_intercalate_comma (rules : List String) :
    (String.intercalate "," rules).toList = joinWith ',' (rules.map String.toList) := by
  induction rules with
  | nil => rfl
  | cons rule more ih =>
    cases more with
    | nil => simp [joinWith]
    | cons second more => simp [String.intercalate_cons_cons, joinWith, ih]

namespace LintArguments

theorem number?_repr (n : Nat) : number? n.repr = some n := by
  have hdigits : ∀ c ∈ Nat.toDigits 10 n, c.isDigit = true :=
    fun c hc => Nat.isDigit_of_mem_toDigits (by omega) (by omega) hc
  rw [number?, Nat.toList_repr, if_pos ⟨Nat.toDigits_ne_nil, List.all_eq_true.2 hdigits⟩, Nat.ofDigitChars_ten_toDigits]

/-- a list of rules is read as the pieces of each -/
theorem ruleList_pieces (rules : List String) (hne : rules ≠ []) :
    ruleList (String.intercalate "," rules) = rules.flatMap ruleList := by
  have hparts : rules.map String.toList ≠ [] := by simpa using hne
  rw [ruleList, toList_intercalate_comma, splitOn_joinWith ',' _ hparts, List.flatMap_map, List.map_flatMap]
  rfl

/-- the pieces of rules are the rules exactly if none holds a comma -/
theorem flatMap_ruleList_eq_self (rules : List String) :
    rules.flatMap ruleList = rules ↔ ∀ rule ∈ rules, ',' ∉ rule.toList := by
  have hpieces : (rules.flatMap ruleList).map String.toList = (rules.map String.toList).flatMap (splitOn ',') := by
    simp [ruleList, List.map_flatMap, List.flatMap_map, Function.comp_def]
  rw [← (List.map_injective_iff.2 fun _ _ h => String.toList_injective h).eq_iff, hpieces, flatMap_splitOn_eq_self]
  simp

/-- the path and the limit of a lint are read back, and of the rules their pieces -/
theorem read?_lintArgs (c : Configuration) (path : Option Path) :
    read? (c.lintArgs path) = some ⟨path, c.maxLineLength, c.ignoredRules.flatMap ruleList⟩ := by
  have hlimit : number? c.maxLineLength.repr = some c.maxLineLength := number?_repr c.maxLineLength
  by_cases hrules : c.ignoredRules = []
  · cases path <;> simp [Configuration.lintArgs, read?, options?, hlimit, hrules]
  · have hlist := ruleList_pieces c.ignoredRules hrules
    cases path <;> simp [Configuration.lintArgs, read?, options?, hlimit, hrules, hlist]

/-- **Lint arguments are lossless, commas in arrays apart.** For every store of settings and every path: the arguments of
a lint give the path and the limit of the line length back, and the pieces of the rules between commas. These are
the rules exactly if no string of an array under the setting holds a comma. The rules themselves never repeat. -/
theorem lintArgs_lossless_iff (s : Store) (path : Option Path) :
    let c := s.resolve
    read? (c.lintArgs path) = some ⟨path, c.maxLineLength, c.ignoredRules.flatMap ruleList⟩ ∧
      (read? (c.lintArgs path) = some ⟨path, c.maxLineLength, c.ignoredRules⟩ ↔
        NoCommaInArray (s.read settingsNamespace SettingKey.ignoredRules.name)) ∧
      c.ignoredRules.Nodup := by
  intro c
  have hrules : c.ignoredRules = readRules (s.read settingsNamespace SettingKey.ignoredRules.name) := rfl
  refine ⟨read?_lintArgs c path, ?_, ?_⟩
  · rw [read?_lintArgs, ← free_readRules, ← hrules, ← flatMap_ruleList_eq_self]
    simp
  · rw [hrules]
    exact nodup_readRules _

/-- the settings of a list of rules, one of them with a comma -/
def commaInArray : Store :=
  Store.write .empty settingsNamespace SettingKey.ignoredRules.name (.array [.string "a,b", .string "a"])

/-- not every list of rules is read back: here `a,b` and `a` come back as `a`, `b` and `a` -/
theorem array_comma_loses_rules : ¬ ∀ (s : Store) (path : Option Path),
    ∃ rules, read? (s.resolve.lintArgs path) = some ⟨path, s.resolve.maxLineLength, rules⟩ ∧
      rules = s.resolve.ignoredRules ∧ rules.Nodup := by
  intro hlossless
  obtain ⟨rules, hread, -, hnodup⟩ := hlossless commaInArray none
  have hback : read? (commaInArray.resolve.lintArgs none) = some ⟨none, 100, ["a", "b", "a"]⟩ := by
    rw [read?_lintArgs]
    decide
  rw [hback] at hread
  cases hread
  exact absurd hnodup (by decide)

end LintArguments

end ScriptBridge
