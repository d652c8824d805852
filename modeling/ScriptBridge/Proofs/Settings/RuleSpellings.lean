/-
The two ways to write a list of rules. A string lists its pieces between commas, an array its strings; reading goes on
with what is listed, so the two agree as soon as they list the same. Joining rules and cutting them again gives them
back if none holds a comma. The one exception is a list without rules: joined it is the empty string, which lists one
empty piece, and that piece is no rule.

- `readRules_congr`: rules depend on what is listed alone.
- `readRules_pieces`, `readRules_joined`: an array for a string, and a string for an array.
- `Store.resolve_write_rules`: what the setting of the rules does to a configuration.
- `rule_spellings_agree`: both spellings in any store.
-/
import ScriptBridge.Proofs.Tool.LintArguments
import ScriptBridge.Proofs.Settings.QualifiedNames

namespace ScriptBridge

open Text

theorem readRules_congr {a b : Option Json} (h : rawRules a = rawRules b) : readRules a = readRules b := by
  unfold readRules
  rw [h]

theorem rawRules_array (rules : List String) (items : List Json) (h : items.filterMap Json.string? = rules) :
    rawRules (some (.array items)) = rules.map String.toList := by
  simp only [rawRules, h]

theorem rawRules_string (text : String) :
    rawRules (some (.string text)) = (LintArguments.ruleList text).map String.toList := by
  simp [rawRules, LintArguments.ruleList, Function.comp_def]

/-- a string lists the rules that an array of its pieces does -/
theorem readRules_pieces (text : String) :
    readRules (some (.string text)) = readRules (some (.array ((LintArguments.ruleList text).map .string))) := by
  apply readRules_congr
  have hstrings : ((LintArguments.ruleList text).map Json.string).filterMap Json.string? =
      LintArguments.ruleList text := by
    simp [List.filterMap_map, Function.comp_def, Json.string?]
  rw [rawRules_string, rawRules_array _ _ hstrings]

/-- an array of strings without commas lists the rules that the joined string does -/
theorem readRules_joined (rules : List String) (items : List Json) (hfree : ∀ rule ∈ rules, ',' ∉ rule.toList)
    (h : items.filterMap Json.string? = rules) :
    readRules (some (.string (String.intercalate "," rules))) = readRules (some (.array items)) := by
  by_cases hne : rules = []
  · -- the empty string lists one piece, but none that is a rule
    subst hne
    have hempty : readRules (some (.string (String.intercalate "," []))) = [] := by decide
    have hnone : readRules (some (.array items)) = [] := by
      rw [readRules, rawRules_array _ _ h]
      rfl
    rw [hempty, hnone]
  · apply readRules_congr
    have hpieces : LintArguments.ruleList (String.intercalate "," rules) = rules := by
      rw [LintArguments.ruleList_pieces rules hne, (LintArguments.flatMap_ruleList_eq_self rules).2 hfree]
    rw [rawRules_string, hpieces, rawRules_array _ _ h]

namespace Store

/-- a store whose setting of the rules has a value -/
def withRules (s : Store) (value : Json) : Store :=
  s.write settingsNamespace SettingKey.ignoredRules.name value

theorem resolve_write_rules (s : Store) (value : Json) :
    (s.withRules value).resolve = { s.resolve with ignoredRules := readRules (some value) } := by
  simp [withRules, resolve, Configuration.ofSettings, read_write_name]

/-- **The two spellings of the rules agree.** For every store, whatever it holds: rules without commas give the same
configuration when the setting is the string that joins them with commas and when it is an array whose strings they
are, in this order and with other values anywhere between; and every string gives the configuration that the array of
its pieces between commas gives. -/
theorem rule_spellings_agree (s : Store) :
    (∀ (rules : List String) (items : List Json), (∀ rule ∈ rules, ',' ∉ rule.toList) →
      items.filterMap Json.string? = rules →
      (s.withRules (.string (String.intercalate "," rules))).resolve = (s.withRules (.array items)).resolve) ∧
    ∀ text : String, (s.withRules (.string text)).resolve =
      (s.withRules (.array ((splitOn ',' text.toList).map fun piece => .string (String.ofList piece)))).resolve := by
  constructor
  · intro rules items hfree hitems
    rw [resolve_write_rules, resolve_write_rules, readRules_joined rules items hfree hitems]
  · intro text
    have hpieces : ((splitOn ',' text.toList).map fun piece => Json.string (String.ofList piece)) =
        (LintArguments.ruleList text).map .string := by
      simp [LintArguments.ruleList, Function.comp_def]
    rw [resolve_write_rules, resolve_write_rules, hpieces, readRules_pieces]

/-- blank, empty and repeated rules, with values of other kinds between them -/
theorem rule_spellings_agree_mixed :
    let rules := [" b", "", "a ", "b", "\t"]
    let items : List Json :=
      [.null, .string " b", .string "", .nat 7, .string "a ", .string "b", .string "\t", .bool true]
    (∀ rule ∈ rules, ',' ∉ rule.toList) ∧ items.filterMap Json.string? = rules ∧
      (withRules .empty (.string " b,,a ,b,\t")).resolve = (withRules .empty (.array items)).resolve ∧
      (withRules .empty (.array items)).resolve.ignoredRules = ["b", "a"] := by
  intro rules items
  have hfree : ∀ rule ∈ rules, ',' ∉ rule.toList := by decide
  exact ⟨hfree, rfl, (rule_spellings_agree .empty).1 rules items hfree rfl, by decide⟩

end Store

end ScriptBridge
