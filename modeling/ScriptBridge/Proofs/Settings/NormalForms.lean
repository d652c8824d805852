/-
Configurations as normal forms. A configuration can be written back into a store, each option under its key: truth
values, numbers, the path as a string and the rules as an array of strings. Reading a setting cleans it up (blanks,
defaults, repetitions); of what was cleaned up already nothing is changed, so resolving again gives the configuration
back. The configurations that come back so are just the well-formed ones.

- `readCount_nat`, `readPath_string`, `readRules_array`: the values that each reader leaves as they are.
- `Configuration.WellFormed.ofSettings_setting`: a well-formed configuration is read back from its settings.
- `Store.read_writeBack`: what a store holds after options were written back.
- `resolve_writeBack`: resolving is a retraction onto the well-formed configurations.
-/
import ScriptBridge.Proofs.Settings.Influence
import ScriptBridge.Proofs.Settings.WellFormed

namespace ScriptBridge

open Text

/-! ## Values in normal form -/

/-- of items none of which stands twice, all are kept -/
theorem keepFirst_of_nodup (kept items : List (List Char)) (h : (kept ++ items).Nodup) :
    keepFirst kept items = kept ++ items := by
  induction items generalizing kept with
  | nil => exact (List.append_nil kept).symm
  | cons item rest ih =>
    have hitem : item ∉ kept := fun hmem => (List.nodup_append.1 h).2.2 item hmem item List.mem_cons_self rfl
    rw [List.append_cons] at h ⊢
    rw [keepFirst, if_neg hitem, ih _ h]

theorem readCount_nat (n default : Nat) (h : 1 ≤ n ∧ n ≤ 4294967295) : readCount (some (.nat n)) default = n := by
  have hfits : 0 < n ∧ n < 4294967296 := ⟨h.1, Nat.lt_succ_of_le h.2⟩
  simp [readCount, Json.nat, JsonNumber.toNat?, hfits]

theorem readPath_string (s default : String) (hne : s ≠ "") (htight : Tight s.toList) :
    readPath (some (.string s)) default = s := by
  have htrimmed : trimmed s = s := by
    rw [trimmed, (trim_eq_self_iff _).2 htight, String.ofList_toList]
  simp [readPath, htrimmed, hne]

theorem readRules_array (rules : List String) (hnodup : rules.Nodup)
    (htight : ∀ rule ∈ rules, rule ≠ "" ∧ Tight rule.toList) :
    readRules (some (.array (rules.map .string))) = rules := by
  have hraw : rawRules (some (.array (rules.map .string))) = rules.map String.toList := by
    simp [rawRules, Function.comp_def, Json.string?]
  have htrim : (rules.map String.toList).map trim = rules.map String.toList := by
    rw [List.map_map]
    exact List.map_congr_left fun rule hrule => (trim_eq_self_iff _).2 (htight rule hrule).2
  have hkeep : (rules.map String.toList).filter (fun rule => !rule.isEmpty) = rules.map String.toList := by
    refine List.filter_eq_self.2 fun text htext => ?_
    obtain ⟨rule, hrule, rfl⟩ := List.mem_map.1 htext
    simpa using (htight rule hrule).1
  have hlists : (rules.map String.toList).Nodup := hnodup.map fun _ _ h => String.toList_injective h
  rw [readRules, hraw, htrim, hkeep, keepFirst_of_nodup [] _ hlists]
  simp

/-- a well-formed configuration is what its own settings stand for -/
theorem Configuration.WellFormed.ofSettings_setting {c : Configuration} (h : c.WellFormed) :
    Configuration.ofSettings (fun key => some (c.setting key)) = c := by
  have hflag : ∀ b default, readFlag (some (.bool b)) default = b := fun _ _ => rfl
  simp only [ofSettings, setting, hflag, readCount_nat _ _ h.indentSize, readCount_nat _ _ h.maxLineLength,
    readPath_string _ _ h.executablePath.1 h.executablePath.2, readRules_array _ h.rules_nodup h.rules_tight]

/-! ## Writing back -/

namespace Store

/-- writes the options of some keys into a store, one after the other -/
def writeBack (s : Store) (c : Configuration) (keys : List SettingKey) : Store :=
  keys.foldl (fun s key => s.write settingsNamespace key.name (c.setting key)) s

theorem read_writeBack (s : Store) (c : Configuration) (keys : List SettingKey) (key : SettingKey) :
    (s.writeBack c keys).read settingsNamespace key.name =
      if key ∈ keys then some (c.setting key) else s.read settingsNamespace key.name := by
  induction keys generalizing s with
  | nil => simp [writeBack]
  | cons first keys ih =>
    have hstep : s.writeBack c (first :: keys) =
        (s.write settingsNamespace first.name (c.setting first)).writeBack c keys := rfl
    rw [hstep, ih, read_write_name]
    by_cases hfirst : first = key
    · simp [hfirst]
    · simp [hfirst, Ne.symm hfirst]

/-- after all options were written back, what else a store holds does not count -/
theorem resolve_writeBack_eq (s : Store) (c : Configuration) (keys : List SettingKey) (hkeys : ∀ key, key ∈ keys) :
    (s.writeBack c keys).resolve = Configuration.ofSettings fun key => some (c.setting key) := by
  have hread : (fun key : SettingKey => (s.writeBack c keys).read settingsNamespace key.name) =
      fun key => some (c.setting key) := by
    funext key
    rw [read_writeBack, if_pos (hkeys key)]
  rw [resolve, hread]

/-- **Resolving is a retraction onto normal forms.** Take the options in any order, and write them into a store that
holds whatever it does. A configuration that was resolved, from settings of any kind, is resolved from that store again;
and the configurations that come back so are just the well-formed ones. -/
theorem resolve_writeBack (keys : List SettingKey) (hkeys : ∀ key, key ∈ keys) :
    (∀ (lookup : SettingKey → Option Json) (s : Store),
      (s.writeBack (Configuration.ofSettings lookup) keys).resolve = Configuration.ofSettings lookup) ∧
    (∀ (c : Configuration) (s : Store), (s.writeBack c keys).resolve = c ↔ c.WellFormed) := by
  have hback : ∀ (c : Configuration) (s : Store), c.WellFormed → (s.writeBack c keys).resolve = c := by
    intro c s hc
    rw [resolve_writeBack_eq s c keys hkeys, hc.ofSettings_setting]
  refine ⟨fun lookup s => hback _ s (wellFormed_ofSettings lookup), fun c s => ⟨fun h => ?_, hback c s⟩⟩
  rw [← h]
  exact wellFormed_ofSettings _

/-- a store whose settings all need cleaning up: a path with blanks, a size of zero, rules that repeat -/
def untidy : Store :=
  ((Store.write .empty settingsNamespace SettingKey.executablePath.name (.string " /opt/gd ")).write settingsNamespace
    SettingKey.indentSize.name (.nat 0)).write settingsNamespace SettingKey.ignoredRules.name (.string "b, a,,b")

theorem resolve_writeBack_untidy :
    let keys : List SettingKey := [.ignoredRules, .executablePath, .indentSize, .maxLineLength, .safe, .useSpaces,
      .reorderCode, .useBuiltInBinary, .enableLinter, .enableFormatter]
    (∀ key, key ∈ keys) ∧
    untidy.resolve = { Configuration.default with executablePath := "/opt/gd", ignoredRules := ["b", "a"] } ∧
    (untidy.writeBack untidy.resolve keys).resolve = untidy.resolve := by
  intro keys
  have hkeys : ∀ key, key ∈ keys := by
    intro key
    cases key <;> decide
  exact ⟨hkeys, by decide, (resolve_writeBack keys hkeys).1 _ untidy⟩

end Store

end ScriptBridge
