/-
What a setting reaches. Each option of a configuration is read from one setting; `setting` pairs the two and gives an
option back as the value that a setting would have. So an edit of a store reaches the option of its own key, if it names
one, and nothing else, whatever other namespaces and keys look like when they are joined.

- `Configuration.setting`: the options as settings; `setting_injective`: nothing of a configuration is lost in them.
- `setting_ofSettings`: an option is read from its own setting alone.
- `Store.setting_apply`: what an edit of a store does to each option.
- `edit_reaches_own_option`: an edit changes at most one option.
-/
import Mathlib.Data.List.Basic
import ScriptBridge.Proofs.Settings.StoreHistories

namespace ScriptBridge

/-- the option that belongs to a key, as the value that its setting would have -/
def Configuration.setting (c : Configuration) : SettingKey → Json
  | .enableFormatter => .bool c.enabledFormat
  | .enableLinter => .bool c.enabledLint
  | .indentSize => .nat c.indentSize
  | .useSpaces => .bool c.useSpaces
  | .reorderCode => .bool c.reorderCode
  | .safe => .bool c.safe
  | .executablePath => .string c.executablePath
  | .useBuiltInBinary => .bool c.useBuiltIn
  | .maxLineLength => .nat c.maxLineLength
  | .ignoredRules => .array (c.ignoredRules.map .string)

namespace Configuration

/-- configurations with the same settings are the same -/
theorem setting_injective : Function.Injective setting := by
  intro c d h
  have hnat {m n : Nat} (hmn : Json.nat m = Json.nat n) : m = n :=
    Int.ofNat_inj.1 (JsonNumber.int.inj (Json.number.inj hmn))
  have hrules : c.ignoredRules = d.ignoredRules := by
    have hstring : Function.Injective Json.string := fun _ _ hs => Json.string.inj hs
    exact List.map_injective_iff.2 hstring (Json.array.inj (congrFun h .ignoredRules))
  rw [mk.injEq]
  exact ⟨Json.bool.inj (congrFun h .enableFormatter), Json.bool.inj (congrFun h .enableLinter),
    hnat (congrFun h .indentSize), Json.bool.inj (congrFun h .useSpaces), Json.bool.inj (congrFun h .reorderCode),
    Json.bool.inj (congrFun h .safe), Json.string.inj (congrFun h .executablePath),
    Json.bool.inj (congrFun h .useBuiltInBinary), hnat (congrFun h .maxLineLength), hrules⟩

/-- an option is read from its own setting: it is the same when all other settings are replaced -/
theorem setting_ofSettings (lookup : SettingKey → Option Json) (key : SettingKey) :
    (ofSettings lookup).setting key = (ofSettings fun _ => lookup key).setting key := by
  cases key <;> rfl

end Configuration

namespace Store

theorem setting_resolve (s : Store) (key : SettingKey) : s.resolve.setting key =
    (Configuration.ofSettings fun _ => s.read settingsNamespace key.name).setting key :=
  Configuration.setting_ofSettings _ key

/-- after an edit, an option is read from the value of the edit if this is the edit of its key, else from what was there
before -/
theorem setting_apply (s : Store) (e : Edit) (key : SettingKey) :
    (e.apply s).resolve.setting key =
      if e.pair = (settingsNamespace, key.name) then (Configuration.ofSettings fun _ => e.value?).setting key
      else s.resolve.setting key := by
  have hname := Edit.name_eq_iff settingsNamespace_dotFree key.name_dotFree e
  rw [setting_resolve, read_apply]
  split
  · next h => rw [if_pos (hname.1 h)]
  · next h => rw [if_neg fun hpair => h (hname.2 hpair), setting_resolve]

/-- **Each setting reaches its own option only.** For every store and every edit of it, of any namespace and key: an
edit of the setting of one option leaves all other options, and the option itself is read from the value that the edit
leaves; an edit of anything else leaves the whole configuration. -/
theorem edit_reaches_own_option (s : Store) (e : Edit) :
    (∀ key : SettingKey, e.pair = (settingsNamespace, key.name) →
      (e.apply s).resolve.setting key = (Configuration.ofSettings fun _ => e.value?).setting key ∧
      ∀ other, other ≠ key → (e.apply s).resolve.setting other = s.resolve.setting other) ∧
    ((∀ key : SettingKey, e.pair ≠ (settingsNamespace, key.name)) → (e.apply s).resolve = s.resolve) := by
  refine ⟨fun key hkey => ⟨?_, fun other hother => ?_⟩, fun hforeign => ?_⟩
  · rw [setting_apply, if_pos hkey]
  · have hpair : e.pair ≠ (settingsNamespace, other.name) := by
      intro h
      rw [hkey] at h
      exact hother (SettingKey.name_injective (congrArg Prod.snd h)).symm
    rw [setting_apply, if_neg hpair]
  · refine Configuration.setting_injective (funext fun key => ?_)
    rw [setting_apply, if_neg (hforeign key)]

/-- a key of no namespace that looks like the qualified name of an option -/
example : (write .empty "" "godotFormatter.safe" (.bool false)).resolve = Configuration.default := by decide

end Store

end ScriptBridge
