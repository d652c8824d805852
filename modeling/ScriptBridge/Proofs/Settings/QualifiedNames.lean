/-
Qualified names. A setting is held under the names of its namespace and its key with a dot between them, and both
names may hold dots themselves. So a qualified name says where it was cut only if it has one dot; otherwise all cuts of
it at a dot are pairs that share one setting. The names of the options have no dots.

- `qualified_eq_qualified_iff`: when two pairs share a qualified name: one is cut behind the other.
- `qualified_eq_iff`: a pair without dots shares its name with no other.
- `exists_shared`: a pair with a dot shares it with another one.
- `read_write_name`: what is written for one option is read for that option only.
-/
import Mathlib.Logic.Basic
import ScriptBridge.Proofs.Text.Pieces
import ScriptBridge.Settings.Resolve

namespace ScriptBridge

namespace Store

theorem toList_qualified (space key : String) : (qualified space key).toList = space.toList ++ '.' :: key.toList := by
  simp [qualified]

/-- a longer namespace takes names from the front of the key -/
theorem qualified_nested (space middle key : String) :
    qualified (space ++ "." ++ middle) key = qualified space (middle ++ "." ++ key) := by
  simp only [qualified, String.append_assoc]

/-- **Shared names.** Two pairs of names are joined to the same text exactly if they are the same, or one namespace goes
on in the other and the keys take up the difference. -/
theorem qualified_eq_qualified_iff (space key otherSpace otherKey : String) :
    qualified space key = qualified otherSpace otherKey ↔
      (otherSpace = space ∧ otherKey = key) ∨
      (∃ middle, otherSpace = space ++ "." ++ middle ∧ key = middle ++ "." ++ otherKey) ∨
      ∃ middle, space = otherSpace ++ "." ++ middle ∧ otherKey = middle ++ "." ++ key := by
  have hstring : ∀ {a b : String} {m : List Char}, a.toList = b.toList ++ '.' :: m →
      a = b ++ "." ++ String.ofList m := by
    intro a b m h
    exact String.toList_injective (by simp [h])
  have hstring' : ∀ {a b : String} {m : List Char}, a.toList = m ++ '.' :: b.toList →
      a = String.ofList m ++ "." ++ b := by
    intro a b m h
    exact String.toList_injective (by simp [h])
  constructor
  · intro h
    have htext : space.toList ++ '.' :: key.toList = otherSpace.toList ++ '.' :: otherKey.toList := by
      rw [← toList_qualified, ← toList_qualified, h]
    rcases Text.cuts_of_append htext with ⟨hs, hk⟩ | ⟨m, hs, hk⟩ | ⟨m, hs, hk⟩
    · exact .inl ⟨String.toList_injective hs, String.toList_injective hk⟩
    · exact .inr (.inl ⟨String.ofList m, hstring hs, hstring' hk⟩)
    · exact .inr (.inr ⟨String.ofList m, hstring hs, hstring' hk⟩)
  · rintro (⟨rfl, rfl⟩ | ⟨middle, rfl, rfl⟩ | ⟨middle, rfl, rfl⟩)
    · rfl
    · exact (qualified_nested _ _ _).symm
    · exact qualified_nested _ _ _

theorem dot_mem_nested (a b : String) : '.' ∈ (a ++ "." ++ b).toList := by simp

/-- where neither part of a qualified name holds a dot, no other two names give it -/
theorem qualified_eq_iff {space key : String} (hspace : '.' ∉ space.toList) (hkey : '.' ∉ key.toList)
    (otherSpace otherKey : String) :
    qualified otherSpace otherKey = qualified space key ↔ otherSpace = space ∧ otherKey = key := by
  rw [eq_comm, qualified_eq_qualified_iff]
  constructor
  · rintro (h | ⟨middle, -, rfl⟩ | ⟨middle, rfl, -⟩)
    · exact h
    · exact absurd (dot_mem_nested _ _) hkey
    · exact absurd (dot_mem_nested _ _) hspace
  · exact Or.inl

/-- where one part of a qualified name holds a dot, another pair gives it too -/
theorem exists_shared {space key : String} (h : '.' ∈ space.toList ∨ '.' ∈ key.toList) :
    ∃ otherSpace otherKey, (otherSpace, otherKey) ≠ (space, key) ∧
      qualified otherSpace otherKey = qualified space key := by
  have hcut : ∀ {s : String}, '.' ∈ s.toList → ∃ a b, s = a ++ "." ++ b := by
    intro s hs
    obtain ⟨a, b, hab⟩ := List.append_of_mem hs
    exact ⟨String.ofList a, String.ofList b, String.toList_injective (by simp [hab])⟩
  have hlonger : ∀ a b : String, a ++ "." ++ b ≠ a := by
    intro a b heq
    have hlength := congrArg String.length heq
    simp only [String.length_append] at hlength
    have hdot : ".".length = 1 := rfl
    omega
  -- what stands behind a dot of the namespace can go to the key, what stands before a dot of the key to the namespace
  rcases h with h | h
  · obtain ⟨a, b, rfl⟩ := hcut h
    exact ⟨a, b ++ "." ++ key, fun heq => hlonger a b (congrArg Prod.fst heq).symm, (qualified_nested _ _ _).symm⟩
  · obtain ⟨a, b, rfl⟩ := hcut h
    exact ⟨space ++ "." ++ a, b, fun heq => hlonger space a (congrArg Prod.fst heq), qualified_nested _ _ _⟩

end Store

theorem settingsNamespace_dotFree : '.' ∉ settingsNamespace.toList := by decide

theorem SettingKey.name_dotFree (key : SettingKey) : '.' ∉ key.name.toList := by
  cases key <;> decide

theorem SettingKey.name_injective : Function.Injective SettingKey.name := by
  intro a b h
  cases a <;> cases b <;> first | rfl | simp [SettingKey.name] at h

/-- the value that one option is given is read for that option only -/
theorem Store.read_write_name (s : Store) (written key : SettingKey) (value : Json) :
    (s.write settingsNamespace written.name value).read settingsNamespace key.name =
      if written = key then some value else s.read settingsNamespace key.name := by
  have hname : Store.qualified settingsNamespace written.name = Store.qualified settingsNamespace key.name ↔
      written = key := by
    rw [Store.qualified_eq_iff settingsNamespace_dotFree key.name_dotFree]
    exact ⟨fun h => SettingKey.name_injective h.2, fun h => ⟨rfl, congrArg _ h⟩⟩
  rw [Store.read, Store.write, Table.get?_put]
  exact if_congr hname rfl rfl

end ScriptBridge
