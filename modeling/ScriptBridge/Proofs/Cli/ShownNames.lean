/-
Names under which paths are shown. A path below the root of a run is shown without the root, any other as it is. Input
of the commands is read below that same root, so what was shown can be given back.

- `join_shownName`: the name of a path, read below the root, is that path.
- `shownName_leads_back`: hence different paths have different names; which names are relative.
-/
import ScriptBridge.Cli.Commands
import ScriptBridge.Proofs.Path

namespace ScriptBridge.Cli

theorem shownName_below {root q : Path} {rest : String} (h : root.relativeTo? q = some rest) :
    shownName root q = rest := by
  rw [shownName, h, Option.getD_some]

theorem shownName_outside {root q : Path} (h : root.relativeTo? q = none) : shownName root q = q.text := by
  rw [shownName, h, Option.getD_none]

/-- the name of a path, read below the root, is the path again -/
theorem join_shownName {root q : Path} (hroot : root.isAbsolute = true) (hq : q.isAbsolute = true) :
    (root.join ⟨shownName root q⟩).components = q.components := by
  cases h : root.relativeTo? q with
  | none =>
    have hjoin : root.join q = q := if_pos hq
    rw [shownName_outside h, hjoin]
  | some rest =>
    obtain ⟨hrelative, hcomponents⟩ := Path.relativeTo?_eq_some hroot hq h
    rw [shownName_below h, Path.components_join hroot hrelative, hcomponents]

/-- **A shown name leads back to its path.** For every absolute root and every absolute path, however they are spelled:
the name of the path, read below the root, is equal to it as a path, so no other path is shown under this name. The name
is relative exactly if the path is the root or lies below it; any other path is shown as it was written. -/
theorem shownName_leads_back (root q : Path) (hroot : root.isAbsolute = true) (hq : q.isAbsolute = true) :
    (root.join ⟨shownName root q⟩).components = q.components ∧
    (∀ other : Path, other.isAbsolute = true → shownName root other = shownName root q →
      other.components = q.components) ∧
    ((Path.mk (shownName root q)).isAbsolute = false ↔ root.components <+: q.components) ∧
    (¬ root.components <+: q.components → shownName root q = q.text) := by
  have hback := join_shownName hroot hq
  refine ⟨hback, fun other hother hname => ?_, ?_, fun houtside => ?_⟩
  · rw [← join_shownName hroot hother, hname, hback]
  · cases h : root.relativeTo? q with
    | none =>
      have houtside := (Path.relativeTo?_eq_none hroot).1 h
      have habsolute : (Path.mk q.text).isAbsolute = true := hq
      rw [shownName_outside h, habsolute]
      exact iff_of_false (by decide) houtside
    | some rest =>
      obtain ⟨hrelative, hcomponents⟩ := Path.relativeTo?_eq_some hroot hq h
      rw [shownName_below h, hcomponents]
      exact iff_of_true hrelative (List.prefix_append _ _)
  · exact shownName_outside ((Path.relativeTo?_eq_none hroot).2 houtside)

/-- with slashes and dots that name nothing in both, and a step up behind the root -/
theorem shownName_leads_back_dots :
    let root : Path := ⟨"/p/./x/"⟩
    let q : Path := ⟨"//p//x/./../y/./z/"⟩
    root.isAbsolute = true ∧ q.isAbsolute = true ∧ shownName root q = "../y/./z" ∧
    (root.join ⟨shownName root q⟩).components = q.components ∧
    (∀ other : Path, other.isAbsolute = true → shownName root other = shownName root q →
      other.components = q.components) ∧
    ((Path.mk (shownName root q)).isAbsolute = false ↔ root.components <+: q.components) ∧
    (¬ root.components <+: q.components → shownName root q = q.text) :=
  ⟨by decide, by decide, by decide, shownName_leads_back _ _ (by decide) (by decide)⟩

end ScriptBridge.Cli
