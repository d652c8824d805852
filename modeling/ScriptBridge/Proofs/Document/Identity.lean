/-
Identities of files. The identity of an absolute path is its text behind a fixed start, with each backslash read as a
slash; so two absolute paths have one identity exactly if their texts differ in no more than that, and paths without
backslashes are told apart. A relative path is read as if it started at the root, so it has one identity with the
absolute path of that text.

- `ofPath_eq_iff`: when two absolute paths have one identity.
- `eq_of_ofPath_eq`: not when they differ and hold no backslash.
- `ofPath_eq_iff_rooted`: when any two paths have one identity.
- `rooted_injective`: not when their texts differ, neither holds a backslash, and both are absolute or both relative.
-/
import Mathlib.Data.List.Basic
import ScriptBridge.Document.Basic

namespace ScriptBridge.DocumentId

/-- the text of a path with its backslashes read as slashes -/
def slashed (p : Path) : List Char := p.text.toList.map fun c => if c = '\\' then '/' else c

theorem slashed_of_plain {p : Path} (h : '\\' ∉ p.text.toList) : slashed p = p.text.toList := by
  refine (List.map_congr_left fun c hc => ?_).trans (List.map_id _)
  exact if_neg (ne_of_mem_of_not_mem hc h)

theorem ofPath_of_absolute {p : Path} (h : p.isAbsolute = true) :
    ofPath p = ⟨"file://" ++ String.ofList (slashed p)⟩ := by
  have hhead : (slashed p).head? = some '/' := by
    rw [slashed, List.head?_map, eq_of_beq h]
    rfl
  exact congrArg mk (congrArg (· ++ _) (if_pos hhead))

/-- absolute paths have one identity exactly if they are the same once backslashes are read as slashes -/
theorem ofPath_eq_iff {p q : Path} (hp : p.isAbsolute = true) (hq : q.isAbsolute = true) :
    ofPath p = ofPath q ↔ slashed p = slashed q := by
  rw [ofPath_of_absolute hp, ofPath_of_absolute hq, mk.injEq]
  refine ⟨fun h => ?_, fun h => by rw [h]⟩
  simpa using congrArg String.toList h

/-- absolute paths without backslashes are told apart -/
theorem eq_of_ofPath_eq {p q : Path} (hp : p.isAbsolute = true) (hq : q.isAbsolute = true)
    (hplainP : '\\' ∉ p.text.toList) (hplainQ : '\\' ∉ q.text.toList) (h : ofPath p = ofPath q) : p = q := by
  rw [ofPath_eq_iff hp hq, slashed_of_plain hplainP, slashed_of_plain hplainQ] at h
  exact congrArg Path.mk (String.toList_injective h)

/-! ## Relative paths -/

/-- the text of a path with its backslashes read as slashes, and a slash in front of it if there is none -/
def rooted (p : Path) : List Char := if (slashed p).head? = some '/' then slashed p else '/' :: slashed p

theorem ofPath_eq_rooted (p : Path) : ofPath p = ⟨"file://" ++ String.ofList (rooted p)⟩ := by
  unfold rooted
  split
  · next h => exact congrArg mk (congrArg (· ++ _) (if_pos h))
  · next h =>
    have hstart : ofPath p = ⟨"file:///" ++ String.ofList (slashed p)⟩ := congrArg mk (congrArg (· ++ _) (if_neg h))
    rw [hstart, mk.injEq, String.ext_iff]
    simp

/-- **Paths have one identity exactly if their texts are the same** once backslashes are read as slashes and the text
starts with a slash -/
theorem ofPath_eq_iff_rooted (p q : Path) : ofPath p = ofPath q ↔ rooted p = rooted q := by
  rw [ofPath_eq_rooted, ofPath_eq_rooted, mk.injEq]
  refine ⟨fun h => ?_, fun h => by rw [h]⟩
  simpa using congrArg String.toList h

theorem rooted_of_plain {p : Path} (h : '\\' ∉ p.text.toList) :
    rooted p = if p.isAbsolute = true then p.text.toList else '/' :: p.text.toList := by
  simp only [rooted, slashed_of_plain h, Path.isAbsolute, beq_iff_eq]

/-- without backslashes, paths of one kind are told apart by their texts -/
theorem rooted_injective {p q : Path} (hp : '\\' ∉ p.text.toList) (hq : '\\' ∉ q.text.toList)
    (hkind : p.isAbsolute = q.isAbsolute) (h : rooted p = rooted q) : p = q := by
  rw [rooted_of_plain hp, rooted_of_plain hq, hkind] at h
  have htext : p.text.toList = q.text.toList := by
    split at h
    · exact h
    · exact (List.cons.inj h).2
  exact congrArg Path.mk (String.toList_injective htext)

end ScriptBridge.DocumentId
