/-
The rules that a setting lists. However the setting is written, every rule is trimmed and not empty, and none stands
twice. A string is cut at its commas, so its rules hold none; the strings of an array are taken whole.

- `mem_keepFirst`, `nodup_keepFirst`: what is kept of a list, and that it is kept once.
- `mem_readRules`, `nodup_readRules`: the rules of a setting.
- `free_readRules`: no rule holds a comma exactly if no string of an array does.
-/
import Mathlib.Data.List.Nodup
import ScriptBridge.Proofs.Text.Pieces
import ScriptBridge.Settings.Resolve

namespace ScriptBridge

open Text

/-! ## Trimming -/

namespace Text

theorem mem_dropWhile (p : Char → Bool) (c : Char) (hc : p c = false) (text : List Char) :
    c ∈ text.dropWhile p ↔ c ∈ text := by
  induction text with
  | nil => rfl
  | cons first rest ih =>
    rw [List.dropWhile_cons]
    split
    · next hfirst =>
      have hne : c ≠ first := by
        rintro rfl
        rw [hc] at hfirst
        cases hfirst
      rw [ih, List.mem_cons, or_iff_right hne]
    · rfl

/-- trimming takes nothing but blanks -/
theorem mem_trim (c : Char) (hc : isBlank c = false) (text : List Char) : c ∈ trim text ↔ c ∈ text := by
  rw [trim, trimEnd, List.mem_reverse, mem_dropWhile isBlank c hc, List.mem_reverse, mem_dropWhile isBlank c hc]

end Text

/-! ## Keeping the first of each -/

theorem mem_keepFirst (kept items : List (List Char)) (x : List Char) :
    x ∈ keepFirst kept items ↔ x ∈ kept ∨ x ∈ items := by
  induction items generalizing kept with
  | nil => simp [keepFirst]
  | cons item rest ih =>
    rw [keepFirst, List.mem_cons]
    split
    · next hitem =>
      rw [ih]
      constructor
      · rintro (hx | hx)
        · exact Or.inl hx
        · exact Or.inr (Or.inr hx)
      · rintro (hx | rfl | hx)
        · exact Or.inl hx
        · exact Or.inl hitem
        · exact Or.inr hx
    · rw [ih, List.mem_append, List.mem_singleton, or_assoc]

theorem nodup_keepFirst (kept items : List (List Char)) (h : kept.Nodup) : (keepFirst kept items).Nodup := by
  induction items generalizing kept with
  | nil => exact h
  | cons item rest ih =>
    rw [keepFirst]
    split
    · exact ih kept h
    · next hitem =>
      have hnext : (kept ++ [item]).Nodup := List.concat_eq_append ▸ h.concat hitem
      exact ih _ hnext

/-! ## The rules of a setting -/

/-- a rule of a setting is what trimming leaves of something it lists -/
theorem mem_readRules (value : Option Json) (rule : String) :
    rule ∈ readRules value ↔ rule ≠ "" ∧ ∃ raw ∈ rawRules value, trim raw = rule.toList := by
  simp only [readRules, List.mem_map, mem_keepFirst, List.not_mem_nil, false_or, List.mem_filter]
  constructor
  · rintro ⟨_, ⟨⟨raw, hraw, rfl⟩, hne⟩, rfl⟩
    exact ⟨by simpa using hne, raw, hraw, by simp⟩
  · rintro ⟨hne, raw, hraw, hrule⟩
    exact ⟨rule.toList, ⟨⟨raw, hraw, hrule⟩, by simpa using hne⟩, by simp⟩

theorem nodup_readRules (value : Option Json) : (readRules value).Nodup :=
  (nodup_keepFirst [] _ List.nodup_nil).map fun _ _ h => String.ofList_injective h

/-- no string of the array that a setting is holds a comma; a setting that is no array meets this -/
def NoCommaInArray (value : Option Json) : Prop :=
  ∀ items, value = some (.array items) → ∀ s, Json.string s ∈ items → ',' ∉ s.toList

theorem free_rawRules (value : Option Json) :
    (∀ raw ∈ rawRules value, ',' ∉ raw) ↔ NoCommaInArray value := by
  unfold NoCommaInArray
  constructor
  · rintro h items rfl s hs
    exact h s.toList (List.mem_map.2 ⟨s, List.mem_filterMap.2 ⟨.string s, hs, rfl⟩, rfl⟩)
  · intro h raw hraw
    match value, hraw with
    | some (.string s), hraw => exact splitOn_free ',' s.toList raw hraw
    | some (.array items), hraw =>
      obtain ⟨s, hs, rfl⟩ := List.mem_map.1 hraw
      obtain ⟨item, hitem, hstring⟩ := List.mem_filterMap.1 hs
      cases item with
      | string t =>
        cases hstring
        exact h items rfl s hitem
      | _ => cases hstring

/-- **Rules and commas.** No rule of a setting holds a comma exactly if no string of an array under it does. -/
theorem free_readRules (value : Option Json) :
    (∀ rule ∈ readRules value, ',' ∉ rule.toList) ↔ NoCommaInArray value := by
  have hcomma : isBlank ',' = false := rfl
  rw [← free_rawRules]
  constructor
  · intro h raw hraw hmem
    have htrimmed : ',' ∈ trim raw := (mem_trim ',' hcomma raw).2 hmem
    -- a text with a comma does not vanish when it is trimmed, so it is one of the rules
    have hne : String.ofList (trim raw) ≠ "" := by
      intro hempty
      rw [String.ofList_eq_empty_iff.1 hempty] at htrimmed
      cases htrimmed
    refine h (String.ofList (trim raw)) ((mem_readRules value _).2 ⟨hne, raw, hraw, by simp⟩) ?_
    simpa using htrimmed
  · intro h rule hrule hmem
    obtain ⟨-, raw, hraw, htrim⟩ := (mem_readRules value rule).1 hrule
    rw [← htrim, mem_trim ',' hcomma] at hmem
    exact h raw hraw hmem

end ScriptBridge
