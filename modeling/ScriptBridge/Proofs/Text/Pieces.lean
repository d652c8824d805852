/-
Texts cut at a mark. The pieces hold no mark, and there is one more of them than there are marks. Texts put together with
a mark between them are cut into the pieces of each; so they are read back unchanged exactly if none of them holds the
mark.

- `splitOn_free`, `length_splitOn`: the pieces of a text; `splitOn_last`: the last of them.
- `splitOn_append_mark`, `splitOn_joinWith`: cutting what was put together.
- `flatMap_splitOn_eq_self`: when that gives the parts back.
- `cuts_of_append`: two cuts of one text at a mark.
-/
import ScriptBridge.Text.Lines

namespace ScriptBridge.Text

theorem splitOn_free (mark : Char) (text : List Char) : ∀ piece ∈ splitOn mark text, mark ∉ piece := by
  induction text with
  | nil => simp [splitOn]
  | cons c rest ih =>
    have hne := splitOn_ne_nil mark rest
    simp only [splitOn]
    split
    · simpa using ih
    · next hc =>
      cases hs : splitOn mark rest with
      | nil => exact absurd hs hne
      | cons piece more =>
        rw [hs] at ih
        simp only [List.forall_mem_cons] at ih ⊢
        exact ⟨by simp [Ne.symm hc, ih.1], ih.2⟩

theorem length_splitOn (mark : Char) (text : List Char) : (splitOn mark text).length = text.count mark + 1 := by
  induction text with
  | nil => rfl
  | cons c rest ih =>
    simp only [splitOn]
    split
    · next hc => simp [hc, ih]
    · next hc =>
      cases hs : splitOn mark rest with
      | nil => exact absurd hs (splitOn_ne_nil mark rest)
      | cons piece more =>
        rw [hs] at ih
        simpa [List.count_cons, hc] using ih

theorem splitOn_of_free (mark : Char) (text : List Char) (h : mark ∉ text) : splitOn mark text = [text] := by
  induction text with
  | nil => rfl
  | cons c rest ih =>
    simp only [List.mem_cons, not_or] at h
    simp [splitOn, Ne.symm h.1, ih h.2]

/-- a mark between two texts keeps their pieces apart -/
theorem splitOn_append_mark (mark : Char) (a b : List Char) :
    splitOn mark (a ++ mark :: b) = splitOn mark a ++ splitOn mark b := by
  induction a with
  | nil => simp [splitOn]
  | cons c a ih =>
    simp only [List.cons_append, splitOn, ih]
    split
    · rfl
    · cases hs : splitOn mark a with
      | nil => exact absurd hs (splitOn_ne_nil mark a)
      | cons piece more => rfl

theorem splitOn_append (mark : Char) (a b : List Char) (h : mark ∉ a) :
    splitOn mark (a ++ mark :: b) = a :: splitOn mark b := by
  rw [splitOn_append_mark, splitOn_of_free mark a h]
  rfl

/-- the last piece of a text, and what becomes of it when the text goes on without the mark -/
theorem splitOn_last (mark : Char) (text : List Char) : ∃ init last, splitOn mark text = init ++ [last] ∧
    last <:+ text ∧ ∀ more, mark ∉ more → splitOn mark (text ++ more) = init ++ [last ++ more] := by
  induction text with
  | nil => exact ⟨[], [], rfl, List.suffix_refl _, fun more h => splitOn_of_free mark more h⟩
  | cons c rest ih =>
    obtain ⟨init, last, hsplit, hsuffix, hmore⟩ := ih
    have hsuffix : last <:+ c :: rest := hsuffix.trans (List.suffix_cons c rest)
    by_cases hc : c = mark
    · refine ⟨[] :: init, last, by simp [splitOn, hc, hsplit], hsuffix, fun more h => ?_⟩
      simp [splitOn, hc, hmore more h]
    · -- the character goes to the first piece, which is the last one if there is no mark
      cases init with
      | nil =>
        refine ⟨[], c :: last, by simp [splitOn, hc, hsplit], ?_, fun more h => ?_⟩
        · have hrest : rest = last := by rw [← join_splitOn mark rest, hsplit]; rfl
          exact hrest ▸ List.suffix_refl _
        · simp [splitOn, hc, hmore more h]
      | cons first init =>
        refine ⟨(c :: first) :: init, last, by simp [splitOn, hc, hsplit], hsuffix, fun more h => ?_⟩
        simp [splitOn, hc, hmore more h]

/-- texts with a mark between them are cut into the pieces of each -/
theorem splitOn_joinWith (mark : Char) (texts : List (List Char)) (hne : texts ≠ []) :
    splitOn mark (joinWith mark texts) = texts.flatMap (splitOn mark) := by
  induction texts with
  | nil => exact absurd rfl hne
  | cons text more ih =>
    cases more with
    | nil => simp [joinWith]
    | cons second more =>
      have hjoin : joinWith mark (text :: second :: more) = text ++ mark :: joinWith mark (second :: more) := rfl
      rw [hjoin, splitOn_append_mark, ih (List.cons_ne_nil _ _)]
      rfl

/-- the last of some texts stands behind a mark -/
theorem joinWith_concat (mark : Char) {texts : List (List Char)} (hne : texts ≠ []) (last : List Char) :
    joinWith mark (texts ++ [last]) = joinWith mark texts ++ mark :: last := by
  induction texts with
  | nil => exact absurd rfl hne
  | cons text rest ih =>
    cases rest with
    | nil => rfl
    | cons second rest =>
      have hstep : ∀ more : List (List Char), joinWith mark (text :: second :: more) =
          text ++ mark :: joinWith mark (second :: more) := fun _ => rfl
      rw [List.cons_append, List.cons_append, hstep, hstep, ← List.cons_append, ih (List.cons_ne_nil _ _),
        List.append_assoc]
      rfl

/-- cutting each of some texts leaves them exactly if none holds the mark -/
theorem flatMap_splitOn_eq_self (mark : Char) (texts : List (List Char)) :
    texts.flatMap (splitOn mark) = texts ↔ ∀ text ∈ texts, mark ∉ text := by
  constructor
  · intro h text ht
    rw [← h] at ht
    obtain ⟨whole, -, hpiece⟩ := List.mem_flatMap.1 ht
    exact splitOn_free mark whole text hpiece
  · intro h
    induction texts with
    | nil => rfl
    | cons text more ih =>
      obtain ⟨hfree, hmore⟩ := List.forall_mem_cons.1 h
      rw [List.flatMap_cons, splitOn_of_free mark text hfree, ih hmore]
      rfl

/-- two cuts of one text at a mark are the same, or one is made behind the other -/
theorem cuts_of_append {mark : Char} {p q a b : List Char} (h : p ++ mark :: q = a ++ mark :: b) :
    (a = p ∧ b = q) ∨ (∃ m, a = p ++ mark :: m ∧ q = m ++ mark :: b) ∨
      ∃ m, p = a ++ mark :: m ∧ b = m ++ mark :: q := by
  rcases List.append_eq_append_iff.1 h with ⟨m, rfl, hm⟩ | ⟨m, rfl, hm⟩
  · cases m with
    | nil =>
      cases hm
      exact .inl ⟨List.append_nil _, rfl⟩
    | cons c m =>
      cases hm
      exact .inr (.inl ⟨m, rfl, rfl⟩)
  · cases m with
    | nil =>
      cases hm
      exact .inl ⟨(List.append_nil _).symm, rfl⟩
    | cons c m =>
      cases hm
      exact .inr (.inr ⟨m, rfl, rfl⟩)

end ScriptBridge.Text
