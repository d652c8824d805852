/-
Components of paths that are put together and taken apart. A path is a text, and what it names is the list of its
components; the pieces of the text that name nothing can stand anywhere. Here the operations on texts are read on
components: a join appends components, and what is left of a path below a root has the components behind those of the
root.

- `named`: the components that pieces stand for; `named_dropWhile`, `named_dropSkippedEnd`: pieces that name nothing.
- `components_join`, `components_join_of_relative`: a relative path below an absolute one, and below a relative one.
- `pieces_child`: the pieces of a path with a name below it.
- `named_afterComponents`, `not_slash_afterComponents`: what is left when components are taken off the front.
- `relativeTo?_eq_some`, `relativeTo?_eq_none`: a path below a root, and any other.
-/
import Mathlib.Data.List.DropRight
import ScriptBridge.Path
import ScriptBridge.Proofs.Text.Pieces

namespace ScriptBridge.Path

open Text

/-! ## Pieces that name nothing -/

/-- the components that pieces of a path stand for -/
def named (ps : List (List Char)) : List Component := ps.filterMap ofPiece?

theorem named_append (ps qs : List (List Char)) : named (ps ++ qs) = named ps ++ named qs := List.filterMap_append

theorem ofPiece?_of_skipped {piece : List Char} (h : isSkipped piece = true) : ofPiece? piece = none := if_pos h

theorem ofPiece?_of_not_skipped {piece : List Char} (h : isSkipped piece = false) : ∃ c, ofPiece? piece = some c := by
  rw [ofPiece?, if_neg (by simp [h])]
  split
  · exact ⟨_, rfl⟩
  · exact ⟨_, rfl⟩

theorem named_of_skipped {ps : List (List Char)} (h : ∀ piece ∈ ps, isSkipped piece = true) : named ps = [] :=
  List.filterMap_eq_nil_iff.2 fun piece hpiece => ofPiece?_of_skipped (h piece hpiece)

theorem named_dropWhile (ps : List (List Char)) : named (ps.dropWhile isSkipped) = named ps := by
  have hsplit := List.takeWhile_append_dropWhile (p := isSkipped) (l := ps)
  have hskipped : named (ps.takeWhile isSkipped) = [] := named_of_skipped fun piece h => List.mem_takeWhile_imp h
  rw [← congrArg named hsplit, named_append, hskipped, List.nil_append]

theorem dropSkippedEnd_append (ps : List (List Char)) :
    dropSkippedEnd ps ++ ps.rtakeWhile isSkipped = ps := List.rdropWhile_append_rtakeWhile

theorem named_dropSkippedEnd (ps : List (List Char)) : named (dropSkippedEnd ps) = named ps := by
  have hskipped : named (ps.rtakeWhile isSkipped) = [] := named_of_skipped fun piece h => List.mem_rtakeWhile_imp h
  rw [← congrArg named (dropSkippedEnd_append ps), named_append, hskipped, List.append_nil]

/-- the first piece that counts is the first component -/
theorem named_drop_one (ps : List (List Char)) : named ((ps.dropWhile isSkipped).drop 1) = (named ps).drop 1 := by
  rw [← named_dropWhile ps]
  cases h : ps.dropWhile isSkipped with
  | nil => rfl
  | cons piece rest =>
    have hfirst := List.head?_dropWhile_not isSkipped ps
    rw [h] at hfirst
    obtain ⟨c, hc⟩ := ofPiece?_of_not_skipped (by simpa using hfirst)
    have hcons : named (piece :: rest) = c :: named rest := List.filterMap_cons_some hc
    rw [hcons]
    rfl

/-- the text of some pieces names what they do, also if there are none -/
theorem named_splitOn_joinWith (ps : List (List Char)) (h : ∀ piece ∈ ps, '/' ∉ piece) :
    named (splitOn '/' (joinWith '/' ps)) = named ps := by
  by_cases hne : ps = []
  · subst hne
    rfl
  · rw [splitOn_joinWith _ _ hne, (flatMap_splitOn_eq_self '/' ps).2 h]

/-! ## Components of a text -/

theorem components_of_absolute {p : Path} (h : p.isAbsolute = true) : p.components = .root :: named p.pieces := if_pos h

theorem text_of_absolute {p : Path} (h : p.isAbsolute = true) : ∃ rest, p.text.toList = '/' :: rest := by
  cases htext : p.text.toList with
  | nil => simp [isAbsolute, htext] at h
  | cons c rest =>
    obtain rfl : c = '/' := by simpa [isAbsolute, htext] using h
    exact ⟨rest, rfl⟩

/-- behind the slash that an absolute path starts with, its text is its pieces -/
theorem components_of_text {p : Path} {rest : List Char} (h : p.text.toList = '/' :: rest) :
    p.components = .root :: named (splitOn '/' rest) := by
  have habsolute : p.isAbsolute = true := by simp [isAbsolute, h]
  rw [components_of_absolute habsolute, pieces, if_pos habsolute, h]
  rfl

theorem pieces_of_relative {p : Path} (h : p.isAbsolute = false) : p.pieces = splitOn '/' p.text.toList := by
  rw [pieces, if_neg (by simp [h])]

/-- a slash at the end of a text names nothing -/
theorem named_splitOn_slash (text : List Char) : named (splitOn '/' (text ++ ['/'])) = named (splitOn '/' text) := by
  have hempty : named (splitOn '/' []) = [] := rfl
  rw [splitOn_append_mark, named_append, hempty, List.append_nil]

/-- a join is the text of the path, a slash unless there is one at its end, and the other text -/
theorem text_join {p m : Path} {rest : List Char} (hp : p.text.toList = '/' :: rest) (hm : m.isAbsolute = false) :
    ∃ more, (p.join m).text.toList = '/' :: more ∧
      named (splitOn '/' more) = named (splitOn '/' rest) ++ named (splitOn '/' m.text.toList) := by
  rw [join, if_neg (by simp [hm]), hp]
  by_cases hlast : ('/' :: rest).getLast? = some '/'
  · refine ⟨rest ++ m.text.toList, by simp [hlast, hp], ?_⟩
    rcases List.eq_nil_or_concat rest with rfl | ⟨front, last, rfl⟩
    · rfl
    · obtain rfl : last = '/' := by simpa [List.getLast?_cons, List.getLast?_append] using hlast
      rw [List.concat_eq_append, named_splitOn_slash, List.append_assoc, List.singleton_append, splitOn_append_mark,
        named_append]
  · refine ⟨rest ++ '/' :: m.text.toList, by simp [hlast, hp], ?_⟩
    rw [splitOn_append_mark, named_append]

/-- **A relative path below an absolute one names the components of both** -/
theorem components_join {p m : Path} (hp : p.isAbsolute = true) (hm : m.isAbsolute = false) :
    (p.join m).components = p.components ++ named m.pieces := by
  obtain ⟨rest, htext⟩ := text_of_absolute hp
  obtain ⟨more, hmore, hnamed⟩ := text_join htext hm
  rw [components_of_text hmore, components_of_text htext, pieces_of_relative hm, hnamed]
  rfl

/-- the components of a relative path: a `.` counts only where it stands first -/
theorem components_of_relative {p : Path} (h : p.isAbsolute = false) :
    p.components = (if p.pieces.head? = some ['.'] then [.current] else []) ++ named p.pieces := by
  rw [components, if_neg (by simp [h])]
  split
  · rfl
  · rfl

/-- a relative path in front of a slash decides how the whole starts -/
theorem components_of_front {p q : Path} {more : List Char} (hp : p.isAbsolute = false) (hne : p.text ≠ "")
    (hq : q.text.toList = p.text.toList ++ '/' :: more) :
    q.components = p.components ++ named (splitOn '/' more) := by
  have htext : p.text.toList ≠ [] := by simpa using hne
  have hrelative : q.isAbsolute = false := by
    rw [isAbsolute, hq, List.head?_append_of_ne_nil _ htext]
    exact hp
  have hhead : (splitOn '/' p.text.toList ++ splitOn '/' more).head? = (splitOn '/' p.text.toList).head? :=
    List.head?_append_of_ne_nil _ (splitOn_ne_nil '/' _)
  rw [components_of_relative hrelative, components_of_relative hp, pieces_of_relative hrelative,
    pieces_of_relative hp, hq, splitOn_append_mark, hhead, named_append, List.append_assoc]

/-- **A relative path below a relative one names the components of both** -/
theorem components_join_of_relative {p m : Path} (hp : p.isAbsolute = false) (hne : p.text ≠ "")
    (hm : m.isAbsolute = false) : (p.join m).components = p.components ++ named m.pieces := by
  have htext : p.text.toList ≠ [] := by simpa using hne
  rw [join, if_neg (by simp [hm]), pieces_of_relative hm]
  by_cases hlast : p.text.toList.getLast? = some '/'
  · -- what stands in front of the slash at the end has the components of the path
    obtain ⟨front, hfront⟩ := List.getLast?_eq_some_iff.1 hlast
    have hfrontNe : front ≠ [] := by
      rintro rfl
      simp [isAbsolute, hfront] at hp
    have hrelative : (Path.mk (String.ofList front)).isAbsolute = false := by
      rw [isAbsolute, hfront, List.head?_append_of_ne_nil _ hfrontNe] at hp
      rwa [isAbsolute, String.toList_ofList]
    have hnonempty : (Path.mk (String.ofList front)).text ≠ "" := by simpa using hfrontNe
    have hsame : p.components = (Path.mk (String.ofList front)).components := by
      rw [components_of_front hrelative hnonempty (by simpa using hfront)]
      exact List.append_nil _
    have hjoin : (Path.mk (p.text ++ m.text)).text.toList =
        (Path.mk (String.ofList front)).text.toList ++ '/' :: m.text.toList := by simp [hfront]
    rw [if_pos (by simp [hlast]), hsame]
    exact components_of_front hrelative hnonempty hjoin
  · rw [if_neg (by simp [hlast, htext])]
    exact components_of_front hp hne (by simp)

/-! ## Names below a path -/

/-- what stands behind the slash that an absolute path starts with, or the whole text of a relative one -/
def body (p : Path) : List Char := if p.isAbsolute then p.text.toList.drop 1 else p.text.toList

theorem pieces_eq (p : Path) : p.pieces = splitOn '/' p.body := rfl

theorem isAbsolute_of_slash_free {name : String} (h : '/' ∉ name.toList) : (Path.mk name).isAbsolute = false := by
  rw [isAbsolute, beq_eq_false_iff_ne]
  intro hfirst
  exact h (List.mem_of_head? hfirst)

/-- a path that ends with a slash is a single slash, or its body ends with the slash too -/
theorem body_of_slash {p : Path} (h : p.text.toList.getLast? = some '/') :
    p.body = [] ∨ ∃ front, p.body = front ++ ['/'] := by
  obtain ⟨front, hfront⟩ := List.getLast?_eq_some_iff.1 h
  rw [body, hfront]
  split
  · cases front with
    | nil => exact Or.inl rfl
    | cons c rest => exact Or.inr ⟨rest, rfl⟩
  · exact Or.inr ⟨front, rfl⟩

theorem text_child {p : Path} (hp : p.text ≠ "") {name : String} (hname : '/' ∉ name.toList) :
    (p.child name).text.toList = p.text.toList ++
      if p.text.toList.getLast? = some '/' then name.toList else '/' :: name.toList := by
  have htext : p.text.toList ≠ [] := by simpa using hp
  rw [child, join, if_neg (by simp [isAbsolute_of_slash_free hname])]
  by_cases hlast : p.text.toList.getLast? = some '/'
  · simp [hlast]
  · simp [hlast, htext]

/-- the pieces of a path with a name below it: a slash at the end of the path counts as the one in front of the name -/
theorem pieces_child {p : Path} (hp : p.text ≠ "") {name : String} (hname : '/' ∉ name.toList) :
    (p.child name).isAbsolute = p.isAbsolute ∧ ((p.child name).pieces = p.pieces ++ [name.toList] ∨
      ∃ front, p.pieces = front ++ [[]] ∧ (p.child name).pieces = front ++ [name.toList]) := by
  have htext : p.text.toList ≠ [] := by simpa using hp
  have hpiece : splitOn '/' name.toList = [name.toList] := splitOn_of_free '/' _ hname
  have habsolute : (p.child name).isAbsolute = p.isAbsolute := by
    rw [isAbsolute, text_child hp hname, List.head?_append_of_ne_nil _ htext]
    rfl
  have hbody : (p.child name).body = p.body ++
      if p.text.toList.getLast? = some '/' then name.toList else '/' :: name.toList := by
    rw [body, habsolute, text_child hp hname, body]
    split
    · exact List.drop_append_of_le_length (List.length_pos_of_ne_nil htext)
    · rfl
  refine ⟨habsolute, ?_⟩
  rw [pieces_eq, pieces_eq, hbody]
  by_cases hlast : p.text.toList.getLast? = some '/'
  · right
    rw [if_pos hlast]
    obtain hempty | ⟨front, hfront⟩ := body_of_slash hlast
    · exact ⟨[], by rw [hempty]; rfl, by rw [hempty]; exact hpiece⟩
    · refine ⟨splitOn '/' front, ?_, ?_⟩
      · rw [hfront, splitOn_append_mark]
        rfl
      · rw [hfront, List.append_assoc, List.singleton_append, splitOn_append_mark, hpiece]
  · left
    rw [if_neg hlast, splitOn_append_mark, hpiece]

/-! ## Below a root -/

theorem named_afterComponents (n : Nat) (ps : List (List Char)) (h : ∀ piece ∈ ps, '/' ∉ piece) :
    named (splitOn '/' (afterComponents n ps)) = (named ps).drop n := by
  have hdrop : ∀ piece ∈ ps.dropWhile isSkipped, '/' ∉ piece := fun piece hpiece =>
    h piece ((List.dropWhile_suffix _).subset hpiece)
  induction n generalizing ps with
  | zero =>
    have hfree : ∀ piece ∈ dropSkippedEnd (ps.dropWhile isSkipped), '/' ∉ piece := fun piece hpiece =>
      hdrop piece ((List.rdropWhile_prefix _ _).subset hpiece)
    rw [afterComponents, named_splitOn_joinWith _ hfree, named_dropSkippedEnd, named_dropWhile]
    rfl
  | succ n ih =>
    have hrest : ∀ piece ∈ (ps.dropWhile isSkipped).drop 1, '/' ∉ piece := fun piece hpiece =>
      hdrop piece (List.mem_of_mem_drop hpiece)
    rw [afterComponents, ih _ hrest fun piece hpiece => hrest piece ((List.dropWhile_suffix _).subset hpiece),
      named_drop_one, List.drop_drop, Nat.add_comm]

/-- what is left starts with a piece that counts, so never with a slash -/
theorem not_slash_afterComponents (n : Nat) (ps : List (List Char)) (h : ∀ piece ∈ ps, '/' ∉ piece) :
    (afterComponents n ps).head? ≠ some '/' := by
  induction n generalizing ps with
  | zero =>
    rw [afterComponents]
    have hkept := dropSkippedEnd_append (ps.dropWhile isSkipped)
    cases hfirst : dropSkippedEnd (ps.dropWhile isSkipped) with
    | nil => simp [joinWith]
    | cons piece rest =>
      rw [hfirst] at hkept
      have hmem : piece ∈ ps := (List.dropWhile_suffix isSkipped).subset (by rw [← hkept]; simp)
      have hcounts := List.head?_dropWhile_not isSkipped ps
      rw [← hkept] at hcounts
      cases piece with
      | nil => simp [isSkipped] at hcounts
      | cons c piece =>
        have hc : c ≠ '/' := fun hc => h _ hmem (by simp [hc])
        cases rest <;> simpa [joinWith] using hc
  | succ n ih =>
    exact ih _ fun piece hpiece => h piece ((List.dropWhile_suffix _).subset (List.mem_of_mem_drop hpiece))

/-- **What is left of a path below a root is a relative path with the remaining components** -/
theorem relativeTo?_eq_some {root p : Path} {rest : String} (hroot : root.isAbsolute = true)
    (hp : p.isAbsolute = true) (h : root.relativeTo? p = some rest) :
    (Path.mk rest).isAbsolute = false ∧ p.components = root.components ++ named (Path.mk rest).pieces := by
  have hfree : ∀ piece ∈ p.pieces, '/' ∉ piece := splitOn_free '/' _
  rw [relativeTo?, components_of_absolute hroot, components_of_absolute hp] at h
  split at h
  · next hprefix =>
    cases h
    have hstart := not_slash_afterComponents (named root.pieces).length p.pieces hfree
    have hrest := named_afterComponents (named root.pieces).length p.pieces hfree
    generalize afterComponents (named root.pieces).length p.pieces = text at hstart hrest
    have hrelative : (Path.mk (String.ofList text)).isAbsolute = false := by simpa [isAbsolute] using hstart
    obtain ⟨more, hmore⟩ := List.isPrefixOf_iff_prefix.1 hprefix
    have hnamed : named p.pieces = named root.pieces ++ more := (List.cons.inj hmore).2.symm
    refine ⟨hrelative, ?_⟩
    rw [components_of_absolute hroot, components_of_absolute hp, pieces_of_relative hrelative, String.toList_ofList,
      hrest, hnamed, List.drop_left]
    rfl
  · cases h

/-- a path is outside a root exactly if it does not start with the components of the root -/
theorem relativeTo?_eq_none {root p : Path} (hroot : root.isAbsolute = true) :
    root.relativeTo? p = none ↔ ¬ root.components <+: p.components := by
  rw [relativeTo?, ← List.isPrefixOf_iff_prefix, components_of_absolute hroot]
  split
  · next h => simp [h]
  · next h => simp [h]

end ScriptBridge.Path
