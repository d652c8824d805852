/-
The scripts of a lint as a set. What is below a folder is reached through the names of entries, one folder after the
other; a walk through the folders finds just the files that are reached so, with the extension of scripts and no hidden
name on the way. Which paths are collected is a matter of the set of inputs then, not of their order or number, and an
input that is itself found below another one adds nothing.

- `isScript_iff`: what it means to have the extension of scripts.
- `Node.Holds`: what lies in a node, with the names that lead there.
- `mem_among`, `mem_below`: the walk through the folders, one folder at a time and as a whole.
- `StandsFor`, `mem_scriptsOf`: what one input stands for.
- `node_under`: the path of what lies below leads there.
- `Inside`, `standsFor_of_inside`: inputs below other inputs.
- `collect_exact`: what is collected, in which order, and what it depends on.
-/
import Mathlib.Data.List.Basic
import ScriptBridge.Proofs.Files.ScriptOrder
import ScriptBridge.Proofs.Files.Walks
import ScriptBridge.Proofs.Path
import ScriptBridge.Proofs.Table

namespace ScriptBridge

open Text

/-! ## Trees -/

/-- a node lies in another one, below the names of some entries -/
inductive Node.Holds : Node → List String → Node → Prop
  | here {n : Node} : Node.Holds n [] n
  | inside {entries : List (String × Node)} {name : String} {child : Node} {names : List String} {m : Node} :
      (name, child) ∈ entries → Node.Holds child names m → Node.Holds (.folder entries) (name :: names) m

namespace Node

theorem Holds.trans {a b c : Node} {names more : List String} (hab : a.Holds names b) (hbc : b.Holds more c) :
    a.Holds (names ++ more) c := by
  induction hab with
  | here => exact hbc
  | inside hentry _ ih => exact .inside hentry (ih hbc)

theorem holds_of_at? {n m : Node} {names : List String} (h : n.at? names = some m) : n.Holds names m := by
  induction names generalizing n with
  | nil =>
    cases h
    exact .here
  | cons name rest ih =>
    obtain ⟨child, hchild, hrest⟩ := Option.bind_eq_some_iff.1 h
    obtain ⟨entries, rfl⟩ := child?_isFolder hchild
    exact .inside (Table.mem_of_find? hchild) (ih hrest)

theorem exists_of_isFolder {n : Node} (h : n.isFolder = true) : ∃ entries, n = .folder entries := by
  cases n with
  | folder entries => exact ⟨entries, rfl⟩
  | _ => cases h

/-- only a folder holds something else than itself -/
theorem Holds.eq_of_not_folder {n m : Node} {names : List String} (h : n.Holds names m) (hn : n.isFolder = false) :
    names = [] ∧ m = n := by
  cases h with
  | here => exact ⟨rfl, rfl⟩
  | inside => cases hn

end Node

namespace ScriptSet

/-! ## The extension of scripts -/

/-- pieces with nothing before the last one but an empty piece make up a text without a stem -/
theorem joinWith_reverse_ne_nil {mark : Char} {before : List Char} {more : List (List Char)}
    (h : ¬ (more = [] ∧ before = [])) : joinWith mark (before :: more).reverse ≠ [] := by
  intro hnil
  rw [List.reverse_cons] at hnil
  by_cases hmore : more = []
  · subst hmore
    exact h ⟨rfl, hnil⟩
  · rw [joinWith_concat mark (by simpa using hmore)] at hnil
    simp at hnil

/-- a path whose file name is something and `.gd` behind it -/
def Script (p : Path) : Prop := ∃ stem, stem ≠ [] ∧ p.fileName? = some (stem ++ ['.', 'g', 'd'])

theorem isScript_iff (p : Path) : isScript p = true ↔ Script p := by
  rw [isScript, Path.extension?, beq_iff_eq, Option.bind_eq_some_iff, Script]
  constructor
  · rintro ⟨name, hname, hext⟩
    split at hext
    · next last before more hpieces =>
      split at hext
      · cases hext
      · next hstem =>
        cases hext
        have hjoin := join_splitOn '.' name
        rw [← List.reverse_reverse (splitOn '.' name), hpieces, List.reverse_cons,
          joinWith_concat '.' (by simp)] at hjoin
        exact ⟨_, joinWith_reverse_ne_nil hstem, hname.trans (congrArg some hjoin.symm)⟩
    · cases hext
  · rintro ⟨stem, hne, hname⟩
    refine ⟨_, hname, ?_⟩
    have hgd : splitOn '.' ['g', 'd'] = [['g', 'd']] := rfl
    rw [splitOn_append_mark, hgd, List.reverse_append]
    cases hpieces : (splitOn '.' stem).reverse with
    | nil => exact absurd (List.reverse_eq_nil_iff.1 hpieces) (splitOn_ne_nil '.' stem)
    | cons before more =>
      refine if_neg ?_
      rintro ⟨rfl, rfl⟩
      have hjoin := join_splitOn '.' stem
      rw [← List.reverse_reverse (splitOn '.' stem), hpieces] at hjoin
      exact hne hjoin.symm

/-! ## Walks through folders -/

/-- the path of what lies below some names -/
def under (p : Path) (names : List String) : Path := names.foldl Path.child p

theorem under_append (p : Path) (names more : List String) : under p (names ++ more) = under (under p names) more :=
  List.foldl_append

/-- a script that lies in a node without a hidden name on the way; links on the way are not followed -/
def ScriptBelow (p : Path) (n : Node) (q : Path) : Prop :=
  ∃ names content executable, n.Holds names (.file content executable) ∧
    (∀ name ∈ names, isHidden name = false) ∧ q = under p names ∧ Script q

variable {p q : Path}

theorem scriptBelow_file (content : List UInt8) (executable : Bool) :
    ScriptBelow p (.file content executable) q ↔ q = p ∧ Script q := by
  constructor
  · rintro ⟨names, _, _, hholds, -, rfl, hscript⟩
    obtain ⟨rfl, -⟩ := hholds.eq_of_not_folder rfl
    exact ⟨rfl, hscript⟩
  · rintro ⟨rfl, hscript⟩
    exact ⟨[], content, executable, .here, nofun, rfl, hscript⟩

theorem not_scriptBelow {n : Node} (hfolder : n.isFolder = false) (hfile : n.content? = none) :
    ¬ ScriptBelow p n q := by
  rintro ⟨names, content, executable, hholds, -⟩
  obtain ⟨-, rfl⟩ := hholds.eq_of_not_folder hfolder
  cases hfile

/-- below a folder is what is below its entries -/
theorem scriptBelow_folder (entries : List (String × Node)) :
    ScriptBelow p (.folder entries) q ↔
      ∃ e ∈ entries, isHidden e.1 = false ∧ ScriptBelow (p.child e.1) e.2 q := by
  constructor
  · rintro ⟨names, content, executable, hholds, hshown, hq, hscript⟩
    cases hholds with
    | @inside _ name child rest _ hentry hrest =>
      obtain ⟨hname, hshown⟩ := List.forall_mem_cons.1 hshown
      exact ⟨(name, child), hentry, hname, rest, content, executable, hrest, hshown, hq, hscript⟩
  · rintro ⟨⟨name, child⟩, hentry, hname, names, content, executable, hholds, hshown, hq, hscript⟩
    exact ⟨name :: names, content, executable, .inside hentry hholds, List.forall_mem_cons.2 ⟨hname, hshown⟩, hq,
      hscript⟩

/-- what one entry of a folder gives: itself, if it is a script, and what is below it, if it is a folder -/
def EntryGives (p : Path) (e : String × Node) (q : Path) : Prop :=
  isHidden e.1 = false ∧
    (e.2.content?.isSome = true ∧ q = p.child e.1 ∧ isScript q = true ∨ q ∈ below (p.child e.1) e.2)

theorem mem_among_cons (e : String × Node) (rest : List (String × Node)) :
    q ∈ among p (e :: rest) ↔ EntryGives p e q ∨ q ∈ among p rest := by
  obtain ⟨name, child⟩ := e
  cases child with
  | file content executable =>
    simp only [among, EntryGives, Node.content?, Option.isSome_some, below, List.not_mem_nil, or_false, true_and]
    split
    · next h =>
      simp only [Bool.and_eq_true, Bool.not_eq_true'] at h
      rw [List.mem_cons]
      refine or_congr_left ⟨?_, fun hfile => hfile.2.1⟩
      rintro rfl
      exact ⟨h.1, rfl, h.2⟩
    · next h =>
      refine ⟨Or.inr, ?_⟩
      rintro (⟨hname, rfl, hscript⟩ | hrest)
      · simp [hname, hscript] at h
      · exact hrest
  | folder entries =>
    simp only [among, EntryGives, Node.content?, Option.isSome_none, Bool.false_eq_true, false_and, false_or]
    split
    · next hname => simp [hname]
    · next hname => simp [hname]
  | link target => simp [among, EntryGives, Node.content?, below]
  | device kind => simp [among, EntryGives, Node.content?, below]

theorem mem_among (entries : List (String × Node)) : q ∈ among p entries ↔ ∃ e ∈ entries, EntryGives p e q := by
  induction entries with
  | nil => simp [among]
  | cons e rest ih => rw [mem_among_cons, ih, List.exists_mem_cons_iff]

/-- **The walk finds the scripts below a folder and nothing else** -/
theorem mem_below (p : Path) : ∀ n : Node, q ∈ below p n ↔ n.isFolder = true ∧ ScriptBelow p n q
  | .file content executable => by simp [below, Node.isFolder]
  | .link target => by simp [below, Node.isFolder]
  | .device kind => by simp [below, Node.isFolder]
  | .folder entries => by
    have hfolder : (Node.folder entries).isFolder = true := rfl
    rw [below, mem_among, scriptBelow_folder, and_iff_right hfolder]
    refine exists_congr fun e => and_congr_right fun he => and_congr_right fun _ => ?_
    obtain ⟨name, child⟩ := e
    cases child with
    | file content executable => simp [scriptBelow_file, isScript_iff, Node.content?, below]
    | folder inner =>
      have ih := mem_below (p.child name) (.folder inner)
      simp [ih, Node.content?, Node.isFolder]
    | link target =>
      have hnone : ¬ ScriptBelow (p.child name) (.link target) q := not_scriptBelow rfl rfl
      simp [hnone, Node.content?, below]
    | device kind =>
      have hnone : ¬ ScriptBelow (p.child name) (.device kind) q := not_scriptBelow rfl rfl
      simp [hnone, Node.content?, below]
  termination_by n => sizeOf n
  decreasing_by
    -- what stands under a name is smaller than the folder
    have hsmaller := List.sizeOf_lt_of_mem he
    simp_all
    omega

/-! ## Inputs -/

variable {f : Files}

/-- what an input stands for: a file for itself, a folder for the scripts below it -/
inductive StandsFor (f : Files) (input : Path) : Path → Prop
  | file : f.isFile input = true → StandsFor f input input
  | below {entries : List (String × Node)} {q : Path} : f.node input = .ok (.folder entries) →
      ScriptBelow input (.folder entries) q → StandsFor f input q

theorem mem_scriptsOf (f : Files) (input q : Path) : q ∈ scriptsOf f input ↔ StandsFor f input q := by
  constructor
  · intro h
    rw [scriptsOf] at h
    split at h
    · next hnode =>
      obtain rfl := List.mem_singleton.1 h
      exact .file (by rw [Files.isFile, hnode])
    · next node hfile hnode =>
      obtain ⟨hfolder, hbelow⟩ := (mem_below input node).1 h
      cases node with
      | folder entries => exact .below hnode hbelow
      | _ => cases hfolder
    · cases h
  · intro h
    cases h with
    | file hfile =>
      rw [Files.isFile] at hfile
      split at hfile
      · next hnode =>
        rw [scriptsOf, hnode]
        exact List.mem_singleton_self input
      · cases hfile
    | below hnode hbelow =>
      rw [scriptsOf, hnode]
      exact (mem_below input _).2 ⟨rfl, hbelow⟩

/-! ## Spellings -/

/-- a name that does not start with a slash adds its components to those of the path above it -/
theorem components_child {p : Path} (hp : p.text ≠ "") {name : String} (hname : (Path.mk name).isAbsolute = false) :
    (p.child name).components = p.components ++ Path.named (Path.mk name).pieces := by
  cases habsolute : p.isAbsolute with
  | true => exact Path.components_join habsolute hname
  | false => exact Path.components_join_of_relative habsolute hp hname

theorem text_child_ne {p : Path} (hp : p.text ≠ "") (name : String) : (p.child name).text ≠ "" := by
  rw [Path.child, Path.join]
  split
  · next habsolute =>
    rintro rfl
    cases habsolute
  · dsimp only
    split
    · simp [hp]
    · simp [hp]

theorem text_under_ne {p : Path} (hp : p.text ≠ "") (names : List String) : (under p names).text ≠ "" := by
  induction names generalizing p with
  | nil => exact hp
  | cons name rest ih => exact ih (text_child_ne hp name)

/-- what lies below two spellings of a path is named alike -/
theorem components_under {a b : Path} (ha : a.text ≠ "") (hb : b.text ≠ "") (h : a.components = b.components)
    (names : List String) : (under a names).components = (under b names).components := by
  induction names generalizing a b with
  | nil => exact h
  | cons name rest ih =>
    refine ih (text_child_ne ha name) (text_child_ne hb name) ?_
    cases hname : (Path.mk name).isAbsolute with
    | true =>
      have hchild : ∀ p : Path, p.child name = ⟨name⟩ := fun p => if_pos hname
      rw [hchild, hchild]
    | false => rw [components_child ha hname, components_child hb hname, h]

/-- whether a path is that of a script does not depend on its spelling -/
theorem Script.congr {a b : Path} (ha : Script a) (h : a.components = b.components) : Script b := by
  rwa [Script, Path.fileName?, h] at ha

theorem text_ne_of_node {p : Path} {n : Node} (h : f.node p = .ok n) : p.text ≠ "" :=
  (Files.node_eq_ok_iff.1 h).1.text_ne

/-! ## What the path of a name leads to -/

/-- a name that a folder of a file system can have: no slash, none of the names that lead nowhere or up, not too long -/
structure ProperName (name : String) : Prop extends Files.Nameable name where
  slashFree : '/' ∉ name.toList

theorem text_prefix_under {p : Path} (hp : p.text ≠ "") {names : List String}
    (h : ∀ name ∈ names, '/' ∉ name.toList) : p.text.toList <+: (under p names).text.toList := by
  induction names generalizing p with
  | nil => exact List.prefix_refl _
  | cons name rest ih =>
    obtain ⟨hname, hrest⟩ := List.forall_mem_cons.1 h
    have hchild : p.text.toList <+: (p.child name).text.toList := ⟨_, (Path.text_child hp hname).symm⟩
    exact hchild.trans (ih (text_child_ne hp name) hrest)

/-- **The path of what lies below leads there**, if it is short enough to be followed -/
theorem node_under {p : Path} {n m : Node} {names : List String} (h : f.node p = .ok n) (hm : n.at? names = some m)
    (hplain : ∀ target, m.sight ≠ .link target) (hnames : ∀ name ∈ names, ProperName name)
    (hsayable : Files.Sayable (under p names)) : f.node (under p names) = .ok m := by
  induction names generalizing p n with
  | nil =>
    cases hm
    exact h
  | cons name rest ih =>
    obtain ⟨hname, hrest⟩ := List.forall_mem_cons.1 hnames
    obtain ⟨c, hc, hcm⟩ := Option.bind_eq_some_iff.1 hm
    have hslashes : ∀ other ∈ rest, '/' ∉ other.toList := fun other hother => (hrest other hother).slashFree
    have hne : (p.child name).text ≠ "" := text_child_ne (text_ne_of_node h) name
    have hfirst : Files.Sayable (p.child name) := hsayable.of_prefix hne (text_prefix_under hne hslashes)
    have hcPlain : ∀ target, c.sight ≠ .link target := by
      cases rest with
      | nil =>
        cases hcm
        exact hplain
      | cons next rest =>
        obtain ⟨d, hd, -⟩ := Option.bind_eq_some_iff.1 hcm
        obtain ⟨entries, rfl⟩ := Node.child?_isFolder hd
        exact nofun
    exact ih (Files.node_child h hc hcPlain hname.toNameable hname.slashFree hfirst) hcm hrest hsayable

/-! ## Inputs below inputs -/

/-- an input that lies in an input of a list: it is a path below that input, in some spelling, it leads to what lies
there, and no name on the way is hidden; a file counts only as a script or as that input itself -/
def Inside (f : Files) (inputs : List Path) (other : Path) : Prop :=
  ∃ input ∈ inputs, ∃ n names m, f.node input = .ok n ∧ n.Holds names m ∧ f.node other = .ok m ∧
    (∀ name ∈ names, isHidden name = false) ∧ other.components = (under input names).components ∧
    (m.isFolder = true ∨ names = [] ∨ Script other)

/-- the path of a folder or of a script below an input, without a hidden name on the way, is such an input -/
theorem inside_under {inputs : List Path} {input : Path} (hinput : input ∈ inputs) {n m : Node} {names : List String}
    (hnode : f.node input = .ok n) (hm : n.at? names = some m)
    (hnames : ∀ name ∈ names, ProperName name ∧ isHidden name = false) (hsayable : Files.Sayable (under input names))
    (hcounts : m.isFolder = true ∨ m.content?.isSome = true ∧ Script (under input names)) :
    Inside f inputs (under input names) := by
  have hplain : ∀ target, m.sight ≠ .link target := by
    intro target hsight
    cases m with
    | link other => simp [Node.isFolder, Node.content?] at hcounts
    | _ => cases hsight
  have hthere := node_under hnode hm hplain (fun name hname => (hnames name hname).1) hsayable
  refine ⟨input, hinput, n, names, m, hnode, Node.holds_of_at? hm, hthere, fun name hname => (hnames name hname).2, rfl,
    ?_⟩
  exact hcounts.imp_right fun hfile => .inr hfile.2

/-- such an input stands for nothing new -/
theorem standsFor_of_inside {inputs : List Path} {other q : Path} (hinside : Inside f inputs other)
    (h : StandsFor f other q) : ∃ input ∈ inputs, ∃ r, StandsFor f input r ∧ r.components = q.components := by
  obtain ⟨input, hinput, n, names, m, hnode, hholds, hother, hshown, hsame, hcounts⟩ := hinside
  refine ⟨input, hinput, ?_⟩
  cases h with
  | file hfile =>
    rw [Files.isFile, hother] at hfile
    cases m with
    | file content executable =>
      cases hfolder : n.isFolder with
      | false =>
        -- the input is this file itself
        obtain ⟨rfl, rfl⟩ := hholds.eq_of_not_folder hfolder
        exact ⟨input, .file (by rw [Files.isFile, hnode]), hsame.symm⟩
      | true =>
        obtain ⟨entries, rfl⟩ := Node.exists_of_isFolder hfolder
        have hscript : Script (under input names) := by
          rcases hcounts with hm | rfl | hscript
          · cases hm
          · cases hholds
          · exact hscript.congr hsame
        exact ⟨_, .below hnode ⟨names, content, executable, hholds, hshown, rfl, hscript⟩, hsame.symm⟩
    | _ => cases hfile
  | @below entries _ hentries hbelow =>
    obtain rfl : m = .folder entries := Except.ok.inj (hother.symm.trans hentries)
    obtain ⟨more, content, executable, hmore, hshownMore, rfl, hscript⟩ := hbelow
    obtain ⟨outer, rfl⟩ : ∃ outer, n = .folder outer := by
      cases hholds with
      | here => exact ⟨entries, rfl⟩
      | inside => exact ⟨_, rfl⟩
    have hrest : (under input (names ++ more)).components = (under other more).components := by
      rw [under_append]
      exact components_under (text_under_ne (text_ne_of_node hnode) names) (text_ne_of_node hother) hsame.symm more
    refine ⟨under input (names ++ more), .below hnode ?_, hrest⟩
    exact ⟨names ++ more, content, executable, hholds.trans hmore,
      List.forall_mem_append.2 ⟨hshown, hshownMore⟩, rfl, hscript.congr hrest.symm⟩

/-! ## Main result -/

/-- paths in increasing order are pairwise different, also up to their spelling -/
theorem Sorted.nodup_components {l : List Path} (h : Sorted l) : (l.map Path.components).Nodup := by
  refine List.pairwise_map.2 (h.imp fun {p q} hless hsame => ?_)
  rw [Path.less, ← hsame] at hless
  exact Path.less_irrefl p hless

/-- lists of paths in increasing order are known by the paths they cover -/
theorem components_eq_of_covers {a b : List Path} (ha : Sorted a) (hb : Sorted b)
    (h : ∀ p, Covers a p ↔ Covers b p) : a.map Path.components = b.map Path.components := by
  have hordered : ∀ {l : List Path}, Sorted l →
      (l.map Path.components).Pairwise fun c d => Path.lessComponents c d = true :=
    fun hl => List.pairwise_map.2 hl
  have hsame : ∀ c, c ∈ a.map Path.components ↔ c ∈ b.map Path.components := by
    intro c
    rw [List.mem_map, List.mem_map]
    constructor
    · rintro ⟨p, hp, rfl⟩
      exact (h p).1 ⟨p, hp, rfl⟩
    · rintro ⟨p, hp, rfl⟩
      exact (h p).2 ⟨p, hp, rfl⟩
  refine List.Perm.eq_of_pairwise ?_ (hordered ha) (hordered hb)
    ((List.perm_ext_iff_of_nodup ha.nodup_components hb.nodup_components).2 hsame)
  intro c d hc hd hcd hdc
  obtain ⟨p, -, rfl⟩ := List.mem_map.1 hc
  obtain ⟨q, -, rfl⟩ := List.mem_map.1 hd
  exact absurd (Path.less_trans (p := p) (q := q) hcd hdc) (Path.less_irrefl p)

/-- the paths that are collected are those that the inputs stand for, up to their spelling -/
theorem covers_collect_iff (inputs : List Path) (p : Path) : Covers (collect f inputs).files p ↔
    ∃ input ∈ inputs, ∃ q, StandsFor f input q ∧ q.components = p.components := by
  constructor
  · rintro ⟨q, hq, hsame⟩
    obtain ⟨input, hinput, hscript⟩ := mem_scripts_of_collect f hq
    exact ⟨input, hinput, q, (mem_scriptsOf f input q).1 hscript, hsame⟩
  · rintro ⟨input, hinput, q, hq, hsame⟩
    obtain ⟨r, hr, hspelled⟩ := covers_collect f hinput ((mem_scriptsOf f input q).2 hq)
    exact ⟨r, hr, hspelled.trans hsame⟩

/-- inputs that are there already or lie below others change no path -/
theorem covers_collect_inside {inputs others : List Path} (hkept : ∀ input ∈ inputs, input ∈ others)
    (hmore : ∀ other ∈ others, other ∈ inputs ∨ Inside f inputs other) (p : Path) :
    Covers (collect f others).files p ↔ Covers (collect f inputs).files p := by
  rw [covers_collect_iff, covers_collect_iff]
  constructor
  · rintro ⟨other, hother, q, hq, hsame⟩
    rcases hmore other hother with hinput | hinside
    · exact ⟨other, hinput, q, hq, hsame⟩
    · obtain ⟨input, hinput, r, hr, hspelled⟩ := standsFor_of_inside hinside hq
      exact ⟨input, hinput, r, hr, hspelled.trans hsame⟩
  · rintro ⟨input, hinput, q, hq, hsame⟩
    exact ⟨input, hkept input hinput, q, hq, hsame⟩

/-- **What is collected.** For every tree of files and every list of inputs: the scripts are in strictly increasing
order, no two of them are spellings of one path, and they are just what the inputs stand for: each input that leads to a
file, whatever its name, and each file with the extension of scripts that lies below an input that leads to a folder,
where no name below the input is hidden and no link is followed. The missing inputs are those that lead nowhere, in
their order. Other inputs in any order and number give the same list of paths, up to their spelling, if all of these
inputs are among them and each of them is one of these or lies inside one. -/
theorem collect_exact (f : Files) (inputs : List Path) :
    let found := collect f inputs
    Sorted found.files ∧ (found.files.map Path.components).Nodup ∧
    (∀ p ∈ found.files, ∃ input ∈ inputs, StandsFor f input p) ∧
    (∀ input ∈ inputs, ∀ p, StandsFor f input p → Covers found.files p) ∧
    found.missing = inputs.filter (fun input => !f.has input) ∧
    ∀ others, (∀ input ∈ inputs, input ∈ others) → (∀ other ∈ others, other ∈ inputs ∨ Inside f inputs other) →
      (collect f others).files.map Path.components = found.files.map Path.components := by
  intro found
  have hsorted : Sorted found.files := sorted_collect f inputs
  refine ⟨hsorted, hsorted.nodup_components, ?_, ?_, missing_collect f inputs, ?_⟩
  · intro p hp
    obtain ⟨input, hinput, hscript⟩ := mem_scripts_of_collect f hp
    exact ⟨input, hinput, (mem_scriptsOf f input p).1 hscript⟩
  · intro input hinput p hp
    exact covers_collect f hinput ((mem_scriptsOf f input p).2 hp)
  · intro others hkept hmore
    exact components_eq_of_covers (sorted_collect f others) hsorted (covers_collect_inside hkept hmore)

/-- a folder with a script, a hidden folder, a folder that is named like a script, and a link -/
def sources : Node :=
  .folder [("a.gd", .file [] false), (".cache", .folder [("b.gd", .file [] false)]),
    ("lib.gd", .folder [("c.gd", .file [] false), ("notes.txt", .file [] false)]), ("d.gd", .link "a.gd")]

/-- a tree with this folder -/
def sourceFiles : Files := ⟨.folder [("src", sources)], []⟩

theorem node_sources : sourceFiles.node ⟨"/src"⟩ = .ok sources := by
  have hsayable : Files.Sayable ⟨"/src"⟩ := ⟨by decide, by decide, by decide⟩
  have hname : Files.Nameable "src" := ⟨by decide, by decide, by decide⟩
  have hplace : sourceFiles.locate ⟨"/src"⟩ true = .ok (.found ["src"]) :=
    Files.locate_entry hsayable rfl hname rfl rfl nofun
  rw [Files.node, hplace]
  rfl

/-- a folder inside another input, and that input twice, give what this input gives alone -/
theorem collect_exact_overlapping :
    let inputs : List Path := [⟨"/src"⟩]
    let others : List Path := [⟨"/src/lib.gd"⟩, ⟨"/src"⟩, ⟨"/src"⟩]
    (∀ input ∈ inputs, input ∈ others) ∧ (∀ other ∈ others, other ∈ inputs ∨ Inside sourceFiles inputs other) ∧
      (collect sourceFiles inputs).files = [⟨"/src/a.gd"⟩, ⟨"/src/lib.gd/c.gd"⟩] ∧
      (collect sourceFiles others).files.map Path.components =
        (collect sourceFiles inputs).files.map Path.components := by
  intro inputs others
  have hkept : ∀ input ∈ inputs, input ∈ others := by decide
  have hmore : ∀ other ∈ others, other ∈ inputs ∨ Inside sourceFiles inputs other := by
    have hlib : Inside sourceFiles inputs ⟨"/src/lib.gd"⟩ := by
      have hname : ProperName "lib.gd" := ⟨⟨by decide, by decide, by decide⟩, by decide⟩
      have hsayable : Files.Sayable ⟨"/src/lib.gd"⟩ := ⟨by decide, by decide, by decide⟩
      have hthere : sources.at? ["lib.gd"] = some (.folder [("c.gd", .file [] false), ("notes.txt", .file [] false)]) :=
        rfl
      exact inside_under (List.mem_singleton_self _) node_sources hthere
        (List.forall_mem_singleton.2 ⟨hname, by decide⟩) hsayable (.inl rfl)
    intro other hother
    simp only [others, List.mem_cons, List.not_mem_nil, or_false, or_self] at hother
    rcases hother with rfl | rfl
    · exact .inr hlib
    · exact .inl (List.mem_singleton_self _)
  have hfiles : (collect sourceFiles inputs).files = [⟨"/src/a.gd"⟩, ⟨"/src/lib.gd/c.gd"⟩] := by
    rw [files_collect, List.flatMap_singleton, scriptsOf, node_sources]
    decide
  obtain ⟨-, -, -, -, -, hsame⟩ := collect_exact sourceFiles inputs
  exact ⟨hkept, hmore, hfiles, hsame others hkept hmore⟩

end ScriptSet

end ScriptBridge
