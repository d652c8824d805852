/-
Following a path, step by step. Whoever follows a path stands at a place and has parts of the path still to go. A part
that names nothing is passed over, `..` leads up, the name of a link puts the parts of its target in front of the rest,
and any other name is entered; a walk stops where no part is left or where the next name is not there. What `follow`
finds is the end of such a walk. Facts about paths can so be shown for one step and carried along a walk: a path that is
made longer is walked as before and then on, and so is a tree in which a file was made. Where a path leads to a name
that is not there, writing puts a file under this name, and the path leads to the new file afterwards, also by way of
links. A device takes what is written and keeps none of it; all else holds after a write what was written.

- `Moves`, `Stops`: one step of a walk, and where walks stop.
- `follow_eq_ok_iff`: what is found is where the walk stops.
- `Sayable`, `locate_of_sayable`, `locate_of_not_sayable`: which path texts are followed.
- `Moves.behind`, `walks_past_slash`: a longer path is walked in the same way, also behind a slash.
- `node_eq_ok_iff`, `node_child`: the node that a path leads to, and the nodes under the names below it.
- `follow_grown`: where a path led to a name that was not there, it leads to the file that was made under this name.
- `at?_set_new`, `sightAt_set_new`: what is at each place after a file was put under a name that was not there.
- `readText_of_writeText`: what is read back after any write that succeeds.
-/
import Mathlib.Logic.Relation
import ScriptBridge.Proofs.Files.WriteRead
import ScriptBridge.Proofs.Path

namespace ScriptBridge

/-! ## What can be seen at a place -/

namespace Node

/-- what can be seen at the end of a list of names -/
def sightAt (n : Node) (names : List String) : Option Sight := (n.at? names).map sight

theorem isFolder_iff (n : Node) : n.isFolder = true ↔ n.sight = .folder := by
  cases n <;> simp [isFolder, sight]

theorem sightAt_of_at? {n m : Node} {names : List String} (h : n.at? names = some m) :
    n.sightAt names = some m.sight := by
  rw [sightAt, h]
  rfl

theorem sightAt_folder {n m : Node} {names : List String} (h : n.at? names = some m) (hm : ¬ (!m.isFolder) = true) :
    n.sightAt names = some .folder := by
  have hfolder : m.isFolder = true := by simpa using hm
  rw [sightAt_of_at? h, (isFolder_iff m).1 hfolder]

theorem sightAt_child {n m : Node} {names : List String} (h : n.at? names = some m) (name : String) :
    n.sightAt (names ++ [name]) = (m.child? name).map sight := by
  rw [sightAt, at?_child, h]
  rfl

theorem exists_of_sightAt {n : Node} {names : List String} {s : Sight} (h : n.sightAt names = some s) :
    ∃ m, n.at? names = some m ∧ m.sight = s :=
  Option.map_eq_some_iff.1 h

end Node

namespace Files

/-! ## Steps -/

/-- a part of a path that can name an entry of a folder -/
structure Nameable (part : String) : Prop where
  names : ¬ (part = "" ∨ part = ".")
  inside : ¬ part = ".."
  fits : ¬ 255 < part.utf8ByteSize

/-- one who follows a path: how many links he may still follow, where he stands, and the parts still to go -/
structure Walker where
  links : Nat
  place : List String
  parts : List String

/-- one step along a path -/
inductive Moves (top : Node) : Walker → Walker → Prop where
  | stay {links : Nat} {place rest : List String} {part : String} (folder : top.sightAt place = some .folder)
      (nothing : part = "" ∨ part = ".") : Moves top ⟨links, place, part :: rest⟩ ⟨links, place, rest⟩
  | up {links : Nat} {place rest : List String} (folder : top.sightAt place = some .folder) :
      Moves top ⟨links, place, ".." :: rest⟩ ⟨links, place.dropLast, rest⟩
  | enter {links : Nat} {place rest : List String} {part : String} {s : Node.Sight}
      (folder : top.sightAt place = some .folder) (name : Nameable part)
      (seen : top.sightAt (place ++ [part]) = some s) (plain : ∀ target, s ≠ .link target) :
      Moves top ⟨links, place, part :: rest⟩ ⟨links, place ++ [part], rest⟩
  | jump {links : Nat} {place rest : List String} {part target : String} (folder : top.sightAt place = some .folder)
      (name : Nameable part) (seen : top.sightAt (place ++ [part]) = some (.link target)) :
      Moves top ⟨links + 1, place, part :: rest⟩
        ⟨links, if (pathParts target).1 then [] else place, (pathParts target).2 ++ rest⟩

/-- where a walk stops: nothing is left to go, what is left are slashes behind something that is no folder, or the next
name is not there and nothing but slashes follows it -/
inductive Stops (top : Node) : Walker → Place → Prop where
  | found {links : Nat} {place : List String} : Stops top ⟨links, place, []⟩ (.found place)
  | slashed {links : Nat} {place rest : List String} {part : String} {s : Node.Sight}
      (seen : top.sightAt place = some s) (closed : s ≠ .folder)
      (slashes : (part :: rest).all (· == "") = true) : Stops top ⟨links, place, part :: rest⟩ (.slashed place)
  | absent {links : Nat} {place rest : List String} {part : String} (folder : top.sightAt place = some .folder)
      (name : Nameable part) (missing : top.sightAt (place ++ [part]) = none)
      (slashes : rest.all (· == "") = true) :
      Stops top ⟨links, place, part :: rest⟩ (.absent place part (!rest.isEmpty))

/-- a walk of any number of steps -/
abbrev Walks (top : Node) : Walker → Walker → Prop := Relation.ReflTransGen (Moves top)

/-- where the path of a walker leads, links at its end followed too -/
def Walker.follow (w : Walker) (top : Node) : Except FileError Place := Files.follow top true w.links w.place w.parts

variable {top : Node}

theorem folder_of_sightAt {place : List String} (h : top.sightAt place = some .folder) :
    ∃ node, top.at? place = some node ∧ (!node.isFolder) = false := by
  obtain ⟨node, hnode, hsight⟩ := Node.exists_of_sightAt h
  refine ⟨node, hnode, ?_⟩
  rw [(Node.isFolder_iff node).2 hsight]
  rfl

/-- a step does not change where a path leads -/
theorem follow_of_moves {a b : Walker} (h : Moves top a b) : a.follow top = b.follow top := by
  unfold Walker.follow
  cases h with
  | stay folder nothing =>
    obtain ⟨node, hnode, hfolder⟩ := folder_of_sightAt folder
    rw [Files.follow]
    simp [hnode, hfolder, nothing]
  | up folder =>
    obtain ⟨node, hnode, hfolder⟩ := folder_of_sightAt folder
    rw [Files.follow]
    simp [hnode, hfolder]
  | @enter links place rest part s folder name seen plain =>
    obtain ⟨node, hnode, hfolder⟩ := folder_of_sightAt folder
    rw [Node.sightAt_child hnode] at seen
    obtain ⟨child, hchild, hsight⟩ := Option.map_eq_some_iff.1 seen
    rw [Files.follow]
    simp only [hnode, hfolder, if_neg name.names, if_neg name.inside, if_neg name.fits, hchild, Bool.false_eq_true,
      if_false]
    cases child with
    | link target => exact absurd hsight.symm (plain target)
    | _ => rfl
  | @jump links place rest part target folder name seen =>
    obtain ⟨node, hnode, hfolder⟩ := folder_of_sightAt folder
    rw [Node.sightAt_child hnode] at seen
    obtain ⟨child, hchild, hsight⟩ := Option.map_eq_some_iff.1 seen
    rw [Files.follow]
    simp only [hnode, hfolder, if_neg name.names, if_neg name.inside, if_neg name.fits, hchild, Bool.false_eq_true,
      if_false]
    cases child with
    | link other =>
      cases hsight
      simp
    | _ => cases hsight

theorem follow_of_walks {a b : Walker} (h : Walks top a b) : a.follow top = b.follow top := by
  induction h with
  | refl => rfl
  | tail _ hstep ih => rw [ih, follow_of_moves hstep]

theorem follow_of_stops {a : Walker} {r : Place} (h : Stops top a r) : a.follow top = .ok r := by
  unfold Walker.follow
  cases h with
  | found => rw [Files.follow]
  | slashed seen closed slashes =>
    obtain ⟨node, hnode, hsight⟩ := Node.exists_of_sightAt seen
    have hclosed : (!node.isFolder) = true := by
      rw [Bool.not_eq_true', ← Bool.not_eq_true, Node.isFolder_iff, hsight]
      exact closed
    rw [Files.follow]
    simp only [hnode, hclosed, if_true, slashes]
  | absent folder name missing slashes =>
    obtain ⟨node, hnode, hfolder⟩ := folder_of_sightAt folder
    rw [Node.sightAt_child hnode, Option.map_eq_none_iff] at missing
    rw [Files.follow]
    simp only [hnode, hfolder, if_neg name.names, if_neg name.inside, if_neg name.fits, missing, slashes,
      Bool.false_eq_true, if_false, if_true]

/-- a walk of one step and a walk that goes on from there -/
theorem exists_walk_of_moves {a b : Walker} {r : Place} (h : Moves top a b)
    (hwalk : ∃ last, Walks top b last ∧ Stops top last r) : ∃ last, Walks top a last ∧ Stops top last r := by
  obtain ⟨last, hwalks, hstops⟩ := hwalk
  exact ⟨last, hwalks.head h, hstops⟩

/-- what is found is the end of a walk -/
theorem exists_walk (links : Nat) (place parts : List String) {r : Place}
    (h : Files.follow top true links place parts = .ok r) :
    ∃ last, Walks top ⟨links, place, parts⟩ last ∧ Stops top last r := by
  fun_induction Files.follow top true links place parts with
  | case1 links place =>
    cases h
    exact ⟨_, .refl, .found⟩
  | case2 => cases h
  | case3 links place part rest node hnode hclosed hslashes =>
    cases h
    refine ⟨_, .refl, .slashed (Node.sightAt_of_at? hnode) ?_ hslashes⟩
    intro hsight
    simp [(Node.isFolder_iff node).2 hsight] at hclosed
  | case4 => cases h
  | case5 links place part rest node hnode hfolder hnothing ih =>
    exact exists_walk_of_moves (.stay (Node.sightAt_folder hnode hfolder) hnothing) (ih h)
  | case6 links place rest node hnode hfolder _ ih =>
    exact exists_walk_of_moves (.up (Node.sightAt_folder hnode hfolder)) (ih h)
  | case7 => cases h
  | case8 links place part rest node hnode hfolder hnames hinside hfits hchild hslashes =>
    cases h
    refine ⟨_, .refl, .absent (Node.sightAt_folder hnode hfolder) ⟨hnames, hinside, hfits⟩ ?_ hslashes⟩
    rw [Node.sightAt_child hnode, hchild]
    rfl
  | case9 => cases h
  | case10 _ _ _ _ _ _ _ _ _ _ _ _ hlast => simp at hlast
  | case11 => cases h
  | case12 place part rest node hnode hfolder hnames hinside hfits target hchild _ links absolute more hparts ih =>
    have hseen : top.sightAt (place ++ [part]) = some (.link target) := by
      rw [Node.sightAt_child hnode, hchild]
      rfl
    have hjump : Moves top ⟨links + 1, place, part :: rest⟩
        ⟨links, if (pathParts target).1 then [] else place, (pathParts target).2 ++ rest⟩ :=
      .jump (Node.sightAt_folder hnode hfolder) ⟨hnames, hinside, hfits⟩ hseen
    rw [hparts] at hjump
    exact exists_walk_of_moves hjump (ih (by simpa using h))
  | case13 links place part rest node hnode hfolder hnames hinside hfits child hplain hchild ih =>
    have hseen : top.sightAt (place ++ [part]) = some child.sight := by
      rw [Node.sightAt_child hnode, hchild]
      rfl
    refine exists_walk_of_moves
      (.enter (Node.sightAt_folder hnode hfolder) ⟨hnames, hinside, hfits⟩ hseen fun target hsight => ?_) (ih h)
    cases child with
    | link other => exact hplain other rfl
    | _ => cases hsight

/-- **What a path leads to is where its walk stops** -/
theorem follow_eq_ok_iff (links : Nat) (place parts : List String) (r : Place) :
    Files.follow top true links place parts = .ok r ↔
      ∃ last, Walks top ⟨links, place, parts⟩ last ∧ Stops top last r := by
  constructor
  · exact exists_walk links place parts
  · rintro ⟨last, hwalks, hstops⟩
    have hstart : Files.follow top true links place parts = last.follow top := follow_of_walks hwalks
    rw [hstart, follow_of_stops hstops]

/-! ## Paths -/

/-- a path text that is followed at all -/
structure Sayable (p : Path) : Prop where
  nonempty : ¬ p.text.isEmpty = true
  noNul : ¬ p.text.toList.contains (Char.ofNat 0) = true
  fits : ¬ 4095 < p.text.utf8ByteSize

/-- the walker at the start of a path -/
def start (f : Files) (p : Path) : Walker :=
  ⟨40, if (pathParts p.text).1 then [] else f.here, (pathParts p.text).2⟩

theorem locate_of_sayable {p : Path} (h : Sayable p) (f : Files) : f.locate p true = (f.start p).follow f.top := by
  rw [locate, if_neg h.nonempty, if_neg h.noNul, if_neg h.fits]
  rfl

theorem locate_of_not_sayable {p : Path} (h : ¬ Sayable p) (f : Files) : ∃ e, f.locate p true = .error e := by
  unfold locate
  split
  · exact ⟨_, rfl⟩
  · next hempty =>
    split
    · exact ⟨_, rfl⟩
    · next hnul =>
      split
      · exact ⟨_, rfl⟩
      · next hlong => exact absurd ⟨hempty, hnul, hlong⟩ h

theorem sayable_of_ok {f : Files} {p : Path} {r : Place} (h : f.locate p true = .ok r) : Sayable p := by
  by_cases hp : Sayable p
  · exact hp
  · obtain ⟨e, he⟩ := locate_of_not_sayable hp f
    cases h.symm.trans he

/-- a name in the top folder is found there -/
theorem locate_entry {f : Files} {p : Path} {name : String} {s : Node.Sight} (hp : Sayable p)
    (hparts : pathParts p.text = (true, [name])) (hname : Nameable name) (hfolder : f.top.sightAt [] = some .folder)
    (hseen : f.top.sightAt [name] = some s) (hplain : ∀ target, s ≠ .link target) :
    f.locate p true = .ok (.found [name]) := by
  have hstart : f.start p = ⟨40, [], [name]⟩ := by
    rw [start, hparts]
    rfl
  have henter : Moves f.top ⟨40, [], [name]⟩ ⟨40, [name], []⟩ := .enter hfolder hname hseen hplain
  rw [locate_of_sayable hp, hstart, follow_of_moves henter, follow_of_stops .found]

/-! ## Longer paths -/

/-- a walker with more parts behind those he has still to go -/
def Walker.behind (w : Walker) (more : List String) : Walker := { w with parts := w.parts ++ more }

/-- a longer path is walked in the same way -/
theorem Moves.behind {a b : Walker} (h : Moves top a b) (more : List String) :
    Moves top (a.behind more) (b.behind more) := by
  cases h with
  | stay folder nothing => exact .stay folder nothing
  | up folder => exact .up folder
  | enter folder name seen plain => exact .enter folder name seen plain
  | @jump links place rest part target folder name seen =>
    have hjump : Moves top ⟨links + 1, place, part :: (rest ++ more)⟩
        ⟨links, if (pathParts target).1 then [] else place, (pathParts target).2 ++ (rest ++ more)⟩ :=
      .jump folder name seen
    rw [← List.append_assoc] at hjump
    exact hjump

theorem walks_behind {a b : Walker} (h : Walks top a b) (more : List String) :
    Walks top (a.behind more) (b.behind more) := by
  induction h with
  | refl => exact .refl
  | tail _ hstep ih => exact ih.tail (hstep.behind more)

/-- while parts of its own are left, a longer path is walked in no other way -/
theorem Moves.of_behind {links : Nat} {place rest : List String} {part : String} {more : List String} {b : Walker}
    (h : Moves top (Walker.behind ⟨links, place, part :: rest⟩ more) b) :
    ∃ c : Walker, Moves top ⟨links, place, part :: rest⟩ c ∧ b = c.behind more := by
  unfold Walker.behind at h
  generalize hw : (⟨links, place, (part :: rest) ++ more⟩ : Walker) = w at h
  cases h with
  | stay folder nothing =>
    cases hw
    exact ⟨_, .stay folder nothing, rfl⟩
  | up folder =>
    cases hw
    exact ⟨_, .up folder, rfl⟩
  | enter folder name seen plain =>
    cases hw
    exact ⟨_, .enter folder name seen plain, rfl⟩
  | jump folder name seen =>
    cases hw
    exact ⟨_, .jump folder name seen, by simp [Walker.behind]⟩

/-- a walk with no part left is at its end -/
theorem eq_of_walks_nil {links : Nat} {place : List String} {w : Walker} (h : Walks top ⟨links, place, []⟩ w) :
    w = ⟨links, place, []⟩ := by
  rcases h.cases_head with rfl | ⟨c, hstep, -⟩
  · rfl
  · cases hstep

theorem Moves.eq_of_slash {links : Nat} {place : List String} {w : Walker} (h : Moves top ⟨links, place, [""]⟩ w) :
    w = ⟨links, place, []⟩ := by
  generalize hpart : "" = part at h
  cases h with
  | stay => rfl
  | up => exact absurd hpart (by decide)
  | enter _ hname => exact absurd (Or.inl hpart.symm) hname.names
  | jump _ hname => exact absurd (Or.inl hpart.symm) hname.names

/-- a slash at the end of a path is passed over where the path leads, so a name can stand behind it -/
theorem walks_past_slash {w : Walker} {links : Nat} {place : List String}
    (h : Walks top (w.behind [""]) ⟨links, place, []⟩) (name : String) :
    Walks top (w.behind [name]) ⟨links, place, [name]⟩ := by
  generalize ha : w.behind [""] = a at h
  induction h using Relation.ReflTransGen.head_induction_on generalizing w with
  | refl =>
    have hparts := congrArg Walker.parts ha
    simp [Walker.behind] at hparts
  | head hstep hrest ih =>
    subst ha
    obtain ⟨links', place', parts⟩ := w
    cases parts with
    | nil =>
      -- nothing but the slash is left
      cases hstep.eq_of_slash
      cases eq_of_walks_nil hrest
      exact .refl
    | cons part rest =>
      obtain ⟨c, hmove, rfl⟩ := hstep.of_behind
      exact (ih rfl).head (hmove.behind [name])

theorem Sayable.text_ne {p : Path} (h : Sayable p) : p.text ≠ "" := by
  intro hempty
  exact h.nonempty (by simp [hempty])

/-- a first part of a path text that is followed is followed itself, if it is not empty -/
theorem Sayable.of_prefix {p q : Path} (hq : Sayable q) (hp : p.text ≠ "") (h : p.text.toList <+: q.text.toList) :
    Sayable p := by
  obtain ⟨rest, hrest⟩ := h
  have htext : q.text = p.text ++ String.ofList rest := by
    apply String.toList_injective
    rw [String.toList_append, String.toList_ofList, hrest]
  refine ⟨by simpa using hp, fun hnul => hq.noNul ?_, fun hlong => hq.fits ?_⟩
  · rw [← hrest]
    simp only [List.contains_eq_mem, List.mem_append, decide_eq_true_eq] at hnul ⊢
    exact Or.inl hnul
  · rw [htext, String.utf8ByteSize_append]
    omega

/-- a path leads to a node exactly if its walk ends at the place of the node -/
theorem node_eq_ok_iff {f : Files} {p : Path} {n : Node} : f.node p = .ok n ↔
    Sayable p ∧ ∃ links place, Walks f.top (f.start p) ⟨links, place, []⟩ ∧ f.top.at? place = some n := by
  constructor
  · intro h
    rw [node] at h
    cases hplace : f.locate p true with
    | error e => simp [hplace, bind, Except.bind] at h
    | ok r =>
      simp only [hplace, bind, Except.bind] at h
      cases r with
      | slashed => cases h
      | absent => cases h
      | found place =>
        have hsayable := sayable_of_ok hplace
        rw [locate_of_sayable hsayable] at hplace
        obtain ⟨last, hwalks, hstops⟩ := (follow_eq_ok_iff _ _ _ _).1 hplace
        cases hstops with
        | @found links =>
          refine ⟨hsayable, links, place, hwalks, ?_⟩
          cases hnode : f.top.at? place with
          | none => simp [hnode] at h
          | some m =>
            simp only [hnode, Except.ok.injEq] at h
            rw [h]
  · rintro ⟨hsayable, links, place, hwalks, hnode⟩
    rw [node, locate_of_sayable hsayable, follow_of_walks hwalks, follow_of_stops .found]
    simp [bind, Except.bind, hnode]

/-- **The path of a name below a path leads to what stands under this name** -/
theorem node_child {f : Files} {p : Path} {n c : Node} {name : String} (h : f.node p = .ok n)
    (hc : n.child? name = some c) (hplain : ∀ target, c.sight ≠ .link target) (hname : Nameable name)
    (hslash : '/' ∉ name.toList) (hsayable : Sayable (p.child name)) : f.node (p.child name) = .ok c := by
  obtain ⟨hfirst, links, place, hwalks, hnode⟩ := node_eq_ok_iff.1 h
  have hseen : f.top.sightAt place = some .folder := by
    obtain ⟨entries, rfl⟩ := Node.child?_isFolder hc
    exact Node.sightAt_of_at? hnode
  have henter : Moves f.top ⟨links, place, [name]⟩ ⟨links, place ++ [name], []⟩ := by
    refine .enter hseen hname ?_ hplain
    rw [Node.sightAt_child hnode, hc]
    rfl
  have hstart : Walks f.top (f.start (p.child name)) ⟨links, place, [name]⟩ := by
    obtain ⟨habsolute, hpieces⟩ := Path.pieces_child hfirst.text_ne hslash
    rcases hpieces with hpieces | ⟨front, hfront, hpieces⟩
    · have hlonger : f.start (p.child name) = (f.start p).behind [name] := by
        simp only [start, pathParts, Walker.behind, habsolute, hpieces, List.map_append, List.map_cons, List.map_nil,
          String.ofList_toList]
        rfl
      rw [hlonger]
      exact walks_behind hwalks [name]
    · let w : Walker := ⟨40, if p.isAbsolute then [] else f.here, front.map String.ofList⟩
      have hslashed : f.start p = w.behind [""] := by
        simp [start, pathParts, Walker.behind, hfront, w]
      have hnamed : f.start (p.child name) = w.behind [name] := by
        simp [start, pathParts, Walker.behind, habsolute, hpieces, w]
      rw [hslashed] at hwalks
      rw [hnamed]
      exact walks_past_slash hwalks name
  refine node_eq_ok_iff.2 ⟨hsayable, links, place ++ [name], hstart.tail henter, ?_⟩
  rw [Node.at?_child, hnode]
  exact hc

/-! ## Trees with a new file -/

section

variable {later : Node} {folder : List String} {name : String}
  (hsame : ∀ names, names ≠ folder ++ [name] → later.sightAt names = top.sightAt names)
  (hmissing : top.sightAt (folder ++ [name]) = none)
include hsame hmissing

/-- what can be seen stays as it was -/
theorem sightAt_grown {names : List String} {s : Node.Sight} (h : top.sightAt names = some s) :
    later.sightAt names = some s := by
  have hother : names ≠ folder ++ [name] := by
    rintro rfl
    rw [hmissing] at h
    cases h
  rw [hsame names hother, h]

theorem Moves.grown {a b : Walker} (h : Moves top a b) : Moves later a b := by
  cases h with
  | stay folder nothing => exact .stay (sightAt_grown hsame hmissing folder) nothing
  | up folder => exact .up (sightAt_grown hsame hmissing folder)
  | enter folder part seen plain =>
    exact .enter (sightAt_grown hsame hmissing folder) part (sightAt_grown hsame hmissing seen) plain
  | jump folder part seen =>
    exact .jump (sightAt_grown hsame hmissing folder) part (sightAt_grown hsame hmissing seen)

theorem walks_grown {a b : Walker} (h : Walks top a b) : Walks later a b := by
  induction h with
  | refl => exact .refl
  | tail _ hstep ih => exact ih.tail (hstep.grown hsame hmissing)

end

/-- a path that leads to a name that is not there, with no slash behind it, is walked up to this name -/
theorem walks_of_absent {a : Walker} {folder : List String} {name : String}
    (h : a.follow top = .ok (.absent folder name false)) : Nameable name ∧ top.sightAt folder = some .folder ∧
      top.sightAt (folder ++ [name]) = none ∧ ∃ links, Walks top a ⟨links, folder, [name]⟩ := by
  obtain ⟨last, hwalks, hstops⟩ := (follow_eq_ok_iff _ _ _ _).1 h
  generalize hplace : Place.absent folder name false = r at hstops
  cases hstops with
  | found => cases hplace
  | slashed => cases hplace
  | @absent links place rest part hfolder hname hmissing hslashes =>
    simp only [Place.absent.injEq] at hplace
    obtain ⟨rfl, rfl, hrest⟩ := hplace
    obtain rfl : rest = [] := by simpa using hrest.symm
    exact ⟨hname, hfolder, hmissing, links, hwalks⟩

/-- a path that led to a name that was not there leads to the file that was made under this name -/
theorem follow_grown {later : Node} {folder : List String} {name : String} {a : Walker}
    (hsame : ∀ names, names ≠ folder ++ [name] → later.sightAt names = top.sightAt names)
    (hmade : later.sightAt (folder ++ [name]) = some .leaf) (h : a.follow top = .ok (.absent folder name false)) :
    a.follow later = .ok (.found (folder ++ [name])) := by
  obtain ⟨hname, hfolder, hmissing, links, hwalks⟩ := walks_of_absent h
  have henter : Moves later ⟨links, folder, [name]⟩ ⟨links, folder ++ [name], []⟩ :=
    .enter (sightAt_grown hsame hmissing hfolder) hname hmade nofun
  exact (follow_eq_ok_iff _ _ _ _).2 ⟨_, (walks_grown hsame hmissing hwalks).tail henter, .found⟩

end Files

/-! ## Files that writing makes -/

namespace Node

section

variable {n : Node} {folder : List String} {entries : List (String × Node)} (h : n.at? folder = some (.folder entries))
include h

theorem at?_set_new (name : String) (v : Node) :
    (n.set (some v) (folder ++ [name])).at? (folder ++ [name]) = some v := by
  induction folder generalizing n with
  | nil =>
    obtain rfl : n = .folder entries := Option.some.inj h
    have hput : (Node.folder (Table.putEntry name v entries)).child? name = some v := by
      rw [child?, Table.find?_putEntry, if_pos rfl]
    simp only [List.nil_append, set, at?, hput, Option.bind_some]
  | cons first rest ih =>
    obtain ⟨child, hchild, hrest⟩ := Option.bind_eq_some_iff.1 h
    rw [List.cons_append, at?, child?_set hchild, if_pos rfl]
    exact ih hrest

/-- where a file is put under a name that was not there, all else looks as before -/
theorem sightAt_set_new {name : String} (hmissing : n.sightAt (folder ++ [name]) = none) (content : List UInt8)
    (executable : Bool) {other : List String} (hother : other ≠ folder ++ [name]) :
    (n.set (some (.file content executable)) (folder ++ [name])).sightAt other = n.sightAt other := by
  induction folder generalizing n other with
  | nil =>
    obtain rfl : n = .folder entries := Option.some.inj h
    have hnone : (Node.folder entries).child? name = none := by
      rw [sightAt_child rfl, Option.map_eq_none_iff] at hmissing
      exact hmissing
    cases other with
    | nil => rfl
    | cons x rest =>
      have hput : (Node.folder (Table.putEntry name (.file content executable) entries)).child? x =
          if name = x then some (.file content executable) else (Node.folder entries).child? x := by
        rw [child?, Table.find?_putEntry]
        rfl
      simp only [List.nil_append, set, sightAt, at?, hput]
      split
      · next hx =>
        subst hx
        -- nothing lies below a file, and nothing was below the name that was missing
        cases rest with
        | nil => exact absurd rfl hother
        | cons y more =>
          rw [hnone]
          rfl
      · rfl
  | cons first rest ih =>
    obtain ⟨child, hchild, hrest⟩ := Option.bind_eq_some_iff.1 h
    have hbelow : ∀ names, n.sightAt (first :: names) = child.sightAt names := by
      intro names
      rw [sightAt, at?, hchild]
      rfl
    cases other with
    | nil =>
      have hshape := congrArg sight (shape_set hchild (.file content executable) (rest ++ [name]))
      rw [sight_shape, sight_shape] at hshape
      exact congrArg some hshape
    | cons x others =>
      rw [List.cons_append, sightAt, at?, child?_set hchild]
      split
      · next hx =>
        subst hx
        rw [List.cons_append, hbelow] at hmissing
        rw [hbelow]
        exact ih hrest hmissing fun heq => hother (congrArg (first :: ·) heq)
      · rfl

end

end Node

namespace Files

variable {f after : Files} {p : Path}

/-- what leads nowhere because of one name leads to the file that is put under this name -/
theorem locate_new {folder : List String} {name : String} (h : f.locate p true = .ok (.absent folder name false))
    (content : List UInt8) :
    let made : Files := { f with top := f.top.set (some (.file content false)) (folder ++ [name]) }
    made.locate p true = .ok (.found (folder ++ [name])) ∧
      made.top.at? (folder ++ [name]) = some (.file content false) := by
  intro made
  have hsayable := sayable_of_ok h
  rw [locate_of_sayable hsayable] at h
  obtain ⟨-, hfolder, hmissing, -⟩ := walks_of_absent h
  obtain ⟨node, hnode, hsight⟩ := Node.exists_of_sightAt hfolder
  cases node with
  | folder entries =>
    have hfile : made.top.at? (folder ++ [name]) = some (.file content false) := Node.at?_set_new hnode name _
    refine ⟨?_, hfile⟩
    rw [locate_of_sayable hsayable]
    refine follow_grown (fun names hnames => ?_) (Node.sightAt_of_at? hfile) h
    exact Node.sightAt_set_new hnode hmissing content false hnames
  | _ => cases hsight

theorem has_of_readText {text : String} (h : f.readText p = .ok text) : f.has p = true := by
  rw [has]
  cases hnode : f.node p with
  | error e => simp [readText, read, hnode, bind, Except.bind] at h
  | ok n => rfl

theorem readText_of_place {names : List String} {text : String} {executable : Bool}
    (hplace : f.locate p true = .ok (.found names))
    (hfile : f.top.at? names = some (.file (Text.encode text.toList) executable)) : f.readText p = .ok text := by
  have hdecode := Text.decode?_encode text.toList
  simp [readText, read, node, hplace, hfile, bind, Except.bind, hdecode]

/-- **What was written is read back**, unless the path leads to a device -/
theorem readText_of_writeText {text : String} (h : f.writeText p text = .ok after)
    (hkept : ∀ kind, after.node p ≠ .ok (.device kind)) : after.readText p = .ok text := by
  unfold writeText write at h
  cases hplace : f.locate p true with
  | error e => simp [hplace, bind, Except.bind] at h
  | ok place =>
    cases place with
    | slashed names => simp [hplace, bind, Except.bind] at h
    | absent folder name asFolder =>
      cases asFolder with
      | true => simp [hplace, bind, Except.bind] at h
      | false =>
        cases hbarred : barred? folder with
        | some e => simp [hplace, hbarred, bind, Except.bind] at h
        | none =>
          simp only [hplace, hbarred, bind, Except.bind, Bool.false_eq_true, if_false, Except.ok.injEq] at h
          subst h
          obtain ⟨hfound, hfile⟩ := locate_new hplace (Text.encode text.toList)
          exact readText_of_place hfound hfile
    | found names =>
      cases hnode : f.top.at? names with
      | none => simp [hplace, hnode, bind, Except.bind] at h
      | some n =>
        cases n with
        | file content executable =>
          simp only [hplace, hnode, bind, Except.bind, Except.ok.injEq] at h
          subst h
          exact readText_of_place ((locate_withContent hnode _ p true).trans hplace) (Node.at?_set_self hnode _)
        | folder entries => simp [hplace, hnode, bind, Except.bind] at h
        | link target => simp [hplace, hnode, bind, Except.bind] at h
        | device kind =>
          -- a device is left as it is, so the path still leads to it
          exfalso
          have hsame : f = after := by
            cases kind with
            | full =>
              simp only [hplace, hnode, bind, Except.bind] at h
              split at h
              · exact Except.ok.inj h
              · cases h
            | _ => simpa [hplace, hnode, bind, Except.bind] using h
          subst hsame
          refine hkept kind ?_
          simp [node, hplace, hnode, bind, Except.bind]

end Files

end ScriptBridge
