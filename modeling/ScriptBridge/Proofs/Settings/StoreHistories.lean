/-
What a store holds after a history of edits. A setting is given or removed under a namespace and a key; it is held under
their qualified name, so it follows the edits of that name. Edits of the very pair are all edits of the name only where
neither part holds a dot: any other pair shares its name with one that is cut at another dot.

- `Edit`, `after`: edits of a store, and the store after a list of them.
- `read_apply`: what one edit does; `read_after_of_others`, `read_after_of_last`: what a history does.
- `read_follows_name`: a setting follows the last edit of its name, and when that is the last edit of its pair.
- `dotted_pairs_share`: two pairs that share a setting.
-/
import ScriptBridge.Proofs.Settings.QualifiedNames

namespace ScriptBridge.Store

/-- an edit of one setting -/
inductive Edit where
  | set (space key : String) (value : Json)
  | remove (space key : String)

namespace Edit

/-- the namespace and the key of an edit -/
def pair : Edit → String × String
  | set space key _ => (space, key)
  | remove space key => (space, key)

/-- the qualified name that an edit changes -/
def name (e : Edit) : String := qualified e.pair.1 e.pair.2

/-- what an edit leaves under its name -/
def value? : Edit → Option Json
  | set _ _ value => some value
  | remove _ _ => none

/-- the store after an edit -/
def apply (s : Store) : Edit → Store
  | set space key value => s.write space key value
  | remove space key => s.remove space key

end Edit

/-- the store after a list of edits -/
def after (s : Store) (edits : List Edit) : Store := edits.foldl Edit.apply s

/-- what is held is what the last of the edits of some kind left; nothing, if there was no such edit -/
structure FollowsLast (kind : Edit → Prop) (edits : List Edit) (held : Option Json) : Prop where
  last : ∀ before e later, edits = before ++ e :: later → kind e → (∀ o ∈ later, ¬ kind o) → held = e.value?
  fresh : (∀ e ∈ edits, ¬ kind e) → held = none

/-- a pair of names is a key of its own: what it holds follows the last edit of this very pair, and an edit of another
pair leaves it -/
structure OwnKey (space key : String) : Prop where
  follows : ∀ edits, FollowsLast (fun e => e.pair = (space, key)) edits ((after .empty edits).read space key)
  kept : ∀ edits e, e.pair ≠ (space, key) →
    (after .empty (edits ++ [e])).read space key = (after .empty edits).read space key

/-! ## One edit -/

/-- an edit changes what is held under its name and nothing else -/
theorem read_apply (s : Store) (e : Edit) (space key : String) :
    (e.apply s).read space key = if e.name = qualified space key then e.value? else s.read space key := by
  cases e with
  | set _ _ _ => exact Table.get?_put ..
  | remove _ _ => exact Table.get?_erase ..

theorem read_apply_of_ne (s : Store) (e : Edit) {space key : String} (h : e.name ≠ qualified space key) :
    (e.apply s).read space key = s.read space key := by
  rw [read_apply, if_neg h]

/-- where neither name holds a dot, the edits of the name are those of the pair -/
theorem Edit.name_eq_iff {space key : String} (hspace : '.' ∉ space.toList) (hkey : '.' ∉ key.toList) (e : Edit) :
    e.name = qualified space key ↔ e.pair = (space, key) := by
  rw [Edit.name, qualified_eq_iff hspace hkey, Prod.ext_iff]

/-! ## Histories -/

theorem after_append (s : Store) (a b : List Edit) : s.after (a ++ b) = (s.after a).after b := by
  simp [after, List.foldl_append]

/-- edits of other names leave a setting -/
theorem read_after_of_others (s : Store) (edits : List Edit) {space key : String}
    (h : ∀ e ∈ edits, e.name ≠ qualified space key) : (s.after edits).read space key = s.read space key := by
  induction edits generalizing s with
  | nil => rfl
  | cons e edits ih =>
    have hrest := ih (e.apply s) fun o ho => h o (List.mem_cons_of_mem _ ho)
    rw [read_apply_of_ne s e (h e List.mem_cons_self)] at hrest
    exact hrest

/-- the last edit of a name says what is held under it -/
theorem read_after_of_last (s : Store) (before : List Edit) (e : Edit) (later : List Edit) {space key : String}
    (he : e.name = qualified space key) (hlater : ∀ o ∈ later, o.name ≠ qualified space key) :
    (s.after (before ++ e :: later)).read space key = e.value? := by
  have hstep : s.after (before ++ e :: later) = (e.apply (s.after before)).after later := after_append s before _
  rw [hstep, read_after_of_others _ later hlater, read_apply, if_pos he]

theorem read_followsLast (edits : List Edit) (space key : String) :
    FollowsLast (fun e => e.name = qualified space key) edits ((after .empty edits).read space key) where
  last := by
    rintro before e later rfl he hlater
    exact read_after_of_last .empty before e later he hlater
  fresh h := by
    rw [read_after_of_others .empty edits h]
    rfl

/-! ## Pairs as keys -/

theorem ownKey_of_dotFree {space key : String} (hspace : '.' ∉ space.toList) (hkey : '.' ∉ key.toList) :
    OwnKey space key where
  follows edits := by
    have hkind : (fun e : Edit => e.pair = (space, key)) = fun e => e.name = qualified space key :=
      funext fun e => propext (Edit.name_eq_iff hspace hkey e).symm
    rw [hkind]
    exact read_followsLast edits space key
  kept edits e he := by
    rw [after_append]
    exact read_apply_of_ne _ e fun hname => he ((Edit.name_eq_iff hspace hkey e).1 hname)

/-- a pair that shares its name with another one is no key of its own: what the other one is given is found under it -/
theorem not_ownKey_of_shared {space key otherSpace otherKey : String} (hne : (otherSpace, otherKey) ≠ (space, key))
    (hname : qualified otherSpace otherKey = qualified space key) : ¬ OwnKey space key := by
  intro h
  -- after one edit, of the other pair, nothing should be held yet
  let e := Edit.set otherSpace otherKey .null
  have hfresh := (h.follows [e]).fresh fun o ho => by
    rw [List.mem_singleton.1 ho]
    exact hne
  have hheld : (after .empty [e]).read space key = some .null :=
    read_after_of_last .empty [] e [] hname fun o ho => nomatch ho
  rw [hheld] at hfresh
  cases hfresh

/-! ## Main result -/

/-- **A setting follows the last edit of its qualified name.** After any edits of a store that was empty, what is held
under a namespace and a key is what the last edit of their qualified name left: its value, or nothing if it removed the
setting or if there was none; and an edit of another qualified name never changes it. The same is true with the pair in
place of its name exactly if neither the namespace nor the key holds a dot. -/
theorem read_follows_name :
    (∀ edits space key,
      FollowsLast (fun e => e.name = qualified space key) edits ((after .empty edits).read space key)) ∧
    (∀ (s : Store) (e : Edit) (space key : String), e.name ≠ qualified space key →
      (e.apply s).read space key = s.read space key) ∧
    (∀ space key, OwnKey space key ↔ '.' ∉ space.toList ∧ '.' ∉ key.toList) := by
  refine ⟨read_followsLast, fun s e _ _ h => read_apply_of_ne s e h, fun space key => ⟨fun h => ?_, fun h => ?_⟩⟩
  · rw [← not_or]
    intro hdot
    obtain ⟨otherSpace, otherKey, hne, hname⟩ := exists_shared hdot
    exact not_ownKey_of_shared hne hname h
  · exact ownKey_of_dotFree h.1 h.2

/-- not every pair is a key of its own: what is given to `c` in the namespace `a.b` is found under `b.c` in `a` -/
theorem dotted_pairs_share :
    (after .empty [.set "a.b" "c" (.nat 1)]).read "a" "b.c" = some (.nat 1) ∧ ¬ ∀ space key, OwnKey space key := by
  have hname : qualified "a.b" "c" = qualified "a" "b.c" := by decide
  refine ⟨read_after_of_last .empty [] (.set "a.b" "c" (.nat 1)) [] hname (fun o ho => nomatch ho),
    fun hown => ?_⟩
  exact not_ownKey_of_shared (by decide) hname (hown "a" "b.c")

end ScriptBridge.Store
