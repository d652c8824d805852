/-
Keys of TOML documents. However a document gives its tables (by headers, dotted keys, arrays of tables or between
braces), no table in it holds a key twice, at any depth. So the value that a table has for a key is one value, whichever
way it is looked up.

- `Unrepeated`: a value holds no key twice; `Item.Unrepeated` says so while a document is read.
- `assign_unrepeated`, `changeAt_unrepeated`, `addTables_unrepeated`: what the statements of a document make.
- `readers_unrepeated`: what the readers of values make, in an induction over all three of them.
- `parse?_unrepeated`: the document.
-/
import ScriptBridge.Proofs.Table
import ScriptBridge.Toml.Reader

namespace ScriptBridge.Toml

open Table

/-- a value that holds no other values -/
def IsScalar : Toml → Prop
  | .array _ => False
  | .table _ => False
  | _ => True

/-- a value holds no key twice, at any depth -/
inductive Unrepeated : Toml → Prop where
  | scalar {v : Toml} (scalar : v.IsScalar) : Unrepeated v
  | array {items : List Toml} (inside : ∀ v ∈ items, Unrepeated v) : Unrepeated (.array items)
  | table {entries : List (String × Toml)} (keys : (entries.map Prod.fst).Nodup)
      (inside : ∀ e ∈ entries, Unrepeated e.2) : Unrepeated (.table entries)

/-- what a key stands for holds no key twice, at any depth -/
inductive Item.Unrepeated : Item → Prop where
  | value {v : Toml} (inside : v.Unrepeated) : Item.Unrepeated (.value v)
  | table {origin : Origin} {entries : Entries} (keys : (entries.map Prod.fst).Nodup)
      (inside : ∀ e ∈ entries, Item.Unrepeated e.2) : Item.Unrepeated (.table origin entries)
  | tables {items : List Item} (inside : ∀ item ∈ items, Item.Unrepeated item) : Item.Unrepeated (.tables items)

/-- the entries of a table hold no key twice, at any depth -/
structure Entries.Unrepeated (entries : Entries) : Prop where
  keys : (entries.map Prod.fst).Nodup
  inside : ∀ e ∈ entries, e.2.Unrepeated

namespace Entries.Unrepeated

theorem nil : Entries.Unrepeated [] := ⟨List.nodup_nil, by simp⟩

theorem table {entries : Entries} (h : entries.Unrepeated) (origin : Origin) :
    Item.Unrepeated (.table origin entries) := .table h.keys h.inside

theorem of_table {origin : Origin} {entries : Entries} (h : Item.Unrepeated (.table origin entries)) :
    entries.Unrepeated := by
  cases h with
  | table keys inside => exact ⟨keys, inside⟩

theorem put {entries : Entries} (h : entries.Unrepeated) (name : String) {item : Item} (hitem : item.Unrepeated) :
    Entries.Unrepeated (putEntry name item entries) := by
  refine ⟨Distinct.put (t := ⟨entries⟩) h.keys name item, fun e he => ?_⟩
  rcases mem_putEntry he with rfl | he
  · exact hitem
  · exact h.inside e he

theorem found {entries : Entries} (h : entries.Unrepeated) {name : String} {item : Item}
    (hf : find? name entries = some item) : item.Unrepeated :=
  h.inside _ (mem_of_find? hf)

end Entries.Unrepeated

/-! ## Tables under way -/

theorem changeLast_unrepeated {f : Item → Option Item}
    (hf : ∀ i j, i.Unrepeated → f i = some j → j.Unrepeated) (items : List Item) :
    ∀ changed, (∀ i ∈ items, i.Unrepeated) → changeLast f items = some changed → ∀ i ∈ changed, i.Unrepeated := by
  induction items with
  | nil =>
    intro changed _ h
    cases h
  | cons first rest ih =>
    intro changed hitems h
    cases rest with
    | nil =>
      obtain ⟨last, hlast, rfl⟩ := Option.map_eq_some_iff.1 h
      intro i hi
      rw [List.mem_singleton.1 hi]
      exact hf first last (hitems first List.mem_cons_self) hlast
    | cons second rest =>
      obtain ⟨more, hmore, rfl⟩ := Option.map_eq_some_iff.1 h
      obtain ⟨hfirst, hrest⟩ := List.forall_mem_cons.1 hitems
      exact List.forall_mem_cons.2 ⟨hfirst, ih more hrest hmore⟩

/-- a change of the last table of an array of tables -/
theorem lastTable_unrepeated {g : Origin → Entries → Option Item}
    (hg : ∀ origin es made, es.Unrepeated → g origin es = some made → made.Unrepeated) {items : List Item}
    (hitems : Item.Unrepeated (.tables items)) {item : Item}
    (h : (changeLast (fun
      | .table origin es => g origin es
      | _ => none) items).map .tables = some item) : item.Unrepeated := by
  obtain ⟨changed, hchanged, rfl⟩ := Option.map_eq_some_iff.1 h
  cases hitems with
  | tables inside =>
    refine .tables (changeLast_unrepeated (fun i j hi hj => ?_) items changed inside hchanged)
    split at hj
    · next origin es => exact hg origin es j (.of_table hi) hj
    · cases hj

theorem assign_unrepeated {value : Toml} (hvalue : value.Unrepeated) (path : List String) :
    ∀ (takes : Bool) (entries made : Entries), entries.Unrepeated → assign value takes path entries = some made →
      made.Unrepeated := by
  induction path with
  | nil =>
    intro takes entries made _ h
    cases h
  | cons name rest ih =>
    intro takes entries made hentries h
    have inner (origin : Origin) (takes : Bool) (es : Entries) (hes : es.Unrepeated) (item : Item)
        (hitem : (assign value takes rest es).map (Item.table origin) = some item) : item.Unrepeated := by
      obtain ⟨es', hes', rfl⟩ := Option.map_eq_some_iff.1 hitem
      exact (ih takes es es' hes hes').table origin
    cases rest with
    | nil =>
      simp only [assign] at h
      split at h
      · cases h
        exact hentries.put name (.value hvalue)
      · cases h
    | cons second rest =>
      obtain ⟨item, hitem, rfl⟩ := Option.map_eq_some_iff.1 h
      refine hentries.put name ?_
      split at hitem
      · exact inner _ _ _ .nil item hitem
      · cases hitem
      · next origin es hne hf => exact inner _ _ _ (.of_table (hentries.found hf)) item hitem
      · next items hf =>
        exact lastTable_unrepeated (fun origin es made hes => inner origin _ es hes made) (hentries.found hf) hitem
      · cases hitem

/-- a list of keys with values that hold no key twice -/
def KeysUnrepeated (keys : List (List String × Toml)) : Prop := ∀ k ∈ keys, k.2.Unrepeated

theorem assignAll_unrepeated (keys : List (List String × Toml)) (hkeys : KeysUnrepeated keys) :
    ∀ entries made : Entries, entries.Unrepeated → assignAll keys entries = some made → made.Unrepeated := by
  induction keys with
  | nil =>
    intro entries made hentries h
    cases h
    exact hentries
  | cons key keys ih =>
    intro entries made hentries h
    obtain ⟨hkey, hrest⟩ := List.forall_mem_cons.1 hkeys
    obtain ⟨es, hes, h⟩ := Option.bind_eq_some_iff.1 h
    exact ih hrest es made (assign_unrepeated hkey key.1 true entries es hentries hes) h

/-! ## Tables that headers open -/

theorem openTable_unrepeated {keys : List (List String × Toml)} (hkeys : KeysUnrepeated keys) (name : String)
    (entries made : Entries) (hentries : entries.Unrepeated) (h : openTable keys name entries = some made) :
    made.Unrepeated := by
  -- the table is put at the end of entries that lack its name
  have atEnd (others es : Entries) (hothers : others.Unrepeated) (hname : name ∉ others.map Prod.fst)
      (hes : es.Unrepeated) : Entries.Unrepeated (others ++ [(name, .table .explicit es)]) := by
    refine ⟨?_, ?_⟩
    · rw [List.map_append, List.map_singleton, ← List.concat_eq_append]
      exact hothers.keys.concat hname
    · intro e he
      rcases List.mem_append.1 he with he | he
      · exact hothers.inside e he
      · rw [List.mem_singleton.1 he]
        exact hes.table .explicit
  unfold openTable at h
  split at h
  · next hf =>
    obtain ⟨es, hes, rfl⟩ := Option.map_eq_some_iff.1 h
    refine atEnd entries es hentries (fun hname => ?_) (assignAll_unrepeated keys hkeys [] es .nil hes)
    obtain ⟨⟨_, item⟩, he, rfl⟩ := List.mem_map.1 hname
    exact find?_eq_none_iff.1 hf item he
  · next es₀ hf =>
    obtain ⟨es, hes, rfl⟩ := Option.map_eq_some_iff.1 h
    have hothers : Entries.Unrepeated (entries.filter fun e => e.1 != name) :=
      ⟨hentries.keys.sublist (List.filter_sublist.map Prod.fst),
        fun e he => hentries.inside e (List.mem_of_mem_filter he)⟩
    refine atEnd _ es hothers (fun hname => ?_)
      (assignAll_unrepeated keys hkeys es₀ es (.of_table (hentries.found hf)) hes)
    obtain ⟨e, he, rfl⟩ := List.mem_map.1 hname
    simpa using List.of_mem_filter he
  · cases h

theorem openElement_unrepeated {keys : List (List String × Toml)} (hkeys : KeysUnrepeated keys) (name : String)
    (entries made : Entries) (hentries : entries.Unrepeated) (h : openElement keys name entries = some made) :
    made.Unrepeated := by
  have element (es : Entries) (hes : assignAll keys [] = some es) : Item.Unrepeated (.table .explicit es) :=
    (assignAll_unrepeated keys hkeys [] es .nil hes).table .explicit
  unfold openElement at h
  split at h
  · obtain ⟨es, hes, rfl⟩ := Option.map_eq_some_iff.1 h
    exact hentries.put name (.tables (by simpa using element es hes))
  · next items hf =>
    obtain ⟨es, hes, rfl⟩ := Option.map_eq_some_iff.1 h
    refine hentries.put name (.tables fun item hitem => ?_)
    cases hentries.found hf with
    | tables hitems =>
      rcases List.mem_append.1 hitem with hitem | hitem
      · exact hitems item hitem
      · rw [List.mem_singleton.1 hitem]
        exact element es hes
  · cases h

theorem changeAt_unrepeated {f : String → Entries → Option Entries}
    (hf : ∀ name entries made, entries.Unrepeated → f name entries = some made → made.Unrepeated)
    (path : List String) :
    ∀ entries made : Entries, entries.Unrepeated → changeAt f path entries = some made → made.Unrepeated := by
  induction path with
  | nil =>
    intro entries made _ h
    cases h
  | cons name rest ih =>
    intro entries made hentries h
    have inner (origin : Origin) (es : Entries) (hes : es.Unrepeated) (item : Item)
        (hitem : (changeAt f rest es).map (Item.table origin) = some item) : item.Unrepeated := by
      obtain ⟨es', hes', rfl⟩ := Option.map_eq_some_iff.1 hitem
      exact (ih es es' hes hes').table origin
    cases rest with
    | nil => exact hf name entries made hentries h
    | cons second rest =>
      obtain ⟨item, hitem, rfl⟩ := Option.map_eq_some_iff.1 h
      refine hentries.put name ?_
      split at hitem
      · exact inner _ _ .nil item hitem
      · next origin es hfound => exact inner _ _ (.of_table (hentries.found hfound)) item hitem
      · next items hfound =>
        exact lastTable_unrepeated (fun origin es made hes => inner origin es hes made) (hentries.found hfound) hitem
      · cases hitem

/-- a statement whose value, if it has one, holds no key twice -/
def Statement.Unrepeated : Statement → Prop
  | .key _ value => value.Unrepeated
  | _ => True

/-- the keys at the start of some statements, and the statements after them -/
theorem leadingKeys_unrepeated (l : List Statement) (h : ∀ s ∈ l, s.Unrepeated) :
    KeysUnrepeated (leadingKeys l).1 ∧ ∀ s ∈ (leadingKeys l).2, s.Unrepeated := by
  induction l with
  | nil => exact ⟨by simp [leadingKeys, KeysUnrepeated], by simp [leadingKeys]⟩
  | cons s l ih =>
    obtain ⟨hs, hl⟩ := List.forall_mem_cons.1 h
    cases s with
    | key path value =>
      obtain ⟨hkeys, hrest⟩ := ih hl
      exact ⟨List.forall_mem_cons.2 ⟨hs, hkeys⟩, hrest⟩
    | header path => exact ⟨by simp [leadingKeys, KeysUnrepeated], h⟩
    | arrayHeader path => exact ⟨by simp [leadingKeys, KeysUnrepeated], h⟩

theorem addTables_unrepeated (entries : Entries) (l : List Statement) :
    ∀ made, (∀ s ∈ l, s.Unrepeated) → entries.Unrepeated → addTables entries l = some made → made.Unrepeated := by
  induction entries, l using addTables.induct with
  | case1 entries =>
    intro made _ hentries h
    rw [addTables] at h
    cases h
    exact hentries
  | case2 =>
    intro made _ _ h
    rw [addTables] at h
    cases h
  | case3 entries path rest es hes ih =>
    intro made hl hentries h
    rw [addTables, hes] at h
    obtain ⟨hkeys, hrest⟩ := leadingKeys_unrepeated rest (List.forall_mem_cons.1 hl).2
    exact ih made hrest (changeAt_unrepeated (openTable_unrepeated hkeys) path entries es hentries hes) h
  | case4 entries path rest hes =>
    intro made _ _ h
    rw [addTables, hes] at h
    cases h
  | case5 entries path rest es hes ih =>
    intro made hl hentries h
    rw [addTables, hes] at h
    obtain ⟨hkeys, hrest⟩ := leadingKeys_unrepeated rest (List.forall_mem_cons.1 hl).2
    exact ih made hrest (changeAt_unrepeated (openElement_unrepeated hkeys) path entries es hentries hes) h
  | case6 entries path rest hes =>
    intro made _ _ h
    rw [addTables, hes] at h
    cases h

/-! ## Items as values -/

theorem itemsToToml_eq_map (items : List Item) : itemsToToml items = items.map Item.toToml := by
  induction items with
  | nil => rfl
  | cons item rest ih => rw [itemsToToml, ih, List.map_cons]

theorem entriesToToml_eq_map (entries : Entries) : entriesToToml entries = entries.map fun e => (e.1, e.2.toToml) := by
  induction entries with
  | nil => rfl
  | cons e rest ih =>
    obtain ⟨key, item⟩ := e
    rw [entriesToToml, ih, List.map_cons]

theorem keys_entriesToToml (entries : Entries) : (entriesToToml entries).map Prod.fst = entries.map Prod.fst := by
  rw [entriesToToml_eq_map, List.map_map]
  rfl

theorem Item.toToml_unrepeated (item : Item) (h : item.Unrepeated) : item.toToml.Unrepeated := by
  induction h with
  | value inside => exact inside
  | @table origin entries keys inside ih =>
    refine .table (keys_entriesToToml entries ▸ keys) fun e he => ?_
    rw [entriesToToml_eq_map] at he
    obtain ⟨entry, hentry, rfl⟩ := List.mem_map.1 he
    exact ih entry hentry
  | @tables items inside ih =>
    refine .array fun v hv => ?_
    rw [itemsToToml_eq_map] at hv
    obtain ⟨item, hitem, rfl⟩ := List.mem_map.1 hv
    exact ih item hitem

theorem entriesToToml_unrepeated (entries : Entries) (h : entries.Unrepeated) :
    Toml.Unrepeated (.table (entriesToToml entries)) :=
  Item.toToml_unrepeated _ (h.table .explicit)

/-! ## Readers of values -/

theorem readNumber_scalar {text rest : List Char} {v : Toml} (h : readNumber text = some (v, rest)) : v.IsScalar := by
  simp only [readNumber] at h
  split at h
  · cases h
    trivial
  · obtain ⟨f, -, hv⟩ := Option.map_eq_some_iff.1 h
    cases hv
    trivial

theorem readScalar_scalar {text rest : List Char} {v : Toml} (h : readScalar text = some (v, rest)) : v.IsScalar := by
  rw [readScalar] at h
  split at h
  · obtain ⟨m, -, hv⟩ := Option.map_eq_some_iff.1 h
    cases hv
    trivial
  · split at h
    · obtain ⟨t, -, hv⟩ := Option.map_eq_some_iff.1 h
      cases hv
      trivial
    · exact readNumber_scalar h

theorem ofKeys?_unrepeated {keys : List (List String × Toml)} (hkeys : KeysUnrepeated keys) {v : Toml}
    (h : ofKeys? keys = some v) : v.Unrepeated := by
  obtain ⟨es, hes, rfl⟩ := Option.map_eq_some_iff.1 h
  exact entriesToToml_unrepeated es (assignAll_unrepeated keys hkeys [] es .nil hes)

/-- the three readers of values call each other, so all of them are in one induction on the bound of their number -/
theorem readers_unrepeated (fuel : Nat) :
    (∀ depth text v rest, readValue fuel depth text = some (v, rest) → v.Unrepeated) ∧
    (∀ depth read text v rest, (∀ item ∈ read, Unrepeated item) → readItems fuel depth read text = some (v, rest) →
      v.Unrepeated) ∧
    (∀ depth read text v rest, KeysUnrepeated read → readPairs fuel depth read text = some (v, rest) →
      v.Unrepeated) := by
  induction fuel with
  | zero =>
    refine ⟨fun depth text v rest h => ?_, fun depth read text v rest _ h => ?_, fun depth read text v rest _ h => ?_⟩
    · simp [readValue] at h
    · simp [readItems] at h
    · simp [readPairs] at h
  | succ fuel ih =>
    obtain ⟨ihValue, ihItems, ihPairs⟩ := ih
    refine ⟨fun depth text v rest h => ?_, fun depth read text v rest hread h => ?_,
      fun depth read text v rest hread h => ?_⟩
    · rw [readValue.eq_def] at h
      simp only at h
      split at h
      · cases h
        exact .scalar trivial
      · cases h
        exact .scalar trivial
      · split at h
        · cases h
        · exact ihItems _ [] _ v rest (by simp) h
      · split at h
        · cases h
        · split at h
          · cases h
            exact .table List.nodup_nil (by simp)
          · exact ihPairs _ [] _ v rest (by simp [KeysUnrepeated]) h
      · split at h
        · obtain ⟨s, -, hv⟩ := Option.map_eq_some_iff.1 h
          cases hv
          exact .scalar trivial
        · exact .scalar (readScalar_scalar h)
      · cases h
    · rw [readItems.eq_def] at h
      simp only at h
      split at h
      · cases h
      · cases h
        exact .array fun item hitem => hread item (List.mem_reverse.1 hitem)
      · split at h
        · cases h
        · next item more hitem =>
          have hmore : ∀ i ∈ item :: read, Unrepeated i :=
            List.forall_mem_cons.2 ⟨ihValue _ _ item more hitem, hread⟩
          split at h
          · exact ihItems _ _ _ v rest hmore h
          · cases h
            exact .array fun i hi => hmore i (List.mem_reverse.1 hi)
          · cases h
    · rw [readPairs.eq_def] at h
      simp only at h
      split at h
      · next path rest _ =>
        split at h
        · cases h
        · next value more hvalue =>
          have hmore : KeysUnrepeated ((path, value) :: read) :=
            List.forall_mem_cons.2 ⟨ihValue _ _ value more hvalue, hread⟩
          split at h
          · exact ihPairs _ _ _ v _ hmore h
          · obtain ⟨t, ht, hv⟩ := Option.map_eq_some_iff.1 h
            cases hv
            exact ofKeys?_unrepeated (fun k hk => hmore k (List.mem_reverse.1 hk)) ht
          · cases h
      · cases h

/-! ## Statements -/

theorem readStatement_unrepeated {text rest : List Char} {s : Statement} (h : readStatement text = some (s, rest)) :
    s.Unrepeated := by
  unfold readStatement at h
  split at h
  · obtain ⟨⟨path, more⟩, -, h⟩ := Option.bind_eq_some_iff.1 h
    simp only [Option.bind_eq_bind, Option.bind_eq_some_iff, Option.pure_def, Option.some.injEq, Prod.mk.injEq] at h
    obtain ⟨_, -, _, -, _, -, rfl, -⟩ := h
    trivial
  · obtain ⟨⟨path, more⟩, -, h⟩ := Option.bind_eq_some_iff.1 h
    simp only [Option.bind_eq_bind, Option.bind_eq_some_iff, Option.pure_def, Option.some.injEq, Prod.mk.injEq] at h
    obtain ⟨_, -, _, -, rfl, -⟩ := h
    trivial
  · obtain ⟨⟨path, more⟩, -, h⟩ := Option.bind_eq_some_iff.1 h
    simp only [Option.bind_eq_bind, Option.bind_eq_some_iff, Option.pure_def, Option.some.injEq, Prod.mk.injEq] at h
    obtain ⟨_, -, ⟨value, after⟩, hvalue, _, -, rfl, -⟩ := h
    exact (readers_unrepeated _).1 _ _ value after hvalue

theorem readStatements_unrepeated (fuel : Nat) :
    ∀ (text : List Char) (statements : List Statement), readStatements fuel text = some statements →
      ∀ s ∈ statements, s.Unrepeated := by
  induction fuel with
  | zero =>
    intro text statements h
    cases h
  | succ fuel ih =>
    intro text statements h
    rw [readStatements] at h
    split at h
    · cases h
      simp
    · split at h
      · obtain ⟨rest, -, h⟩ := Option.bind_eq_some_iff.1 h
        exact ih rest statements h
      · obtain ⟨⟨first, rest⟩, hfirst, h⟩ := Option.bind_eq_some_iff.1 h
        obtain ⟨more, hmore, h⟩ := Option.bind_eq_some_iff.1 h
        cases h
        exact List.forall_mem_cons.2 ⟨readStatement_unrepeated hfirst, ih rest more hmore⟩

theorem ofStatements?_unrepeated {statements : List Statement} (hs : ∀ s ∈ statements, s.Unrepeated)
    {entries : List (String × Toml)} (h : ofStatements? statements = some entries) :
    Toml.Unrepeated (.table entries) := by
  obtain ⟨hkeys, hrest⟩ := leadingKeys_unrepeated statements hs
  obtain ⟨top, htop, h⟩ := Option.bind_eq_some_iff.1 h
  obtain ⟨all, hall, h⟩ := Option.bind_eq_some_iff.1 h
  cases h
  have htop' : Entries.Unrepeated top := assignAll_unrepeated _ hkeys [] top .nil htop
  exact entriesToToml_unrepeated all (addTables_unrepeated top _ all hrest htop' hall)

/-! ## Moments -/

theorem momentsInItems?_eq_some {items made : List Toml} (h : momentsInItems? items = some made) :
    List.Forall₂ (fun v w => moments? v = some w) items made := by
  induction items generalizing made with
  | nil =>
    cases h
    exact .nil
  | cons item rest ih =>
    rw [momentsInItems?] at h
    split at h
    · next v vs hv hvs =>
      cases h
      exact .cons hv (ih hvs)
    · cases h

theorem momentsInEntries?_eq_some {entries made : List (String × Toml)} (h : momentsInEntries? entries = some made) :
    List.Forall₂ (fun e f => e.1 = f.1 ∧ moments? e.2 = some f.2) entries made := by
  induction entries generalizing made with
  | nil =>
    cases h
    exact .nil
  | cons e rest ih =>
    obtain ⟨key, value⟩ := e
    rw [momentsInEntries?] at h
    split at h
    · next v vs hv hvs =>
      cases h
      exact .cons ⟨rfl, hv⟩ (ih hvs)
    · cases h

theorem exists_of_mem_right {α β : Type} {R : α → β → Prop} {l : List α} {m : List β} (h : List.Forall₂ R l m) {b : β}
    (hb : b ∈ m) : ∃ a ∈ l, R a b := by
  induction h with
  | nil => cases hb
  | cons hr _ ih =>
    rcases List.mem_cons.1 hb with rfl | hb
    · exact ⟨_, List.mem_cons_self, hr⟩
    · obtain ⟨a, ha, hr⟩ := ih hb
      exact ⟨a, List.mem_cons_of_mem _ ha, hr⟩

/-- making moments of values leaves the keys of a table as they are -/
theorem table_of_moments {entries made : List (String × Toml)}
    (h : List.Forall₂ (fun e f => e.1 = f.1 ∧ moments? e.2 = some f.2) entries made)
    (keys : (entries.map Prod.fst).Nodup)
    (inside : ∀ e ∈ entries, ∀ w, moments? e.2 = some w → w.Unrepeated) : Unrepeated (.table made) := by
  have hkeys : made.map Prod.fst = entries.map Prod.fst := by
    clear keys inside
    induction h with
    | nil => rfl
    | cons hr _ ih => rw [List.map_cons, List.map_cons, ih, hr.1]
  refine .table (hkeys ▸ keys) fun f hf => ?_
  obtain ⟨e, he, -, hmoments⟩ := exists_of_mem_right h hf
  exact inside e he f.2 hmoments

theorem moments?_unrepeated (v : Toml) (h : v.Unrepeated) : ∀ w, moments? v = some w → w.Unrepeated := by
  induction h with
  | @scalar v hscalar =>
    intro w hw
    cases v with
    | array items => exact hscalar.elim
    | table entries => exact hscalar.elim
    | _ =>
      simp only [moments?, Option.some.injEq] at hw
      exact hw ▸ .scalar trivial
  | @array items inside ih =>
    intro w hw
    rw [moments?] at hw
    obtain ⟨made, hmade, rfl⟩ := Option.map_eq_some_iff.1 hw
    refine .array fun x hx => ?_
    obtain ⟨v, hv, hvx⟩ := exists_of_mem_right (momentsInItems?_eq_some hmade) hx
    exact ih v hv x hvx
  | @table entries keys inside ih =>
    intro w hw
    cases entries with
    | nil =>
      simp only [moments?, Option.some.injEq] at hw
      exact hw ▸ .table keys inside
    | cons e rest =>
      obtain ⟨key, value⟩ := e
      rw [moments?.eq_def] at hw
      simp only at hw
      split at hw
      · split at hw
        · obtain ⟨m, -, rfl⟩ := Option.map_eq_some_iff.1 hw
          exact .scalar trivial
        · cases hw
      · split at hw
        · next x made hx hmade =>
          cases hw
          have hall : List.Forall₂ (fun e f => e.1 = f.1 ∧ moments? e.2 = some f.2) ((key, value) :: rest)
              ((key, x) :: made) := .cons ⟨rfl, hx⟩ (momentsInEntries?_eq_some hmade)
          exact table_of_moments hall keys ih
        · cases hw

/-! ## Documents -/

/-- **No table of a document holds a key twice**, at any depth -/
theorem parse?_unrepeated (text : String) (entries : List (String × Toml)) (h : parse? text = some entries) :
    Toml.Unrepeated (.table entries) := by
  obtain ⟨made, hmade, hmoments⟩ := Option.bind_eq_some_iff.1 h
  obtain ⟨statements, hstatements, hmade⟩ := Option.bind_eq_some_iff.1 hmade
  have hread : ∀ s ∈ statements, s.Unrepeated := readStatements_unrepeated _ _ statements hstatements
  cases ofStatements?_unrepeated hread hmade with
  | scalar hscalar => exact hscalar.elim
  | table keys inside =>
    exact table_of_moments (momentsInEntries?_eq_some hmoments) keys fun e he => moments?_unrepeated e.2 (inside e he)

end ScriptBridge.Toml
