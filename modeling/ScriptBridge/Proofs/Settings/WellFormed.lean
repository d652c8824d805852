/-
What every configuration meets, whatever the settings hold. Settings are arbitrary values under the keys of the options;
none is refused, so what can be relied on is what resolving makes of them.

- `Configuration.WellFormed`: sizes are positive and fit 32 bits, the executable is named without blanks around it, and
  so is every rule, each of them once.
- `Lists`, `FirstOccurrences`: what a setting lists, and what it means to keep the first of each item;
  `order_keepFirst`: the accumulator of `keepFirst` keeps the order of first occurrences.
- `rulesOf_readRules`: the rules of a setting are what it lists, trimmed, each where it first stands.
- `resolved_wellFormed`: every resolved configuration, and every snapshot of a host at work, is of this kind.
-/
import ScriptBridge.Proofs.Session.Invocations
import ScriptBridge.Proofs.Settings.Rules
import ScriptBridge.Proofs.Text.Trimming

namespace ScriptBridge

open Text

/-! ## The first of each -/

/-- a list holds the items of another one and no others, in the order in which they first occur there -/
structure FirstOccurrences {α : Type} [BEq α] (items kept : List α) : Prop where
  mem : ∀ x, x ∈ kept ↔ x ∈ items
  order : kept.Pairwise fun x y => items.idxOf x < items.idxOf y

/-- more items at the end leave the order of those that stood before -/
theorem order_append {α : Type} [BEq α] [LawfulBEq α] {items kept : List α} (more : List α)
    (hmem : ∀ x ∈ kept, x ∈ items) (horder : kept.Pairwise fun x y => items.idxOf x < items.idxOf y) :
    kept.Pairwise fun x y => (items ++ more).idxOf x < (items ++ more).idxOf y := by
  refine horder.imp_of_mem fun {x y} hx hy hlt => ?_
  rwa [List.idxOf_append_of_mem (hmem x hx), List.idxOf_append_of_mem (hmem y hy)]

/-- what `keepFirst` has kept of the items `seen` so far stands in the order of their first occurrence, and so does what
it keeps of all items -/
theorem order_keepFirst (seen kept items : List (List Char)) (hmem : ∀ x, x ∈ kept ↔ x ∈ seen)
    (horder : kept.Pairwise fun x y => seen.idxOf x < seen.idxOf y) :
    (keepFirst kept items).Pairwise fun x y => (seen ++ items).idxOf x < (seen ++ items).idxOf y := by
  induction items generalizing seen kept with
  | nil => simpa [keepFirst] using horder
  | cons item rest ih =>
    have hkept : kept.Pairwise fun x y => (seen ++ [item]).idxOf x < (seen ++ [item]).idxOf y :=
      order_append [item] (fun x hx => (hmem x).1 hx) horder
    rw [keepFirst, List.append_cons]
    split
    · next hitem =>
      refine ih (seen ++ [item]) kept (fun x => ?_) hkept
      rw [hmem, List.mem_append, List.mem_singleton, or_iff_left_of_imp]
      rintro rfl
      exact (hmem x).1 hitem
    · next hitem =>
      have hnew : item ∉ seen := fun h => hitem ((hmem item).2 h)
      refine ih (seen ++ [item]) (kept ++ [item]) (fun x => ?_) ?_
      · rw [List.mem_append, List.mem_append, hmem]
      · -- the new item first occurs behind everything that was seen
        refine List.pairwise_append.2 ⟨hkept, List.pairwise_singleton _ _, fun x hx y hy => ?_⟩
        obtain rfl := List.mem_singleton.1 hy
        have hseen : x ∈ seen := (hmem x).1 hx
        rw [List.idxOf_append_of_mem hseen, List.idxOf_append_of_notMem hnew]
        exact Nat.lt_add_right _ (List.idxOf_lt_length_of_mem hseen)

theorem firstOccurrences_keepFirst (items : List (List Char)) : FirstOccurrences items (keepFirst [] items) where
  mem x := by simp [mem_keepFirst]
  order := order_keepFirst [] [] items (fun _ => Iff.rfl) List.Pairwise.nil

/-! ## The rules of a setting -/

/-- what a setting lists: a string its pieces between commas, an array its strings, any other value nothing -/
inductive Lists : Option Json → List (List Char) → Prop where
  | text {s : String} {pieces : List (List Char)} : pieces ≠ [] → (∀ piece ∈ pieces, ',' ∉ piece) →
      joinWith ',' pieces = s.toList → Lists (some (.string s)) pieces
  | strings {items : List Json} :
      Lists (some (.array items)) ((items.filterMap Json.string?).map String.toList)
  | nothing {value : Option Json} : (∀ s, value ≠ some (.string s)) → (∀ items, value ≠ some (.array items)) →
      Lists value []

theorem lists_rawRules (value : Option Json) : Lists value (rawRules value) := by
  match value with
  | some (.string s) => exact .text (splitOn_ne_nil _ _) (splitOn_free _ _) (join_splitOn _ _)
  | some (.array items) => exact .strings
  | none => exact .nothing (fun _ => nofun) fun _ => nofun
  | some .null => exact .nothing (fun _ => nofun) fun _ => nofun
  | some (.bool _) => exact .nothing (fun _ => nofun) fun _ => nofun
  | some (.number _) => exact .nothing (fun _ => nofun) fun _ => nofun
  | some (.object _) => exact .nothing (fun _ => nofun) fun _ => nofun

/-- some rules are those of a setting: what it lists, without the blanks around each item and without items of which
nothing is left, in the order of their first occurrence -/
def RulesOf (value : Option Json) (rules : List String) : Prop :=
  ∃ listed segments, Lists value listed ∧ List.Forall₂ TrimsTo listed segments ∧
    FirstOccurrences (segments.filter fun segment => segment ≠ []) (rules.map String.toList)

theorem rulesOf_readRules (value : Option Json) : RulesOf value (readRules value) := by
  refine ⟨rawRules value, (rawRules value).map trim, lists_rawRules value, ?_, ?_⟩
  · rw [List.forall₂_map_right_iff, List.forall₂_same]
    exact fun listed _ => trimsTo_trim listed
  · have hread : (readRules value).map String.toList =
        keepFirst [] (((rawRules value).map trim).filter fun segment => segment ≠ []) := by
      have hfilter : (fun rule : List Char => !rule.isEmpty) = fun segment => decide (segment ≠ []) := by
        funext rule
        cases rule <;> rfl
      simp [readRules, Function.comp_def, hfilter]
    rw [hread]
    exact firstOccurrences_keepFirst _

/-- a rule is not empty and has no blanks around it -/
theorem tight_readRules (value : Option Json) (rule : String) (h : rule ∈ readRules value) :
    rule ≠ "" ∧ Tight rule.toList := by
  obtain ⟨hne, listed, -, htrim⟩ := (mem_readRules value rule).1 h
  exact ⟨hne, htrim ▸ tight_trim listed⟩

/-! ## Sizes and the executable -/

theorem readCount_fits (value : Option Json) (default : Nat) (hdefault : 1 ≤ default ∧ default ≤ 4294967295) :
    1 ≤ readCount value default ∧ readCount value default ≤ 4294967295 := by
  unfold readCount
  split
  · split
    · split
      · next hfits => exact ⟨hfits.1, Nat.le_of_lt_succ hfits.2⟩
      · exact hdefault
    · exact hdefault
  · exact hdefault

theorem readPath_tight (value : Option Json) (default : String) (hdefault : default ≠ "" ∧ Tight default.toList) :
    readPath value default ≠ "" ∧ Tight (readPath value default).toList := by
  unfold readPath
  split
  · next s =>
    split
    · exact hdefault
    · next hne =>
      refine ⟨fun hempty => hne (by rw [hempty]; rfl), ?_⟩
      rw [trimmed, String.toList_ofList]
      exact tight_trim _
  · exact hdefault

theorem tight_default : "gdscript-formatter" ≠ "" ∧ Tight "gdscript-formatter".toList := by
  refine ⟨by decide, fun c hc => ?_, fun c hc => ?_⟩
  · cases hc
    decide
  · cases hc
    decide

/-! ## Main result -/

/-- what can be relied on in a configuration -/
structure Configuration.WellFormed (c : Configuration) : Prop where
  indentSize : 1 ≤ c.indentSize ∧ c.indentSize ≤ 4294967295
  maxLineLength : 1 ≤ c.maxLineLength ∧ c.maxLineLength ≤ 4294967295
  executablePath : c.executablePath ≠ "" ∧ Tight c.executablePath.toList
  rules_nodup : c.ignoredRules.Nodup
  rules_tight : ∀ rule ∈ c.ignoredRules, rule ≠ "" ∧ Tight rule.toList

theorem wellFormed_ofSettings (lookup : SettingKey → Option Json) : (Configuration.ofSettings lookup).WellFormed where
  indentSize := readCount_fits _ _ (by decide)
  maxLineLength := readCount_fits _ _ (by decide)
  executablePath := readPath_tight _ _ tight_default
  rules_nodup := nodup_readRules _
  rules_tight := tight_readRules _

/-- **Every configuration is well-formed.** Whatever values stand under the keys of the options, of the right type or
not, the configuration that is resolved from them is well-formed, and its rules are those of the setting that lists
them. So is the snapshot of a host after any events: it was resolved from the store as it was after some first part of
them. -/
theorem resolved_wellFormed :
    (∀ lookup : SettingKey → Option Json,
      let c := Configuration.ofSettings lookup
      c.WellFormed ∧ RulesOf (lookup .ignoredRules) c.ignoredRules) ∧
    (∀ (root : Path) (store : Store) (builtIn : String) (events : List Event),
      let c := ((Host.create root store builtIn).run events).session.config
      c.WellFormed ∧ ∃ before, before <+: events ∧ c = (storeAfter store before).resolve ∧
        RulesOf ((storeAfter store before).read settingsNamespace SettingKey.ignoredRules.name) c.ignoredRules) := by
  refine ⟨fun lookup => ⟨wellFormed_ofSettings lookup, rulesOf_readRules _⟩, fun root store builtIn events => ?_⟩
  intro c
  obtain ⟨-, -, hconfig⟩ := Host.settings_run root store builtIn events
  let before := events.rdropWhile fun e => !e.resolves
  have hc : c = (storeAfter store before).resolve := hconfig
  refine ⟨?_, before, List.rdropWhile_prefix _ _, hc, ?_⟩
  · rw [hc]
    exact wellFormed_ofSettings fun key => (storeAfter store before).read settingsNamespace key.name
  · rw [hc]
    exact rulesOf_readRules _

end ScriptBridge
