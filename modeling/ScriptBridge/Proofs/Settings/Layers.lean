/-
What the settings of two files are after a reload. A qualified name whose two parts hold no dot belongs to one namespace
and one key only, so a value under such a name comes from one entry of one table; the names of all options are of this
kind. So each option is read from the environment, else from the project's file, else from the user's, key by key, and
nothing else in the files counts.

- `read_ofDocument`: what the settings of a document are.
- `FileHolds`, `FileBroken`: what a settings file holds, and how it fails; `loadLayer_of_holds`, `loadLayer_of_broken`.
- `reload_layers`: where each option comes from.
-/
import ScriptBridge.Proofs.Settings.QualifiedNames
import ScriptBridge.Proofs.Table
import ScriptBridge.Proofs.Toml.DistinctKeys
import ScriptBridge.Settings.Layers
import ScriptBridge.Tool.Command

namespace ScriptBridge

/-! ## Documents -/

namespace Toml

/-- the value of a key in a table of a document -/
def lookup? (entries : List (String × Toml)) (space key : String) : Option Toml :=
  match Table.find? space entries with
  | some (.table keys) => Table.find? key keys
  | _ => none

theorem lookup?_eq_some_iff {entries : List (String × Toml)} (h : Unrepeated (.table entries)) {space key : String}
    {value : Toml} :
    lookup? entries space key = some value ↔ ∃ keys, (space, .table keys) ∈ entries ∧ (key, value) ∈ keys := by
  cases h with
  | scalar hscalar => exact hscalar.elim
  | table names inside =>
    constructor
    · intro hentry
      rw [lookup?] at hentry
      split at hentry
      · next keys hkeys => exact ⟨keys, Table.mem_of_find? hkeys, Table.mem_of_find? hentry⟩
      · cases hentry
    · rintro ⟨keys, hkeys, hvalue⟩
      have hdistinct : (keys.map Prod.fst).Nodup := by
        cases inside _ hkeys with
        | scalar hscalar => exact hscalar.elim
        | table names _ => exact names
      rw [lookup?, (Table.find?_eq_some_iff names).2 hkeys]
      exact (Table.find?_eq_some_iff hdistinct).2 hvalue

end Toml

namespace Store

/-- the settings of a document in the order in which they are written -/
def entriesOf (entries : List (String × Toml)) : List (String × Json) :=
  (sortEntries entries).flatMap fun (space, item) =>
    match item with
    | .table keys => (sortEntries keys).map fun (key, value) => (qualified space key, value.toJson)
    | _ => []

theorem ofDocument_eq (entries : List (String × Toml)) :
    ofDocument entries = (entriesOf entries).foldl (fun s e => s.put e.1 e.2) .empty := by
  rw [ofDocument, entriesOf, List.foldl_flatMap]
  congr 1
  funext s e
  obtain ⟨space, item⟩ := e
  cases item with
  | table keys =>
    simp only [List.foldl_map]
    rfl
  | _ => rfl

theorem mem_entriesOf {entries : List (String × Toml)} {name : String} {json : Json} :
    (name, json) ∈ entriesOf entries ↔ ∃ space keys key value, (space, .table keys) ∈ entries ∧ (key, value) ∈ keys ∧
      name = qualified space key ∧ json = value.toJson := by
  simp only [entriesOf, sortEntries, List.mem_flatMap, List.mem_mergeSort]
  constructor
  · rintro ⟨⟨space, item⟩, hitem, hname⟩
    cases item with
    | table keys =>
      obtain ⟨⟨key, value⟩, hvalue, heq⟩ := List.mem_map.1 hname
      cases heq
      exact ⟨space, keys, key, value, hitem, List.mem_mergeSort.1 hvalue, rfl, rfl⟩
    | _ => cases hname
  · rintro ⟨space, keys, key, value, hitem, hvalue, rfl, rfl⟩
    exact ⟨_, hitem, List.mem_map.2 ⟨(key, value), List.mem_mergeSort.2 hvalue, rfl⟩⟩

theorem distinct_ofDocument (entries : List (String × Toml)) : (ofDocument entries).Distinct := by
  rw [ofDocument_eq]
  exact Table.distinct_empty.foldl_put _

/-- a setting whose names hold no dot is the entry of one table -/
theorem read_ofDocument {entries : List (String × Toml)} (h : Toml.Unrepeated (.table entries)) {space key : String}
    (hspace : '.' ∉ space.toList) (hkey : '.' ∉ key.toList) :
    (ofDocument entries).read space key = (Toml.lookup? entries space key).map Toml.toJson := by
  -- whatever is held under the name is that entry
  have honly : ∀ json, (qualified space key, json) ∈ (entriesOf entries).reverse →
      ∃ value, Toml.lookup? entries space key = some value ∧ json = value.toJson := by
    intro json hjson
    obtain ⟨s, keys, k, value, hkeys, hvalue, hname, rfl⟩ := mem_entriesOf.1 (List.mem_reverse.1 hjson)
    obtain ⟨rfl, rfl⟩ := (qualified_eq_iff hspace hkey s k).1 hname.symm
    exact ⟨value, (Toml.lookup?_eq_some_iff h).2 ⟨keys, hkeys, hvalue⟩, rfl⟩
  rw [read, ofDocument_eq, Table.get?_foldl_put, Table.get?_empty, Option.or_none]
  cases hentry : Toml.lookup? entries space key with
  | none =>
    refine Table.find?_eq_none_iff.2 fun json hjson => ?_
    obtain ⟨value, hvalue, -⟩ := honly json hjson
    cases hentry.symm.trans hvalue
  | some value =>
    obtain ⟨keys, hkeys, hvalue⟩ := (Toml.lookup?_eq_some_iff h).1 hentry
    refine Table.find?_of_unique ?_ fun json hjson => ?_
    · exact List.mem_reverse.2 (mem_entriesOf.2 ⟨space, keys, key, value, hkeys, hvalue, rfl, rfl⟩)
    · obtain ⟨other, hother, rfl⟩ := honly json hjson
      cases hentry.symm.trans hother
      rfl

end Store

/-! ## Files -/

/-- what a settings file holds: the top table of its document, or nothing if there is no file -/
inductive FileHolds (files : Files) (path : Path) : List (String × Toml) → Prop where
  | missing : files.has path = false → FileHolds files path []
  | document {text : String} {entries : List (String × Toml)} : files.has path = true →
      files.readText path = .ok text → Toml.parse? text = some entries → FileHolds files path entries

/-- a settings file that is there but cannot be read, or is no document -/
inductive FileBroken (files : Files) (path : Path) : Prop where
  | unreadable {cause : FileError} : files.has path = true → files.readText path = .error cause →
      FileBroken files path
  | malformed {text : String} : files.has path = true → files.readText path = .ok text →
      Toml.parse? text = none → FileBroken files path

section
variable {files : Files} {path : Path} {entries : List (String × Toml)}

theorem FileHolds.unrepeated (h : FileHolds files path entries) : Toml.Unrepeated (.table entries) := by
  cases h with
  | missing _ => exact .table List.nodup_nil fun e he => nomatch he
  | document _ _ hparse => exact Toml.parse?_unrepeated _ entries hparse

theorem FileHolds.not_broken (h : FileHolds files path entries) : ¬ FileBroken files path := by
  rintro (⟨hhas, hread⟩ | ⟨hhas, hread, hparse⟩)
  · cases h with
    | missing hmissing => cases hhas.symm.trans hmissing
    | document _ htext _ => cases hread.symm.trans htext
  · cases h with
    | missing hmissing => cases hhas.symm.trans hmissing
    | document _ htext hentries =>
      cases hread.symm.trans htext
      cases hparse.symm.trans hentries

theorem loadLayer_of_holds (h : FileHolds files path entries) : loadLayer files path = .ok (.ofDocument entries) := by
  cases h with
  | missing hhas => simp [loadLayer, hhas, Store.ofDocument, sortEntries]
  | document hhas hread hparse => simp [loadLayer, hhas, hread, hparse]

theorem loadLayer_of_broken (h : FileBroken files path) : ∃ e, loadLayer files path = .error e := by
  cases h with
  | unreadable hhas hread => exact ⟨_, by simp only [loadLayer, hhas, hread]; rfl⟩
  | malformed hhas hread hparse => exact ⟨_, by simp only [loadLayer, hhas, hread, hparse]; rfl⟩

theorem holds_or_broken (files : Files) (path : Path) :
    (∃ entries, FileHolds files path entries) ∨ FileBroken files path := by
  cases hhas : files.has path with
  | false => exact .inl ⟨[], .missing hhas⟩
  | true =>
    cases hread : files.readText path with
    | error cause => exact .inr (.unreadable hhas hread)
    | ok text =>
      cases hparse : Toml.parse? text with
      | none => exact .inr (.malformed hhas hread hparse)
      | some entries => exact .inl ⟨entries, .document hhas hread hparse⟩

end

/-! ## The environment -/

/-- the value that the environment gives an option, if it names an executable -/
def overriding? (executable : Option String) (key : SettingKey) : Option Json :=
  match executable with
  | none => none
  | some path =>
    if (Text.trimmed path).isEmpty then none
    else match key with
      | .executablePath => some (.string path)
      | .useBuiltInBinary => some (.bool false)
      | _ => none

theorem read_overrideExecutable (executable : Option String) (s : Store) (key : SettingKey) :
    (overrideExecutable executable s).read settingsNamespace key.name =
      (overriding? executable key).or (s.read settingsNamespace key.name) := by
  cases executable with
  | none => rfl
  | some path =>
    simp only [overrideExecutable, overriding?]
    split
    · rfl
    · rw [Store.read_write_name, Store.read_write_name]
      cases key <;> simp

theorem Store.resolve_useBuiltIn (s : Store) :
    s.resolve.useBuiltIn = readFlag (s.read settingsNamespace SettingKey.useBuiltInBinary.name) true := rfl

theorem Store.resolve_executablePath (s : Store) : s.resolve.executablePath =
    readPath (s.read settingsNamespace SettingKey.executablePath.name) "gdscript-formatter" := rfl

/-- an executable that the environment names is the one that runs, without the blanks around it -/
theorem executable_overrideExecutable (path builtIn : String) (s : Store) (h : (Text.trimmed path).isEmpty = false) :
    (overrideExecutable (some path) s).resolve.executable builtIn = Text.trimmed path := by
  have hbuiltIn : overriding? (some path) .useBuiltInBinary = some (.bool false) := by simp [overriding?, h]
  have hpath : overriding? (some path) .executablePath = some (.string path) := by simp [overriding?, h]
  rw [Configuration.executable, Store.resolve_useBuiltIn, Store.resolve_executablePath, read_overrideExecutable,
    read_overrideExecutable, hbuiltIn, hpath]
  simp [readFlag, readPath, Json.bool?, h]

/-! ## Reloading -/

namespace LayeredSettings

variable (s : LayeredSettings) (files : Files) (executable : Option String)

theorem load_of_holds {user project : List (String × Toml)} (huser : FileHolds files s.userPath user)
    (hproject : FileHolds files s.projectPath project) :
    s.load files executable =
      .ok (overrideExecutable executable ((Store.ofDocument user).union (Store.ofDocument project))) := by
  rw [load, loadLayer_of_holds huser, loadLayer_of_holds hproject]
  rfl

theorem load_of_broken (h : FileBroken files s.userPath ∨ FileBroken files s.projectPath) :
    ∃ e, s.load files executable = .error e := by
  rw [load]
  rcases holds_or_broken files s.userPath with ⟨user, huser⟩ | huser
  · obtain ⟨e, he⟩ := loadLayer_of_broken (h.resolve_left huser.not_broken)
    rw [loadLayer_of_holds huser, he]
    exact ⟨e, rfl⟩
  · obtain ⟨e, he⟩ := loadLayer_of_broken huser
    rw [he]
    exact ⟨e, rfl⟩

theorem reload_of_ok {values : Store} (h : s.load files executable = .ok values) :
    s.reload files executable = ({ s with values }, .ok ()) := by
  rw [reload, h]

theorem reload_of_error {e : SettingsError} (h : s.load files executable = .error e) :
    s.reload files executable = (s, .error e) := by
  rw [reload, h]

theorem values_reload {user project : List (String × Toml)} (huser : FileHolds files s.userPath user)
    (hproject : FileHolds files s.projectPath project) : (s.reload files executable).1.values =
      overrideExecutable executable ((Store.ofDocument user).union (Store.ofDocument project)) := by
  rw [s.reload_of_ok files executable (s.load_of_holds files executable huser hproject)]

theorem read_reload {user project : List (String × Toml)} (huser : FileHolds files s.userPath user)
    (hproject : FileHolds files s.projectPath project) (key : SettingKey) :
    (s.reload files executable).1.values.read settingsNamespace key.name =
      (overriding? executable key).or
        (((Toml.lookup? project settingsNamespace key.name).or (Toml.lookup? user settingsNamespace key.name)).map
          Toml.toJson) := by
  rw [s.values_reload files executable huser hproject, read_overrideExecutable]
  have hunion := Table.get?_union (Store.ofDocument user) (Store.distinct_ofDocument project)
    (Store.qualified settingsNamespace key.name)
  have hfrom : ∀ {path entries}, FileHolds files path entries → (Store.ofDocument entries).get?
      (Store.qualified settingsNamespace key.name) = (Toml.lookup? entries settingsNamespace key.name).map Toml.toJson :=
    fun h => Store.read_ofDocument h.unrepeated settingsNamespace_dotFree key.name_dotFree
  rw [hfrom huser, hfrom hproject, ← Option.map_or] at hunion
  exact congrArg _ hunion

/-- a reload succeeds exactly if neither file is broken -/
theorem reload_ok_iff :
    (s.reload files executable).2 = .ok () ↔ ¬ FileBroken files s.userPath ∧ ¬ FileBroken files s.projectPath := by
  constructor
  · intro hok
    rw [← not_or]
    intro hbroken
    obtain ⟨e, he⟩ := s.load_of_broken files executable hbroken
    rw [s.reload_of_error files executable he] at hok
    cases hok
  · rintro ⟨huser, hproject⟩
    obtain ⟨user, huser⟩ := (holds_or_broken files s.userPath).resolve_right huser
    obtain ⟨project, hproject⟩ := (holds_or_broken files s.projectPath).resolve_right hproject
    rw [s.reload_of_ok files executable (s.load_of_holds files executable huser hproject)]

/-- **Where each option comes from.** A reload succeeds exactly if each of the two files holds a document or is missing.
After it each option is what the environment gives it, else the entry of its key in the options' table of the project's
file, else that of the user's file, else nothing; no other table, value or key of the files counts, since the formula
names none. An entry counts whatever its kind is, so a value of the wrong kind in the project's file still hides one in
the user's. The environment gives two options a value, and only if it names an executable that is not blank; then that
executable, without the blanks around it, is the one that runs. -/
theorem reload_layers :
    ((s.reload files executable).2 = .ok () ↔
      ∃ user project, FileHolds files s.userPath user ∧ FileHolds files s.projectPath project) ∧
    (∀ user project, FileHolds files s.userPath user → FileHolds files s.projectPath project →
      (∀ key : SettingKey, (s.reload files executable).1.values.read settingsNamespace key.name =
        (overriding? executable key).or
          (((Toml.lookup? project settingsNamespace key.name).or (Toml.lookup? user settingsNamespace key.name)).map
            Toml.toJson)) ∧
      ∀ path builtIn, executable = some path → (Text.trimmed path).isEmpty = false →
        (s.reload files executable).1.values.resolve.executable builtIn = Text.trimmed path) := by
  refine ⟨?_, fun user project huser hproject => ⟨s.read_reload files executable huser hproject, ?_⟩⟩
  · rw [reload_ok_iff]
    constructor
    · rintro ⟨huser, hproject⟩
      obtain ⟨user, huser⟩ := (holds_or_broken files s.userPath).resolve_right huser
      obtain ⟨project, hproject⟩ := (holds_or_broken files s.projectPath).resolve_right hproject
      exact ⟨user, project, huser, hproject⟩
    · rintro ⟨user, project, huser, hproject⟩
      exact ⟨huser.not_broken, hproject.not_broken⟩
  · rintro path builtIn rfl hpath
    rw [s.values_reload files _ huser hproject]
    exact executable_overrideExecutable path builtIn _ hpath

end LayeredSettings

end ScriptBridge
