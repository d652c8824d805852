/-
Settings files with the defaults. The text that `init` writes is a document with an entry for every option, and each
entry is read as the default of its option. So once the project's file is such a document, no entry of the user's file
counts any more, whatever it holds, and a reload gives the default configuration.

- `parse?_defaultSettingsText`, `lookup?_defaultDocument`: what the written text holds, as a document and by key.
- `resolve_reload_of_files`, `resolve_reload`: the configuration after a reload, in general and over a project's file
  with the defaults.
- `init_ok`, `fileHolds_of_init`: what a write of the defaults that succeeds leaves behind.
- `init_restores_defaults`: writing the defaults and reloading gives the defaults.
- `init_of_device`: a device is the exception, for it keeps nothing of what is written.
-/
import Mathlib
import ScriptBridge.Cli.Commands
import ScriptBridge.Proofs.Files.Walks
import ScriptBridge.Proofs.Settings.Layers
import ScriptBridge.Proofs.Settings.NormalForms

namespace ScriptBridge

/-! ## The text with the defaults -/

/-- the lines of the text with the defaults -/
def defaultLines : List String :=
  ["[godotFormatter]", "enableFormatter = true", "enableLinter = true",
    "gdscriptFormatterPath = \"gdscript-formatter\"", "ignoredRules = []", "indentSize = 4", "maxLineLength = 100",
    "reorderCode = false", "safe = true", "useBuiltInBinary = true", "useSpaces = false"]

theorem toList_defaultSettingsText :
    defaultSettingsText.toList = defaultLines.flatMap fun line => line.toList ++ ['\n'] := by
  delta defaultSettingsText
  simp only [String.toList_append]
  cbv

/-- the document with the defaults: one table, with one entry for every option -/
def defaultDocument : List (String × Toml) :=
  [(settingsNamespace, .table [("enableFormatter", .boolean true), ("enableLinter", .boolean true),
    ("gdscriptFormatterPath", .string "gdscript-formatter"), ("ignoredRules", .array []), ("indentSize", .integer 4),
    ("maxLineLength", .integer 100), ("reorderCode", .boolean false), ("safe", .boolean true),
    ("useBuiltInBinary", .boolean true), ("useSpaces", .boolean false)])]

theorem parse?_defaultSettingsText : Toml.parse? defaultSettingsText = some defaultDocument := by
  rw [Toml.parse?, toList_defaultSettingsText]
  cbv

/-- no option is missing, and each is written as its default -/
theorem lookup?_defaultDocument (key : SettingKey) :
    (Toml.lookup? defaultDocument settingsNamespace key.name).map Toml.toJson =
      some (Configuration.default.setting key) := by
  cases key <;> rfl

theorem wellFormed_default : Configuration.default.WellFormed := wellFormed_ofSettings fun _ => none

/-! ## Reloading over a file with the defaults -/

/-- an environment that names no executable, or a blank one -/
def Unnamed (executable : Option String) : Prop := ∀ path, executable = some path → (Text.trimmed path).isEmpty = true

theorem unnamed_none : Unnamed none := by
  intro path hpath
  cases hpath

theorem overriding?_of_unnamed {executable : Option String} (h : Unnamed executable) (key : SettingKey) :
    overriding? executable key = none := by
  cases executable with
  | none => rfl
  | some path =>
    simp only [overriding?]
    exact if_pos (h path rfl)

namespace LayeredSettings

variable (s : LayeredSettings) (files : Files)

/-- each option has the entry of the project's file, or else of the user's, where the environment names no executable -/
theorem resolve_reload_of_files {executable : Option String} (hunnamed : Unnamed executable)
    {user project : List (String × Toml)} (huser : FileHolds files s.userPath user)
    (hproject : FileHolds files s.projectPath project) :
    (s.reload files executable).1.values.resolve = .ofSettings fun key =>
      ((Toml.lookup? project settingsNamespace key.name).or (Toml.lookup? user settingsNamespace key.name)).map
        Toml.toJson := by
  rw [Store.resolve]
  congr 1
  funext key
  rw [s.read_reload files executable huser hproject, overriding?_of_unnamed hunnamed, Option.none_or]

/-- over a project's file with the defaults a reload gives the defaults, whatever the user's file holds -/
theorem resolve_reload {executable : Option String} (hunnamed : Unnamed executable)
    (hproject : FileHolds files s.projectPath defaultDocument) (hok : (s.reload files executable).2 = .ok ()) :
    (s.reload files executable).1.values.resolve = Configuration.default := by
  obtain ⟨hnotBroken, -⟩ := (s.reload_ok_iff files executable).1 hok
  obtain ⟨user, huser⟩ := (holds_or_broken files s.userPath).resolve_right hnotBroken
  rw [s.resolve_reload_of_files files hunnamed huser hproject]
  simp only [Option.map_or, lookup?_defaultDocument, Option.some_or]
  exact wellFormed_default.ofSettings_setting

/-! ## Writing the defaults -/

section

variable {s files} {after : Files} {level : SettingsLevel} {force : Bool} {path : Path}

/-- a write of the defaults that succeeds ends with the text being written, after folders may have been made for it -/
theorem init_ok (h : s.init files level force = (after, .ok path)) :
    path = s.path level ∧ ∃ made : Files, made.writeText (s.path level) defaultSettingsText = .ok after := by
  unfold init at h
  simp only at h
  split at h
  · cases h
  · split at h
    · cases h
    · next made _ =>
      split at h
      · next written hwrite =>
        cases h
        exact ⟨rfl, made, hwrite⟩
      · cases h

/-- after a write of the defaults that succeeds, the file holds the defaults, if it is no device -/
theorem fileHolds_of_init (h : s.init files level force = (after, .ok path))
    (hkept : ∀ kind, after.node (s.path level) ≠ .ok (.device kind)) :
    FileHolds after (s.path level) defaultDocument := by
  obtain ⟨-, made, hwrite⟩ := init_ok h
  have htext : after.readText (s.path level) = .ok defaultSettingsText := Files.readText_of_writeText hwrite hkept
  exact .document (Files.has_of_readText htext) htext parse?_defaultSettingsText

end

/-- **Writing the defaults gives the defaults back.** Whatever the two settings files hold, suppose that the defaults
are written to the project's file with success, by force or not, and that this file is no device. Then a reload fails
only because of the user's file; one that succeeds, with no executable named by the environment, gives the default
configuration. A file that exists is not written without force, and the files stay as they were. The values in memory
are no matter of this: the task that writes the defaults changes the files and nothing else. -/
theorem init_restores_defaults :
    (∀ force after path, s.init files .project force = (after, .ok path) →
      (∀ kind, after.node s.projectPath ≠ .ok (.device kind)) → ∀ executable, Unnamed executable →
        path = s.projectPath ∧
        ((s.reload after executable).2 = .ok () ↔ ¬ FileBroken after s.userPath) ∧
        ((s.reload after executable).2 = .ok () →
          (s.reload after executable).1.values.resolve = Configuration.default)) ∧
    (∀ level, files.has (s.path level) = true →
      s.init files level false = (files, .error (.alreadyExists (s.path level).text))) ∧
    (∀ (σ : Type) (desk : Cli.Desk σ) level force,
      (Cli.runInit desk level force).2 = { desk with files := (desk.settings.init desk.files level force).1 }) := by
  refine ⟨?_, ?_, fun _ _ _ _ => rfl⟩
  · intro force after path hinit hkept executable hunnamed
    have hholds : FileHolds after s.projectPath defaultDocument := fileHolds_of_init hinit hkept
    refine ⟨(init_ok hinit).1, ?_, s.resolve_reload after hunnamed hholds⟩
    rw [reload_ok_iff]
    exact and_iff_left hholds.not_broken
  · intro level hhas
    simp [init, hhas]

/-- a user's file with an indent of its own, and other entries of the top folder -/
def besideUserFile (entries : List (String × Node)) : Files :=
  ⟨.folder (("user.toml", .file (Text.encode "[godotFormatter]\nindentSize = 8\n".toList) false) :: entries), []⟩

/-- the settings of two files in the top folder -/
def atTop : LayeredSettings := ofPaths ⟨"/user.toml"⟩ ⟨"/project.toml"⟩

theorem locate_user (entries : List (String × Node)) :
    (besideUserFile entries).locate atTop.userPath true = .ok (.found ["user.toml"]) := by
  have hsayable : Files.Sayable atTop.userPath := ⟨by decide, by decide, by decide⟩
  have hname : Files.Nameable "user.toml" := ⟨by decide, by decide, by decide⟩
  exact Files.locate_entry hsayable rfl hname rfl rfl nofun

theorem fileHolds_user (entries : List (String × Node)) : FileHolds (besideUserFile entries) atTop.userPath
    [(settingsNamespace, .table [("indentSize", .integer 8)])] := by
  have htext : (besideUserFile entries).readText atTop.userPath = .ok "[godotFormatter]\nindentSize = 8\n" :=
    Files.readText_of_place (locate_user entries) rfl
  have hparse : Toml.parse? "[godotFormatter]\nindentSize = 8\n" =
      some [(settingsNamespace, .table [("indentSize", .integer 8)])] := by
    cbv
  exact .document (Files.has_of_readText htext) htext hparse

theorem makeFolders_top (entries : List (String × Node)) :
    (besideUserFile entries).makeFolders ⟨"/"⟩ = .ok (besideUserFile entries) := by
  have hparts : pathParts "/" = (true, [""]) := rfl
  have hplace (last : Bool) : (besideUserFile entries).locate ⟨"/"⟩ last = .ok (.found []) := by
    simp [Files.locate, hparts, Files.follow, besideUserFile, Node.at?, Node.isFolder]
    decide
  have hslash : Files.withoutEndSlashes ⟨"/"⟩ = ⟨"/"⟩ := by decide
  simp [Files.makeFolders, Files.makeFoldersUpTo, Files.makeFolder, hslash, hplace, Files.isFolder, Files.node,
    bind, Except.bind]
  rfl

theorem init_atTop {entries : List (String × Node)} {after : Files}
    (h : (besideUserFile entries).writeText atTop.projectPath defaultSettingsText = .ok after) :
    atTop.init (besideUserFile entries) .project true = (after, .ok atTop.projectPath) := by
  have hparent : atTop.projectPath.parent? = some ⟨"/"⟩ := by decide
  simp [init, path, hparent, makeFolders_top, h]

/-- the user's file beside a project's file -/
def withProject (content : List UInt8) : Files := besideUserFile [("project.toml", .file content false)]

theorem sayable_project : Files.Sayable atTop.projectPath := ⟨by decide, by decide, by decide⟩

theorem locate_withProject (content : List UInt8) :
    (withProject content).locate atTop.projectPath true = .ok (.found ["project.toml"]) := by
  have hname : Files.Nameable "project.toml" := ⟨by decide, by decide, by decide⟩
  exact Files.locate_entry sayable_project rfl hname rfl rfl nofun

theorem writeText_withProject (content : List UInt8) (text : String) :
    (withProject content).writeText atTop.projectPath text = .ok (withProject (Text.encode text.toList)) := by
  simp only [Files.writeText, Files.write, locate_withProject]
  rfl

/-- the defaults are written over an empty project's file, and the indent of the user's file does not count any more -/
theorem init_restores_defaults_overUser :
    let after := withProject (Text.encode defaultSettingsText.toList)
    atTop.init (withProject []) .project true = (after, .ok atTop.projectPath) ∧
      (∀ kind, after.node atTop.projectPath ≠ .ok (.device kind)) ∧ Unnamed none ∧
      (atTop.reload after none).2 = .ok () ∧
      (atTop.reload after none).1.values.resolve = Configuration.default ∧
      (withProject []).has atTop.projectPath = true ∧
      atTop.init (withProject []) .project false = (withProject [], .error (.alreadyExists "/project.toml")) := by
  intro after
  have hkept : ∀ kind, after.node atTop.projectPath ≠ .ok (.device kind) := by
    intro kind hdevice
    rw [Files.node, locate_withProject] at hdevice
    cases hdevice
  have hhas : (withProject []).has atTop.projectPath = true := by
    rw [Files.has, Files.node, locate_withProject]
    rfl
  have hwritten : atTop.init (withProject []) .project true = (after, .ok atTop.projectPath) :=
    init_atTop (writeText_withProject [] defaultSettingsText)
  obtain ⟨hinit, hexists, -⟩ := init_restores_defaults atTop (withProject [])
  obtain ⟨-, hreload, hdefault⟩ := hinit true after _ hwritten hkept none unnamed_none
  have hok : (atTop.reload after none).2 = .ok () := hreload.2 (fileHolds_user _).not_broken
  exact ⟨hwritten, hkept, unnamed_none, hok, hdefault hok, hhas, hexists .project hhas⟩

/-! ## Devices -/

/-- the user's file beside a project's file that is a link to the device that keeps nothing -/
def withDevice : Files :=
  besideUserFile [("project.toml", .link "/dev/null"), ("dev", .folder [("null", .device .null)])]

theorem locate_withDevice : withDevice.locate atTop.projectPath true = .ok (.found ["dev", "null"]) := by
  have hname (name : String) (h : name ∈ ["project.toml", "dev", "null"]) : Files.Nameable name := by
    simp only [List.mem_cons, List.not_mem_nil, or_false] at h
    obtain rfl | rfl | rfl := h <;> exact ⟨by decide, by decide, by decide⟩
  have hjump : Files.Moves withDevice.top ⟨40, [], ["project.toml"]⟩ ⟨39, [], ["dev", "null"]⟩ := by
    have hseen : withDevice.top.sightAt ([] ++ ["project.toml"]) = some (.link "/dev/null") := rfl
    exact .jump rfl (hname _ (by decide)) hseen
  have hfolder : Files.Moves withDevice.top ⟨39, [], ["dev", "null"]⟩ ⟨39, ["dev"], ["null"]⟩ :=
    .enter rfl (hname _ (by decide)) rfl nofun
  have hdevice : Files.Moves withDevice.top ⟨39, ["dev"], ["null"]⟩ ⟨39, ["dev", "null"], []⟩ :=
    .enter rfl (hname _ (by decide)) rfl nofun
  have hstart : withDevice.start atTop.projectPath = ⟨40, [], ["project.toml"]⟩ := rfl
  rw [Files.locate_of_sayable sayable_project, hstart, Files.follow_of_moves hjump, Files.follow_of_moves hfolder,
    Files.follow_of_moves hdevice, Files.follow_of_stops .found]

theorem writeText_withDevice (text : String) : withDevice.writeText atTop.projectPath text = .ok withDevice := by
  simp only [Files.writeText, Files.write, locate_withDevice]
  rfl

/-- **A device keeps nothing.** Where the project's file is a device, writing the defaults succeeds and leaves nothing
to be read, so the indent of the user's file counts as before. -/
theorem init_of_device :
    atTop.init withDevice .project true = (withDevice, .ok atTop.projectPath) ∧
      (atTop.reload withDevice none).2 = .ok () ∧
      (atTop.reload withDevice none).1.values.resolve = { Configuration.default with indentSize := 8 } ∧
      (atTop.reload withDevice none).1.values.resolve ≠ Configuration.default := by
  have hempty : FileHolds withDevice atTop.projectPath [] := by
    have htext : withDevice.readText atTop.projectPath = .ok "" := by
      rw [Files.readText, Files.read, Files.node, locate_withDevice]
      rfl
    have hparse : Toml.parse? "" = some [] := by cbv
    exact .document (Files.has_of_readText htext) htext hparse
  have hresolve : (atTop.reload withDevice none).1.values.resolve = { Configuration.default with indentSize := 8 } := by
    rw [atTop.resolve_reload_of_files withDevice unnamed_none (fileHolds_user _) hempty]
    decide
  refine ⟨init_atTop (writeText_withDevice _), ?_, hresolve, ?_⟩
  · exact (atTop.reload_ok_iff withDevice none).2 ⟨(fileHolds_user _).not_broken, hempty.not_broken⟩
  · rw [hresolve]
    decide

end LayeredSettings

end ScriptBridge
