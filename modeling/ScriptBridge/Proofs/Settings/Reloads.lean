/-
The settings in memory over any history. Between reloads the files and the environment may change at will; a reload may
fail, and then nothing that it read counts. What is in memory is a matter of one moment only, that of the last reload
that succeeded: it is what settings that were never loaded before would have read then.

- `reload_of_sound`, `reload_of_unsound`: what a reload does if neither file is broken, and otherwise.
- `settings_run_of_last`, `settings_run_of_none`: the settings after a history with a success, and without one.
- `reloads_all_or_nothing`: all of this for any history.
-/
import Mathlib.Data.List.Induction
import ScriptBridge.Proofs.Settings.Layers

namespace ScriptBridge.LayeredSettings

/-! ## Histories -/

/-- what settings are read from: the file tree and the executable that the environment names -/
structure Source where
  files : Files
  executable : Option String

/-- neither of two settings files is broken -/
def Source.Sound (source : Source) (userPath projectPath : Path) : Prop :=
  ¬ FileBroken source.files userPath ∧ ¬ FileBroken source.files projectPath

/-- what settings that were never loaded before read from a source -/
def fresh (userPath projectPath : Path) (source : Source) : LayeredSettings :=
  ((ofPaths userPath projectPath).reload source.files source.executable).1

/-- settings with the source that they are read from next -/
structure Live where
  settings : LayeredSettings
  source : Source

/-- what happens to settings and to their source -/
inductive Event where
  | editFiles (edit : Files → Files)
  | setEnvironment (executable : Option String)
  | reload

/-- what an event does to the source -/
def Source.after (source : Source) : Event → Source
  | .editFiles edit => { source with files := edit source.files }
  | .setEnvironment executable => { source with executable }
  | .reload => source

/-- the source after a list of events -/
def Source.afterAll (source : Source) (events : List Event) : Source := events.foldl Source.after source

namespace Live

/-- a reload from the source as it is -/
def reload (l : Live) : LayeredSettings × Except SettingsError Unit :=
  l.settings.reload l.source.files l.source.executable

/-- the settings and their source after an event -/
def step (l : Live) (event : Event) : Live :=
  match event with
  | .reload => { l with settings := l.reload.1 }
  | _ => { l with source := l.source.after event }

/-- the settings and their source after a list of events -/
def run (l : Live) (events : List Event) : Live := events.foldl step l

theorem run_append (l : Live) (a b : List Event) : l.run (a ++ b) = (l.run a).run b := by
  simp [run, List.foldl_append]

theorem run_snoc (l : Live) (events : List Event) (event : Event) :
    l.run (events ++ [event]) = (l.run events).step event :=
  l.run_append events [event]

theorem source_step (l : Live) (event : Event) : (l.step event).source = l.source.after event := by
  cases event <;> rfl

theorem source_run (l : Live) (events : List Event) : (l.run events).source = l.source.afterAll events := by
  induction events generalizing l with
  | nil => rfl
  | cons event events ih =>
    change ((l.step event).run events).source = (l.source.after event).afterAll events
    rw [ih, source_step]

/-! ## One reload -/

/-- the next reload finds both files in order -/
def Sound (l : Live) : Prop := l.source.Sound l.settings.userPath l.settings.projectPath

/-- from a sound source everything is read anew; what was in memory does not count -/
theorem reload_of_sound (l : Live) (h : l.Sound) :
    l.reload = (fresh l.settings.userPath l.settings.projectPath l.source, .ok ()) := by
  obtain ⟨user, huser⟩ := (holds_or_broken _ _).resolve_right h.1
  obtain ⟨project, hproject⟩ := (holds_or_broken _ _).resolve_right h.2
  have hload := l.settings.load_of_holds l.source.files l.source.executable huser hproject
  -- loading looks at the two paths only
  have hfresh : (ofPaths l.settings.userPath l.settings.projectPath).load l.source.files l.source.executable = _ :=
    hload
  rw [reload, reload_of_ok _ _ _ hload, fresh, reload_of_ok _ _ _ hfresh]
  rfl

/-- from any other source nothing is read -/
theorem reload_of_unsound (l : Live) (h : ¬ l.Sound) : ∃ e, l.reload = (l.settings, .error e) := by
  have hbroken : FileBroken l.source.files l.settings.userPath ∨ FileBroken l.source.files l.settings.projectPath := by
    simpa only [Sound, Source.Sound, ← not_or, not_not] using h
  obtain ⟨e, he⟩ := l.settings.load_of_broken l.source.files l.source.executable hbroken
  exact ⟨e, reload_of_error _ _ _ he⟩

theorem paths_reload (l : Live) : l.reload.1.userPath = l.settings.userPath ∧
    l.reload.1.projectPath = l.settings.projectPath := by
  rw [reload, LayeredSettings.reload]
  split <;> exact ⟨rfl, rfl⟩

theorem settings_step_reload_of_unsound (l : Live) (h : ¬ l.Sound) : (l.step .reload).settings = l.settings := by
  obtain ⟨e, he⟩ := l.reload_of_unsound h
  simp only [step, he]

/-! ## Runs -/

theorem paths_run (l : Live) (events : List Event) : (l.run events).settings.userPath = l.settings.userPath ∧
    (l.run events).settings.projectPath = l.settings.projectPath := by
  induction events using List.reverseRecOn with
  | nil => exact ⟨rfl, rfl⟩
  | append_singleton events event ih =>
    rw [run_snoc, ← ih.1, ← ih.2]
    cases event with
    | reload => exact (l.run events).paths_reload
    | _ => exact ⟨rfl, rfl⟩

/-- whether a reload succeeds is a matter of the files alone -/
theorem sound_run (l : Live) (events : List Event) :
    (l.run events).Sound ↔ (l.source.afterAll events).Sound l.settings.userPath l.settings.projectPath := by
  rw [Sound, source_run, (l.paths_run events).1, (l.paths_run events).2]

/-- as long as no reload succeeds the settings stay as they are -/
theorem settings_run_of_none (l : Live) (events : List Event)
    (h : ∀ before after, events = before ++ .reload :: after → ¬ (l.run before).Sound) :
    (l.run events).settings = l.settings := by
  induction events using List.reverseRecOn with
  | nil => rfl
  | append_singleton events event ih =>
    have hkept : (l.run events).settings = l.settings := by
      refine ih fun before after hevents => h before (after ++ [event]) ?_
      rw [hevents, List.append_assoc, List.cons_append]
    rw [run_snoc, ← hkept]
    cases event with
    | reload => exact (l.run events).settings_step_reload_of_unsound (h events [] rfl)
    | _ => rfl

/-- a reload that succeeds and none of the kind after it leaves what was read then -/
theorem settings_run_of_last (l : Live) (before after : List Event) (h : (l.run before).Sound)
    (hafter : ∀ more rest, after = more ++ .reload :: rest → ¬ (l.run (before ++ .reload :: more)).Sound) :
    (l.run (before ++ .reload :: after)).settings =
      fresh l.settings.userPath l.settings.projectPath (l.source.afterAll before) := by
  have hquiet : ∀ more rest, after = more ++ .reload :: rest → ¬ (((l.run before).step .reload).run more).Sound := by
    intro more rest hmore
    rw [← run_snoc, ← run_append, List.append_assoc, List.cons_append]
    exact hafter more rest hmore
  rw [List.append_cons, run_append, run_snoc, settings_run_of_none _ after hquiet, step, reload_of_sound _ h,
    source_run, (l.paths_run before).1, (l.paths_run before).2]

end Live

/-! ## Main result -/

/-- **A reload counts wholly or not at all.** Over any changes of the files and of the environment and any reloads, the
settings are the ones that a first and only reload would have read at the last moment at which a reload succeeded, with
nothing of an earlier one; before the first success no key of any namespace has a value. The next reload fails if either
file is broken, whatever the other one holds, and leaves the settings as they were; if neither is, it succeeds and
leaves what a first and only reload reads now. -/
theorem reloads_all_or_nothing (userPath projectPath : Path) (source : Source) (events : List Event) :
    let live := Live.run ⟨ofPaths userPath projectPath, source⟩ events
    let sound before := (source.afterAll before).Sound userPath projectPath
    (∀ before after, events = before ++ .reload :: after → sound before →
      (∀ more rest, after = more ++ .reload :: rest → ¬ sound (before ++ .reload :: more)) →
      live.settings = fresh userPath projectPath (source.afterAll before)) ∧
    ((∀ before after, events = before ++ .reload :: after → ¬ sound before) →
      ∀ space key, live.settings.values.read space key = none) ∧
    (FileBroken live.source.files userPath ∨ FileBroken live.source.files projectPath →
      ∃ e, live.reload = (live.settings, .error e)) ∧
    (¬ FileBroken live.source.files userPath → ¬ FileBroken live.source.files projectPath →
      live.reload = (fresh userPath projectPath live.source, .ok ())) := by
  intro live sound
  let start : Live := ⟨ofPaths userPath projectPath, source⟩
  have hpaths : live.settings.userPath = userPath ∧ live.settings.projectPath = projectPath := start.paths_run events
  refine ⟨?_, fun hnone space key => ?_, fun hbroken => ?_, fun huser hproject => ?_⟩
  · rintro before after rfl hsound hafter
    refine start.settings_run_of_last before after ((start.sound_run before).2 hsound) fun more rest hmore => ?_
    exact mt (start.sound_run _).1 (hafter more rest hmore)
  · have hkept : live.settings = start.settings := start.settings_run_of_none events fun before after hevents =>
      mt (start.sound_run before).1 (hnone before after hevents)
    rw [hkept]
    rfl
  · refine live.reload_of_unsound fun hsound => ?_
    rw [Live.Sound, hpaths.1, hpaths.2] at hsound
    exact hbroken.elim hsound.1 hsound.2
  · have hsound : live.Sound := by
      rw [Live.Sound, hpaths.1, hpaths.2]
      exact ⟨huser, hproject⟩
    rw [live.reload_of_sound hsound, hpaths.1, hpaths.2]

end ScriptBridge.LayeredSettings
