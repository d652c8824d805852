/-
Runs of the external tool. In every history of a host the tool is run once for each lint and format whose snapshot
enables it, and for nothing else; program, arguments and input come from that snapshot and the document alone. The
snapshot is the configuration of the store as it was at the last event that resolved the settings.

- `settings_run`: the configuration in effect after any events is the snapshot of the history.
- `launches_eq`: what one event starts; `invocations_eq`: all runs of a history, in their order.
- `runs_lintDocument`, `runs_computeEdit`, `runs_provideEdits`, `runs_formatDocument`: a whole request runs the tool just
  so.
- `safe_without_reorder`: safe mode and reordering never meet in the arguments of a format.
- `invocations_from_snapshots`: the runs of a history, and what can never show in them.
-/
import Mathlib.Data.List.DropRight
import Mathlib.Data.List.ReduceOption
import ScriptBridge.Proofs.Session.LintingOff
import ScriptBridge.Session.Requests

namespace ScriptBridge

/-- one run of the external tool: its command, and what it reads -/
structure Invocation where
  command : Command
  input : String
deriving DecidableEq, Repr

/-- the run that a lint starts -/
def LintRequest.invocation (r : LintRequest) : Invocation := ⟨r.command, stdinPayload r.document.text⟩

/-- the run that a format starts -/
def FormatRequest.invocation (r : FormatRequest) : Invocation := ⟨r.command, stdinPayload r.document.text⟩

/-! ## Snapshots -/

/-- what an event does to the store -/
def Event.edited (store : Store) : Event → Store
  | .editStore edit => edit store
  | _ => store

/-- the store after events -/
def storeAfter (store : Store) (events : List Event) : Store := events.foldl Event.edited store

/-- the configuration in effect after events: what follows the last event that resolves the settings does not count -/
def snapshot (store : Store) (events : List Event) : Configuration :=
  (storeAfter store (events.rdropWhile fun e => !e.resolves)).resolve

/-- the run of the tool that an event asks for under a configuration -/
def Event.invocation? (builtIn : String) (c : Configuration) : Event → Option Invocation
  | .lint document =>
    if c.enabledLint then
      some ⟨⟨if c.useBuiltIn then builtIn else c.executablePath, c.lintArgs document.path, .lint⟩,
        document.text ++ "\n"⟩
    else none
  | .format _ document =>
    if c.enabledFormat then
      some ⟨⟨if c.useBuiltIn then builtIn else c.executablePath, c.formatArgs, .format⟩, document.text ++ "\n"⟩
    else none
  | _ => none

theorem edited_of_resolves (store : Store) (e : Event) (he : e.resolves = true) : e.edited store = store := by
  cases e with
  | editStore edit => cases he
  | _ => rfl

theorem storeAfter_snoc (store : Store) (events : List Event) (e : Event) :
    storeAfter store (events ++ [e]) = e.edited (storeAfter store events) := by
  simp [storeAfter, List.foldl_append]

theorem snapshot_snoc (store : Store) (events : List Event) (e : Event) :
    snapshot store (events ++ [e]) =
      if e.resolves then (storeAfter store events).resolve else snapshot store events := by
  unfold snapshot
  rw [List.rdropWhile_concat]
  cases he : e.resolves with
  | true => simp [storeAfter_snoc, edited_of_resolves _ e he]
  | false => simp

/-- events that do not resolve the settings leave the snapshot, whatever they do to the store -/
theorem snapshot_append_quiet (store : Store) (events quiet : List Event) (hquiet : ∀ e ∈ quiet, e.resolves = false) :
    snapshot store (events ++ quiet) = snapshot store events := by
  induction quiet using List.reverseRecOn with
  | nil => rw [List.append_nil]
  | append_singleton quiet e ih =>
    have he : e.resolves = false := hquiet e (by simp)
    rw [← List.append_assoc, snapshot_snoc, he, ih fun x hx => hquiet x (by simp [hx])]
    rfl

/-! ## The configuration follows the history -/

theorem Event.store_onSettings (r : Resolver) (e : Event) : (e.onSettings r).store = e.edited r.store := by
  cases e with
  | change c =>
    simp only [onSettings]
    split <;> rfl
  | _ => rfl

namespace Host

/-- an event changes the store only as an edit of it, and never the built-in program -/
theorem settings_step (h : Host) (e : Event) :
    (h.step e).session.resolver.store = e.edited h.session.resolver.store ∧
      (h.step e).session.builtIn = h.session.builtIn := by
  refine ⟨?_, (congrArg Session.builtIn (h.session_step e)).trans rfl⟩
  rw [resolver_step, Event.store_onSettings]

/-- after any events the store, the built-in program and the configuration in effect are those of the history -/
theorem settings_run (root : Path) (store : Store) (builtIn : String) (events : List Event) :
    let h := (create root store builtIn).run events
    h.session.resolver.store = storeAfter store events ∧ h.session.builtIn = builtIn ∧
      h.session.config = snapshot store events := by
  induction events using List.reverseRecOn with
  | nil => exact ⟨rfl, rfl, rfl⟩
  | append_singleton events e ih =>
    obtain ⟨hstore, hbuiltIn, hconfig⟩ := ih
    obtain ⟨hstore', hbuiltIn'⟩ := settings_step ((create root store builtIn).run events) e
    simp only [run_snoc, hstore', hbuiltIn', config_step, storeAfter_snoc, snapshot_snoc, hstore, hbuiltIn, hconfig,
      and_self]

/-! ## What an event starts -/

/-- the runs of the tool that an event starts: those of the lints and formats it adds -/
def launches (h : Host) (e : Event) : List Invocation :=
  ((h.step e).lints.drop h.lints.length).map (fun lint => lint.request.invocation) ++
    ((h.step e).formats.drop h.formats.length).map fun format => format.request.invocation

/-- the runs of the tool in a history, in the order of their starts -/
def invocations (h : Host) : List Event → List Invocation
  | [] => []
  | e :: events => h.launches e ++ (h.step e).invocations events

theorem invocations_append (h : Host) (a b : List Event) :
    h.invocations (a ++ b) = h.invocations a ++ (h.run a).invocations b := by
  induction a generalizing h with
  | nil => rfl
  | cons e a ih => rw [List.cons_append, invocations, ih, invocations, List.append_assoc]; rfl

/-- an event that adds no lint and no format starts nothing -/
theorem launches_eq_nil (h : Host) (e : Event) (hl : (h.step e).lints.length = h.lints.length)
    (hf : (h.step e).formats.length = h.formats.length) : h.launches e = [] := by
  rw [launches, List.drop_eq_nil_of_le (Nat.le_of_eq hl), List.drop_eq_nil_of_le (Nat.le_of_eq hf)]
  rfl

theorem launches_lint (h : Host) (document : Document) :
    h.launches (.lint document) =
      if h.session.config.enabledLint then [⟨h.session.command .lint document, stdinPayload document.text⟩]
      else [] := by
  have hf : (h.step (.lint document)).formats = h.formats := rfl
  by_cases hl : h.session.config.enabledLint = true
  · rw [if_pos hl, launches, lints_step_lint, if_pos hl, List.drop_left, hf, List.drop_length]
    rfl
  · rw [if_neg hl, h.launches_eq_nil _ (by rw [lints_step_lint, if_neg hl]) rfl]

theorem launches_format (h : Host) (use : FormatUse) (document : Document) :
    h.launches (.format use document) =
      if h.session.config.enabledFormat then [⟨h.session.command .format document, stdinPayload document.text⟩]
      else [] := by
  by_cases hf : h.session.config.enabledFormat = true
  · simp [launches, step, Session.startFormat?, hf, FormatRequest.invocation]
  · rw [if_neg hf, h.launches_eq_nil _ rfl (by simp [step, Session.startFormat?, hf])]

/-- an event starts the run that it asks for under the configuration in effect, if any, and no other -/
theorem launches_eq (h : Host) (e : Event) :
    h.launches e = (e.invocation? h.session.builtIn h.session.config).toList := by
  cases e with
  | lint document =>
    rw [launches_lint, Event.invocation?]
    split <;> rfl
  | format use document =>
    rw [launches_format, Event.invocation?]
    split <;> rfl
  | lintDone k reply =>
    refine h.launches_eq_nil _ ?_ (by simp only [step]; split <;> rfl)
    simp only [step]
    split
    · exact List.length_set
    · rfl
  | formatDone k reply answer =>
    refine h.launches_eq_nil _ (by rw [lints_step_formatDone]) ?_
    simp only [step]
    split
    · exact List.length_set
    · rfl
  | _ => exact h.launches_eq_nil _ rfl rfl

/-- the runs of a history are what its events ask for, each under the snapshot of what came before it -/
theorem invocations_eq (root : Path) (store : Store) (builtIn : String) (events : List Event) :
    (create root store builtIn).invocations events =
      (events.mapIdx fun i e => e.invocation? builtIn (snapshot store (events.take i))).reduceOption := by
  induction events using List.reverseRecOn with
  | nil => rfl
  | append_singleton events e ih =>
    obtain ⟨-, hbuiltIn, hconfig⟩ := settings_run root store builtIn events
    have hlast : ((create root store builtIn).run events).invocations [e] =
        (e.invocation? builtIn (snapshot store events)).toList := by
      rw [invocations, invocations, List.append_nil, launches_eq, hbuiltIn, hconfig]
    -- what came before an earlier event is the same in the longer history
    have hsame : events.mapIdx (fun i x => x.invocation? builtIn (snapshot store ((events ++ [e]).take i))) =
        events.mapIdx fun i x => x.invocation? builtIn (snapshot store (events.take i)) := by
      rw [List.mapIdx_eq_mapIdx_iff]
      intro i hi
      rw [List.take_append_of_le_length (Nat.le_of_lt hi)]
    rw [invocations_append, hlast, ih, List.mapIdx_concat, List.reduceOption_append, List.reduceOption_singleton, hsame,
      List.take_left]

end Host

/-! ## Whole requests -/

section

variable {σ τ : Type}

/-- a tool that also notes what it is run with -/
def ToolRun.noting (tool : ToolRun σ) : ToolRun (σ × List Invocation) := fun command input s (state, runs) =>
  let (reply, s, state) := tool command input s state
  (reply, s, state, runs ++ [⟨command, input⟩])

namespace Session

variable (s : Session) (tool : ToolRun σ) (document : Document) (state : σ)

theorem runs_lintDocument :
    (s.lintDocument tool.noting document (state, [])).2.2.2 =
      ((Event.lint document).invocation? s.builtIn s.config).toList := by
  simp only [lintDocument, startLint, Event.invocation?]
  cases s.config.enabledLint <;> rfl

theorem runs_computeEdit (use : FormatUse) :
    (s.computeEdit tool.noting document (state, [])).2.2.2 =
      ((Event.format use document).invocation? s.builtIn s.config).toList := by
  simp only [computeEdit, startFormat?, Event.invocation?]
  cases s.config.enabledFormat <;> rfl

theorem runs_provideEdits (use : FormatUse) :
    (s.provideEdits tool.noting document (state, [])).2.2.2 =
      ((Event.format use document).invocation? s.builtIn s.config).toList := by
  simp only [provideEdits, startFormat?, Event.invocation?]
  cases s.config.enabledFormat <;> rfl

theorem runs_formatDocument (use : FormatUse) (surface : Surface τ) (shown : τ) :
    (s.formatDocument tool.noting surface document (state, []) shown).2.2.1.2 =
      ((Event.format use document).invocation? s.builtIn s.config).toList := by
  simp only [formatDocument, startFormat?, Event.invocation?]
  cases s.config.enabledFormat <;> rfl

end Session

end

namespace Host

/-! ## What never shows in a command -/

/-- the formats started so far -/
def formatRequests (h : Host) : List FormatRequest := h.formats.map Format.request

/-- an event leaves all that earlier requests were started with -/
theorem requests_prefix_step (h : Host) (e : Event) :
    h.requests <+: (h.step e).requests ∧ h.formatRequests <+: (h.step e).formatRequests := by
  constructor
  · rcases h.requests_step e with ⟨hr, -⟩ | ⟨document, -, -, hr, -⟩
    · exact ⟨[], (List.append_nil _).trans hr.symm⟩
    · exact ⟨_, hr.symm⟩
  · cases e with
    | format use document => exact (List.prefix_append _ _).map Format.request
    | formatDone k reply answer =>
      simp only [step]
      split
      · next use request hk =>
        have hsame : (h.formats.set k ⟨use, request, some reply⟩).map Format.request = h.formats.map Format.request :=
          map_set_of_same Format.request hk rfl
        exact ⟨[], (List.append_nil _).trans hsame.symm⟩
      · exact List.prefix_refl _
    | lintDone k reply =>
      simp only [step]
      split <;> exact List.prefix_refl _
    | _ => exact List.prefix_refl _

theorem requests_prefix_run (h : Host) (events : List Event) :
    h.requests <+: (h.run events).requests ∧ h.formatRequests <+: (h.run events).formatRequests := by
  induction events generalizing h with
  | nil => exact ⟨List.prefix_refl _, List.prefix_refl _⟩
  | cons e events ih =>
    obtain ⟨hlints, hformats⟩ := h.requests_prefix_step e
    obtain ⟨hlints', hformats'⟩ := ih (h.step e)
    exact ⟨hlints.trans hlints', hformats.trans hformats'⟩

end Host

/-! ## The arguments of a format -/

namespace Configuration

theorem indent_ne (size word : String) (hword : ¬ "--indent-size=".toList <+: word.toList) :
    word ≠ "--indent-size=" ++ size := by
  rintro rfl
  exact hword (by simp)

theorem safe_mem_formatArgs (c : Configuration) : "--safe" ∈ c.formatArgs ↔ c.safe = true := by
  have hindent := indent_ne c.indentSize.repr "--safe" (by decide)
  simp [formatArgs, hindent]

theorem reorder_mem_formatArgs (c : Configuration) :
    "--reorder-code" ∈ c.formatArgs ↔ c.reorderCode = true ∧ c.safe = false := by
  have hindent := indent_ne c.indentSize.repr "--reorder-code" (by decide)
  simp [formatArgs, reorderAllowed, hindent]

end Configuration

namespace Host

/-- a run that an event starts is that of a lint or a format which the configuration in effect enables -/
theorem launches_cases (h : Host) (e : Event) (i : Invocation) (hi : i ∈ h.launches e) :
    (∃ document, e = .lint document ∧ h.session.config.enabledLint = true ∧
      i = ⟨h.session.command .lint document, stdinPayload document.text⟩) ∨
    (∃ use document, e = .format use document ∧ h.session.config.enabledFormat = true ∧
      i = ⟨h.session.command .format document, stdinPayload document.text⟩) := by
  cases e with
  | lint document =>
    rw [launches_lint] at hi
    split at hi
    · next hl => exact Or.inl ⟨document, rfl, hl, List.mem_singleton.1 hi⟩
    · cases hi
  | format use document =>
    rw [launches_format] at hi
    split at hi
    · next hf => exact Or.inr ⟨use, document, rfl, hf, List.mem_singleton.1 hi⟩
    · cases hi
  | _ =>
    rw [launches_eq] at hi
    cases hi

/-- the run of a format has the arguments of the configuration in effect -/
theorem format_of_mem_launches (h : Host) (e : Event) (i : Invocation) (hi : i ∈ h.launches e)
    (hmode : i.command.mode = .format) : i.command.args = h.session.config.formatArgs := by
  rcases h.launches_cases e i hi with ⟨document, -, -, rfl⟩ | ⟨use, document, -, -, rfl⟩
  · cases hmode
  · rfl

/-- the program of a run is the built-in one or the configured one, as the configuration in effect says -/
theorem program_of_mem_launches (h : Host) (e : Event) (i : Invocation) (hi : i ∈ h.launches e) :
    i.command.program = h.session.executable := by
  rcases h.launches_cases e i hi with ⟨document, -, -, rfl⟩ | ⟨use, document, -, -, rfl⟩ <;> rfl

theorem mem_invocations (h : Host) (events : List Event) (i : Invocation) (hi : i ∈ h.invocations events) :
    ∃ before e after, events = before ++ e :: after ∧ i ∈ (h.run before).launches e := by
  induction events generalizing h with
  | nil => cases hi
  | cons e events ih =>
    rcases List.mem_append.1 hi with hi | hi
    · exact ⟨[], e, events, rfl, hi⟩
    · obtain ⟨before, x, after, rfl, hx⟩ := ih _ hi
      exact ⟨e :: before, x, after, rfl, hx⟩

/-- safe mode and reordering never meet in a format -/
theorem safe_without_reorder (h : Host) (events : List Event) (i : Invocation) (hi : i ∈ h.invocations events)
    (hmode : i.command.mode = .format) : ¬ ("--safe" ∈ i.command.args ∧ "--reorder-code" ∈ i.command.args) := by
  obtain ⟨before, e, after, -, hi⟩ := h.mem_invocations events i hi
  rw [format_of_mem_launches _ e i hi hmode, Configuration.safe_mem_formatArgs, Configuration.reorder_mem_formatArgs]
  rintro ⟨hsafe, -, hunsafe⟩
  rw [hsafe] at hunsafe
  cases hunsafe

/-- **Runs come from snapshots.** In every history of a host the tool is run once for each lint and each format whose
snapshot enables it, in the order of their starts, and never otherwise: the program, the arguments and the input of a run
are those that the event asks for under the snapshot of what came before it. A whole request calls the tool just so. The
program is the built-in one exactly if that snapshot says so, whenever the configured one is another. Events that resolve
no settings, whatever they do to the store, never show in a later run; and what happens after the start of a run never
shows in it. No format is run with both safe mode and reordering, and none with reordering whose snapshot is safe. -/
theorem invocations_from_snapshots (root : Path) (store : Store) (builtIn : String) (events : List Event) :
    let start := create root store builtIn
    start.invocations events =
        (events.mapIdx fun i e => e.invocation? builtIn (snapshot store (events.take i))).reduceOption ∧
      (∀ {σ τ : Type} (tool : ToolRun σ) (surface : Surface τ) (document : Document) (use : FormatUse) (state : σ)
        (shown : τ),
        let h := start.run events
        (h.session.lintDocument tool.noting document (state, [])).2.2.2 = h.launches (.lint document) ∧
          (h.session.computeEdit tool.noting document (state, [])).2.2.2 = h.launches (.format use document) ∧
          (h.session.provideEdits tool.noting document (state, [])).2.2.2 = h.launches (.format use document) ∧
          (h.session.formatDocument tool.noting surface document (state, []) shown).2.2.1.2 =
            h.launches (.format use document)) ∧
      (∀ before e after i, events = before ++ e :: after → i ∈ (start.run before).launches e →
        let c := snapshot store before
        (c.executablePath ≠ builtIn → (i.command.program = builtIn ↔ c.useBuiltIn = true)) ∧
          (i.command.mode = .format → c.safe = true → "--reorder-code" ∉ i.command.args)) ∧
      (∀ quiet e, (∀ x ∈ quiet, x.resolves = false) →
        (start.run (events ++ quiet)).launches e = (start.run events).launches e) ∧
      (∀ later, start.invocations events <+: start.invocations (events ++ later) ∧
        (start.run events).requests <+: (start.run (events ++ later)).requests ∧
        (start.run events).formatRequests <+: (start.run (events ++ later)).formatRequests) ∧
      (∀ i ∈ start.invocations events, i.command.mode = .format →
        ¬ ("--safe" ∈ i.command.args ∧ "--reorder-code" ∈ i.command.args)) := by
  intro start
  refine ⟨invocations_eq root store builtIn events, ?_, ?_, ?_, ?_, start.safe_without_reorder events⟩
  · intro σ τ tool surface document use state shown h
    rw [launches_eq, launches_eq]
    exact ⟨h.session.runs_lintDocument tool document state, h.session.runs_computeEdit tool document state use,
      h.session.runs_provideEdits tool document state use,
      h.session.runs_formatDocument tool document state use surface shown⟩
  · rintro before e after i - hi c
    obtain ⟨-, hbuiltIn, hconfig⟩ := settings_run root store builtIn before
    refine ⟨fun hother => ?_, fun hmode hsafe hreorder => ?_⟩
    · rw [program_of_mem_launches _ e i hi, Session.executable, Configuration.executable, hbuiltIn, hconfig]
      split
      · next huse => exact iff_of_true rfl huse
      · next huse => exact iff_of_false hother huse
    · rw [format_of_mem_launches _ e i hi hmode, hconfig, Configuration.reorder_mem_formatArgs] at hreorder
      rw [hreorder.2] at hsafe
      cases hsafe
  · intro quiet e hquiet
    obtain ⟨-, hbuiltIn, hconfig⟩ := settings_run root store builtIn events
    obtain ⟨-, hbuiltIn', hconfig'⟩ := settings_run root store builtIn (events ++ quiet)
    rw [launches_eq, launches_eq, hbuiltIn, hbuiltIn', hconfig, hconfig', snapshot_append_quiet _ _ _ hquiet]
  · intro later
    have hrequests := (start.run events).requests_prefix_run later
    rw [← run_append] at hrequests
    exact ⟨⟨_, (start.invocations_append events later).symm⟩, hrequests⟩

end Host

end ScriptBridge
