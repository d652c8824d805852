/-
What a failure leaves in the log. A run of the tool that fails, and an edit that a surface refuses, put one line into
the log of the session, at the end of the request they belong to. Nothing else does: not a success, a lint that is off
or superseded, or a request that only gives its result to the caller. A log has room for as many lines as its capacity
says, and for one at least; what it shows is the end of what it took since it was last cleared.

- `Log.Takes`: a log takes the one line that is reported, or none.
- `Log.SinceClear`: the lines that a history appended since its last clear; `Log.Shows`: a log shows the end of some
  lines; `Shows.append`: one more line, and the oldest one goes when the log is full.
- `lines_follow_history`: the lines after any history, and what one more line does to them.
- `log_completeLint`, `log_completeEdits`, `log_completeFormat`: the ends of the requests.
- `Host.Reports`: the lines that an event reports; `log_step`: they are what the log takes; `reports_once`: a request
  that has ended reports nothing later.
- `log_run`: the log after a list of events is the earlier one with the lines of these events; `log_keeps_last`: as
  many of them as there is room for.
- `log_lintDocument_on`, `log_provideEdits_on`, `log_formatDocument_on`: the whole requests.
- `failure_logged_once`: the events, the whole requests, and the wording of a bad exit code.
-/
import Mathlib.Data.List.DropRight
import Mathlib.Data.List.Induction
import ScriptBridge.Proofs.Session.FormatForms
import ScriptBridge.Proofs.Session.LintCalls

namespace ScriptBridge

/-- one log is another with the one line that is reported, or the same if none is -/
def Log.Takes (before : Log) (report : String → Prop) (after : Log) : Prop :=
  (∀ line, report line → after = before.append line) ∧ ((∀ line, ¬ report line) → after = before)

/-- a log that takes nothing is the same -/
theorem Log.takes_nothing (log : Log) (report : String → Prop) (h : ∀ line, ¬ report line) : log.Takes report log :=
  ⟨fun line hline => absurd hline (h line), fun _ => rfl⟩

theorem Log.takes_line (log : Log) (report : String → Prop) (line : String) (h : ∀ l, report l ↔ l = line) :
    log.Takes report (log.append line) :=
  ⟨fun l hl => by rw [(h l).1 hl], fun hnone => absurd ((h line).2 rfl) (hnone line)⟩

/-! ## Histories of a log -/

namespace Log

/-- what is done to a log -/
inductive Op where
  | append (line : String)
  | clear
deriving DecidableEq, Repr

/-- the log after an operation -/
def step (log : Log) : Op → Log
  | .append line => log.append line
  | .clear => log.clear

/-- the log after a list of operations -/
def run (log : Log) (ops : List Op) : Log := ops.foldl step log

/-- the lines that were appended since the log was last cleared, or since it was made -/
inductive SinceClear : List Op → List String → Prop where
  | made (lines : List String) : SinceClear (lines.map .append) lines
  | cleared (before : List Op) (lines : List String) : SinceClear (before ++ .clear :: lines.map .append) lines

theorem run_append (log : Log) (earlier later : List Op) : log.run (earlier ++ later) = (log.run earlier).run later :=
  List.foldl_append

/-- no operation changes the capacity -/
theorem capacity_run (log : Log) (ops : List Op) : (log.run ops).capacity = log.capacity := by
  induction ops generalizing log with
  | nil => rfl
  | cons op ops ih =>
    have hstep : (log.step op).capacity = log.capacity := by cases op <;> rfl
    rw [← hstep]
    exact ih (log.step op)

theorem SinceClear.append {ops : List Op} {lines : List String} (h : SinceClear ops lines) (line : String) :
    SinceClear (ops ++ [.append line]) (lines ++ [line]) := by
  have hlines : (lines ++ [line]).map Op.append = lines.map .append ++ [.append line] := List.map_append
  cases h with
  | made =>
    rw [← hlines]
    exact .made _
  | cleared before =>
    rw [List.append_assoc, List.cons_append, ← hlines]
    exact .cleared before _

theorem exists_sinceClear (ops : List Op) : ∃ lines, SinceClear ops lines := by
  induction ops using List.reverseRecOn with
  | nil => exact ⟨[], .made []⟩
  | append_singleton ops op ih =>
    cases op with
    | append line =>
      obtain ⟨lines, hlines⟩ := ih
      exact ⟨lines ++ [line], hlines.append line⟩
    | clear => exact ⟨[], .cleared ops []⟩

/-! ## What a log shows -/

/-- a log with room for some number of lines shows the last of these lines -/
structure Shows (log : Log) (room : Nat) (lines : List String) : Prop where
  capacity_eq : log.capacity = room
  lines_eq : log.lines = lines.rtake room

theorem shows_withCapacity (name : String) (capacity : Nat) :
    (withCapacity name capacity).Shows (max capacity 1) [] where
  capacity_eq := rfl
  lines_eq := (List.rtake_nil _).symm

theorem shows_clear (log : Log) : log.clear.Shows log.capacity [] where
  capacity_eq := rfl
  lines_eq := (List.rtake_nil _).symm

section

variable {log : Log} {room : Nat} {lines : List String}

/-- one more line goes behind the others, or behind all but the oldest of a full log -/
theorem lines_append (log : Log) (line : String) : (log.append line).lines =
    if log.lines.length < log.capacity then log.lines ++ [line] else log.lines.tail ++ [line] := by
  by_cases h : log.lines.length < log.capacity
  · rw [if_pos h, append, if_neg (Nat.not_le.2 h)]
  · rw [if_neg h, append, if_pos (Nat.not_lt.1 h), List.drop_one]

/-- there are as many lines as were appended, up to the room there is -/
theorem Shows.length (h : log.Shows room lines) : log.lines.length = min room lines.length := by
  rw [h.lines_eq, List.rtake, List.length_drop]
  omega

theorem Shows.append (h : log.Shows room lines) (hroom : 0 < room) (line : String) :
    (log.append line).Shows room (lines ++ [line]) where
  capacity_eq := h.capacity_eq
  lines_eq := by
    obtain ⟨rest, rfl⟩ := Nat.exists_eq_add_one.2 hroom
    have hlength := h.length
    rw [List.rtake_concat_succ, lines_append, h.capacity_eq]
    split
    · next hroomy =>
      -- nothing was dropped so far, and all that is shown stays
      have hall : log.lines = lines.rtake rest := by
        rw [h.lines_eq, List.rtake, List.rtake]
        congr 1
        omega
      rw [hall]
    · next hfull =>
      have hlast : log.lines.tail = lines.rtake rest := by
        rw [h.lines_eq, List.rtake, List.tail_drop, List.rtake]
        congr 1
        omega
      rw [hlast]

theorem Shows.appends (h : log.Shows room lines) (hroom : 0 < room) (more : List String) :
    (log.run (more.map .append)).Shows room (lines ++ more) := by
  induction more generalizing log lines with
  | nil =>
    rw [List.append_nil]
    exact h
  | cons line more ih =>
    rw [List.append_cons]
    exact ih (h.append hroom line)

end

theorem shows_run (name : String) (capacity : Nat) {ops : List Op} {lines : List String} (h : SinceClear ops lines) :
    ((withCapacity name capacity).run ops).Shows (max capacity 1) lines := by
  have hroom : 0 < max capacity 1 := Nat.le_max_right capacity 1
  cases h with
  | made => exact (shows_withCapacity name capacity).appends hroom lines
  | cleared before =>
    -- what was shown before is gone, and only the capacity is still there
    have hclear := shows_clear ((withCapacity name capacity).run before)
    rw [capacity_run] at hclear
    rw [run_append]
    exact hclear.appends hroom lines

/-- **A log shows the last lines since it was cleared.** Take a log of any capacity, zero included, and any operations
on it. There are lines that were appended since the last clear, and the log shows the last of them, oldest first, as
many as its capacity says and one at least; it shows all of them if they are no more than that. So it never holds more
lines than it has room for; one more line stands behind all others while there is room, and pushes out the oldest one,
and no other, when there is none. -/
theorem lines_follow_history (name : String) (capacity : Nat) (ops : List Op) :
    let room := max capacity 1
    let log := (withCapacity name capacity).run ops
    (∃ lines, SinceClear ops lines) ∧
    (∀ lines, SinceClear ops lines →
      log.lines = lines.rtake room ∧ (lines.length ≤ room → log.lines = lines)) ∧
    log.lines.length ≤ room ∧
    ∀ line, (log.append line).lines =
      if log.lines.length < room then log.lines ++ [line] else log.lines.tail ++ [line] := by
  intro room log
  have hshows {all : List String} (h : SinceClear ops all) : log.Shows room all := shows_run name capacity h
  obtain ⟨lines, hlines⟩ := exists_sinceClear ops
  refine ⟨⟨lines, hlines⟩, fun all hall => ⟨(hshows hall).lines_eq, fun hfew => ?_⟩, ?_, fun line => ?_⟩
  · rw [(hshows hall).lines_eq, List.rtake, Nat.sub_eq_zero_of_le hfew, List.drop_zero]
  · rw [(hshows hlines).length]
    exact Nat.min_le_left _ _
  · rw [lines_append, (hshows hlines).capacity_eq]

end Log

/-! ## The ends of requests -/

/-- the lines of a lint: the failure of its run -/
def LintLine (id : DocumentId) (command : Command) (reply : Reply) (line : String) : Prop :=
  ∃ error, RunFailed command reply error ∧ line = "Linting " ++ id.uri ++ " failed: " ++ error.message

/-- the lines of a format of any form that reports: the failure of its run -/
def FormatLine (command : Command) (reply : Reply) (line : String) : Prop :=
  ∃ error, RunFailed command reply error ∧ line = "Formatting failed: " ++ error.message

/-- the lines of a format whose edit goes to a surface: the failure of its run, or the refusal of the surface -/
def SurfaceLine (request : FormatRequest) (reply : Reply) (answer : TextEdit → Except FormatError Unit)
    (line : String) : Prop :=
  FormatLine request.command reply line ∨
    ∃ edit refusal, request.edit reply = .ok edit ∧ answer edit = .error refusal ∧
      line = "Applying formatting to " ++ request.document.id.uri ++ " failed: " ++ refusal.message

namespace Session

section

variable {τ : Type} (s : Session) (reply : Reply)

theorem log_startLint (document : Document) : (s.startLint document).1.results.log = s.results.log := by
  unfold startLint
  cases s.config.enabledLint <;> rfl

theorem log_completeLint (request : LintRequest) :
    s.results.log.Takes (LintLine request.document.id request.command reply)
      (s.completeLint request reply).1.results.log := by
  cases hresult : decodeLintReply request.document request.command reply with
  | error e =>
    simp only [completeLint, Results.applyLint, hresult]
    exact Log.takes_line _ _ _ fun line => by simp [LintLine, ← decodeLintReply_eq_error request.document, hresult]
  | ok found =>
    simp only [completeLint, Results.applyLint, hresult]
    exact Log.takes_nothing _ _ fun line => by simp [LintLine, ← decodeLintReply_eq_error request.document, hresult]

theorem log_completeEdits (request : FormatRequest) :
    s.results.log.Takes (FormatLine request.command reply) (s.completeEdits request reply).1.results.log := by
  cases hresult : request.edit reply with
  | error e =>
    simp only [completeEdits, hresult]
    exact Log.takes_line _ _ _ fun line => by simp [FormatLine, ← edit_eq_error, hresult]
  | ok edit =>
    simp only [completeEdits, hresult]
    exact Log.takes_nothing _ _ fun line => by simp [FormatLine, ← edit_eq_error, hresult]

theorem log_completeFormat (request : FormatRequest) (surface : Surface τ) (shown : τ) :
    s.results.log.Takes (SurfaceLine request reply fun edit => (surface request.document edit shown).1)
      (s.completeFormat request reply surface shown).1.results.log := by
  cases hresult : request.edit reply with
  | error e =>
    simp only [completeFormat, Results.applyFormat, hresult]
    exact Log.takes_line _ _ _ fun line => by simp [SurfaceLine, FormatLine, ← edit_eq_error, hresult]
  | ok edit =>
    rcases hanswer : surface request.document edit shown with ⟨refusal | _, after⟩
    · simp only [completeFormat, Results.applyFormat, hresult, hanswer]
      exact Log.takes_line _ _ _ fun line => by simp [SurfaceLine, FormatLine, ← edit_eq_error, hresult, hanswer]
    · simp only [completeFormat, Results.applyFormat, hresult, hanswer]
      exact Log.takes_nothing _ _ fun line => by simp [SurfaceLine, FormatLine, ← edit_eq_error, hresult, hanswer]

theorem log_reload : s.reload.1.results.log = s.results.log := by
  simp only [reload, settle]
  split <;> rfl

end

end Session

/-- the lines of a format by what becomes of its edit; one that is only computed reports nothing -/
def FormatUse.Line (use : FormatUse) (request : FormatRequest) (reply : Reply) (answer : Except FormatError Unit)
    (line : String) : Prop :=
  match use with
  | .compute => False
  | .provide => FormatLine request.command reply line
  | .apply => SurfaceLine request reply (fun _ => answer) line

theorem FormatUse.log_finish (use : FormatUse) (s : Session) (request : FormatRequest) (reply : Reply)
    (answer : Except FormatError Unit) :
    s.results.log.Takes (use.Line request reply answer) (use.finish s request reply answer).results.log := by
  cases use with
  | compute => exact Log.takes_nothing _ _ fun _ => id
  | provide => exact s.log_completeEdits reply request
  | apply => exact s.log_completeFormat reply request (fun _ _ state => (answer, state)) ()

/-! ## Events -/

/-- two ends of the same run, of which a host takes in the first only -/
inductive Event.SameRun : Event → Event → Prop where
  | lint (k : Nat) (reply other : Reply) : SameRun (.lintDone k reply) (.lintDone k other)
  | format (k : Nat) (reply other : Reply) (answer answer' : Except FormatError Unit) :
      SameRun (.formatDone k reply answer) (.formatDone k other answer')

namespace Host

/-- the log of the session -/
def log (h : Host) : Log := h.session.results.log

/-- the lines that an event reports: it ends the run of a request that is under way -/
inductive Reports (h : Host) : Event → String → Prop where
  | lint {k : Nat} {request : LintRequest} {reply : Reply} {line : String} :
      h.lints[k]? = some ⟨request, none⟩ → LintLine request.document.id request.command reply line →
      Reports h (.lintDone k reply) line
  | format {k : Nat} {use : FormatUse} {request : FormatRequest} {reply : Reply} {answer : Except FormatError Unit}
      {line : String} :
      h.formats[k]? = some ⟨use, request, none⟩ → use.Line request reply answer line →
      Reports h (.formatDone k reply answer) line

theorem reports_lintDone (h : Host) (k : Nat) (reply : Reply) (request : LintRequest)
    (hk : h.lints[k]? = some ⟨request, none⟩) :
    h.Reports (.lintDone k reply) = LintLine request.document.id request.command reply := by
  funext line
  refine propext ⟨?_, .lint hk⟩
  rintro (⟨hother, hline⟩ | _)
  rw [hk] at hother
  cases hother
  exact hline

theorem reports_formatDone (h : Host) (k : Nat) (reply : Reply) (answer : Except FormatError Unit) (use : FormatUse)
    (request : FormatRequest) (hk : h.formats[k]? = some ⟨use, request, none⟩) :
    h.Reports (.formatDone k reply answer) = use.Line request reply answer := by
  funext line
  refine propext ⟨?_, .format hk⟩
  rintro (_ | ⟨hother, hline⟩)
  rw [hk] at hother
  cases hother
  exact hline

theorem step_formatDone_idle (h : Host) (k : Nat) (reply : Reply) (answer : Except FormatError Unit)
    (hk : ∀ use request, h.formats[k]? ≠ some ⟨use, request, none⟩) : h.step (.formatDone k reply answer) = h := by
  rcases hr : h.formats[k]? with _ | ⟨use, request, _ | earlier⟩
  · simp only [step, hr]
  · exact absurd hr (hk use request)
  · simp only [step, hr]

/-- **An event puts into the log what it reports, and nothing else.** Only the end of the session empties the log. -/
theorem log_step (h : Host) (e : Event) (he : e ≠ .shutdown) : h.log.Takes (h.Reports e) (h.step e).log := by
  cases e with
  | lint document =>
    have hlog : (h.step (.lint document)).log = h.log := h.session.log_startLint document
    rw [hlog]
    exact Log.takes_nothing _ _ (by rintro _ ⟨⟩)
  | lintDone k reply =>
    by_cases hk : ∃ request, h.lints[k]? = some ⟨request, none⟩
    · obtain ⟨request, hk⟩ := hk
      rw [h.reports_lintDone k reply request hk, log, log, h.session_step_lintDone k reply request hk]
      exact h.session.log_completeLint reply request
    · rw [h.step_lintDone_idle k reply fun request hr => hk ⟨request, hr⟩]
      exact Log.takes_nothing _ _ (by rintro _ (⟨hr, -⟩ | _); exact hk ⟨_, hr⟩)
  | formatDone k reply answer =>
    by_cases hk : ∃ use request, h.formats[k]? = some ⟨use, request, none⟩
    · obtain ⟨use, request, hk⟩ := hk
      rw [h.reports_formatDone k reply answer use request hk]
      simp only [log, step, hk]
      exact use.log_finish h.session request reply answer
    · rw [h.step_formatDone_idle k reply answer fun use request hr => hk ⟨use, request, hr⟩]
      exact Log.takes_nothing _ _ (by rintro _ (_ | ⟨hr, -⟩); exact hk ⟨_, _, hr⟩)
  | reload =>
    have hlog : (h.step .reload).log = h.log := h.session.log_reload
    rw [hlog]
    exact Log.takes_nothing _ _ (by rintro _ ⟨⟩)
  | change change =>
    have hlog : (h.step (.change change)).log = h.log := by
      rw [step_change]
      split
      · exact h.session.log_reload
      · rfl
    rw [hlog]
    exact Log.takes_nothing _ _ (by rintro _ ⟨⟩)
  | shutdown => exact absurd rfl he
  | _ => exact Log.takes_nothing _ _ (by rintro _ ⟨⟩)

/-! ## Runs -/

/-- the lines that a list of events reports, in their order -/
inductive Reported : Host → List Event → List String → Prop where
  | nil (h : Host) : Reported h [] []
  | line {h : Host} {e : Event} {events : List Event} {line : String} {lines : List String} :
      h.Reports e line → Reported (h.step e) events lines → Reported h (e :: events) (line :: lines)
  | silent {h : Host} {e : Event} {events : List Event} {lines : List String} :
      (∀ line, ¬ h.Reports e line) → Reported (h.step e) events lines → Reported h (e :: events) lines

/-- the log after some events is the earlier one with the lines that they report -/
theorem log_run (h : Host) (events : List Event) (hopen : .shutdown ∉ events) :
    ∃ lines, h.Reported events lines ∧ (h.run events).log = lines.foldl Log.append h.log := by
  induction events generalizing h with
  | nil => exact ⟨[], .nil h, rfl⟩
  | cons e events ih =>
    have hstep := h.log_step e fun he => hopen (he ▸ List.mem_cons_self)
    obtain ⟨lines, hlines, hlog⟩ := ih (h.step e) fun hmem => hopen (List.mem_cons_of_mem _ hmem)
    by_cases hline : ∃ line, h.Reports e line
    · obtain ⟨line, hline⟩ := hline
      refine ⟨line :: lines, .line hline hlines, ?_⟩
      rw [List.foldl_cons, ← hstep.1 line hline, ← hlog]
      rfl
    · have hsilent (line : String) : ¬ h.Reports e line := fun hr => hline ⟨line, hr⟩
      refine ⟨lines, .silent hsilent hlines, ?_⟩
      rw [← hstep.2 hsilent, ← hlog]
      rfl

/-- a log that shows the end of some lines goes on to show the end of these and the reported ones -/
theorem log_keeps_last (h : Host) {room : Nat} {lines : List String} (hshows : h.log.Shows room lines)
    (hroom : 0 < room) (events : List Event) (hopen : .shutdown ∉ events) :
    ∃ reported, h.Reported events reported ∧ (h.run events).log.Shows room (lines ++ reported) := by
  obtain ⟨reported, hreported, hlog⟩ := h.log_run events hopen
  refine ⟨reported, hreported, ?_⟩
  have happends : h.log.run (reported.map .append) = reported.foldl Log.append h.log := List.foldl_map
  rw [hlog, ← happends]
  exact hshows.appends hroom reported

/-- a format whose run is over stays as it is -/
theorem format_kept (h : Host) (e : Event) (k : Nat) (use : FormatUse) (request : FormatRequest) (reply : Reply)
    (hk : h.formats[k]? = some ⟨use, request, some reply⟩) :
    (h.step e).formats[k]? = some ⟨use, request, some reply⟩ := by
  cases e with
  | lint document => exact hk
  | lintDone j other =>
    simp only [step]
    split <;> exact hk
  | format use' document =>
    simp only [step]
    rw [List.getElem?_append_left (List.getElem?_eq_some_iff.1 hk).1, hk]
  | formatDone j other answer =>
    by_cases hj : ∃ use request, h.formats[j]? = some ⟨use, request, none⟩
    · obtain ⟨use', request', hj⟩ := hj
      have hjk : j ≠ k := by
        rintro rfl
        rw [hj] at hk
        cases hk
      simp only [step, hj]
      rw [List.getElem?_set_ne hjk, hk]
    · rw [h.step_formatDone_idle j other answer fun use request hr => hj ⟨use, request, hr⟩, hk]
  | _ => exact hk

/-- a lint that was ended keeps its answer -/
theorem lint_over (h : Host) (k : Nat) (reply : Reply) (request : LintRequest)
    (hk : h.lints[k]? = some ⟨request, none⟩) (later : List Event) :
    ((h.step (.lintDone k reply)).run later).lints[k]? = some ⟨request, some reply⟩ := by
  induction later using List.reverseRecOn with
  | nil =>
    have hlt := (List.getElem?_eq_some_iff.1 hk).1
    simp [run, (h.step_lintDone k reply request hk).2, hlt]
  | append_singleton later e ih =>
    rw [run_snoc]
    exact lint_kept _ e k _ ih (by rintro ⟨_, _, -, ⟨⟩⟩)

/-- a format that was ended keeps its answer -/
theorem format_over (h : Host) (k : Nat) (reply : Reply) (answer : Except FormatError Unit) (use : FormatUse)
    (request : FormatRequest) (hk : h.formats[k]? = some ⟨use, request, none⟩) (later : List Event) :
    ((h.step (.formatDone k reply answer)).run later).formats[k]? = some ⟨use, request, some reply⟩ := by
  induction later using List.reverseRecOn with
  | nil =>
    have hlt := (List.getElem?_eq_some_iff.1 hk).1
    simp only [run, List.foldl_nil, step, hk]
    rw [List.getElem?_set_self hlt]
  | append_singleton later e ih =>
    rw [run_snoc]
    exact format_kept _ e k _ _ _ ih

/-- a run whose end was reported is not reported again -/
theorem reports_once (h : Host) (e again : Event) (line : String) (hr : h.Reports e line) (hsame : e.SameRun again)
    (later : List Event) (other : String) : ¬ ((h.step e).run later).Reports again other := by
  cases hsame with
  | lint k reply reply' =>
    obtain ⟨hk, -⟩ | _ := hr
    rintro (⟨hopen, -⟩ | _)
    rw [h.lint_over k reply _ hk later] at hopen
    cases hopen
  | format k reply reply' answer answer' =>
    obtain _ | ⟨hk, -⟩ := hr
    rintro (_ | ⟨hopen, -⟩)
    rw [h.format_over k reply answer _ _ hk later] at hopen
    cases hopen

end Host

/-! ## Whole requests -/

namespace Session

section

variable {σ τ : Type} (s : Session) (tool : ToolRun σ) (document : Document) (state : σ)

theorem log_lintDocument_off (hoff : s.config.enabledLint = false) :
    (s.lintDocument tool document state).2.1.results.log = s.results.log := by
  rw [s.lintDocument_off tool document state hoff]
  exact s.log_startLint document

theorem log_lintDocument_on (hon : s.config.enabledLint = true) :
    let ran := tool (s.command .lint document) (stdinPayload document.text) (s.startLint document).1 state
    ran.2.1.results.log.Takes (LintLine document.id (s.command .lint document) ran.1)
      (s.lintDocument tool document state).2.1.results.log := by
  intro ran
  rw [s.lintDocument_on tool document state hon]
  exact ran.2.1.log_completeLint ran.1 ⟨document, (s.results.registry.begin document.id).2, s.command .lint document⟩

/-- a lint that does not fail leaves the log as its run left it -/
theorem log_lintDocument_of_not_failed (hon : s.config.enabledLint = true)
    (hok : ∀ message, (s.lintDocument tool document state).1 ≠ .failed message) :
    let ran := tool (s.command .lint document) (stdinPayload document.text) (s.startLint document).1 state
    (s.lintDocument tool document state).2.1.results.log = ran.2.1.results.log := by
  intro ran
  refine (s.log_lintDocument_on tool document state hon).2 ?_
  rintro _ ⟨error, hfailed, -⟩
  rw [s.lintDocument_on tool document state hon] at hok
  exact hok error.message ((ran.2.1.failed_with_iff _ ran.1 _).2 ⟨error, hfailed, rfl⟩)

theorem log_provideEdits_on (hon : s.config.enabledFormat = true) :
    let ran := tool (s.command .format document) (stdinPayload document.text) s state
    ran.2.1.results.log.Takes (FormatLine (s.command .format document) ran.1)
      (s.provideEdits tool document state).2.1.results.log := by
  intro ran
  rw [s.provideEdits_on document tool state hon]
  exact ran.2.1.log_completeEdits ran.1 ⟨document, s.command .format document⟩

theorem log_formatDocument_on (surface : Surface τ) (shown : τ) (hon : s.config.enabledFormat = true) :
    let ran := tool (s.command .format document) (stdinPayload document.text) s state
    ran.2.1.results.log.Takes
      (SurfaceLine ⟨document, s.command .format document⟩ ran.1 fun edit => (surface document edit shown).1)
      (s.formatDocument tool surface document state shown).2.1.results.log := by
  intro ran
  rw [s.formatDocument_on document tool surface state shown hon]
  exact ran.2.1.log_completeFormat ran.1 ⟨document, s.command .format document⟩ surface shown

end

end Session

/-! ## Main result -/

/-- **A failure is logged once, and nothing else is.** In every state that a host reaches, an event that does not end
the session puts into the log the one line that it reports, or leaves the log if it reports none; a run whose end was
reported is not reported again; and the log after any such events is the earlier one with the lines that they report.
A whole lint leaves the log when linting is off. When it is on, it adds the failure of its run to what the log has
become meanwhile, and nothing unless it failed. A request for edits does the same, a format on a surface adds the
refusal of the surface as well, and neither an edit that is only computed nor the linter run by itself adds anything. A
bad exit code is worded with the command line, the code, and what is quoted of the output: its first 500 characters,
and dots if there are more. -/
theorem failure_logged_once (root : Path) (store : Store) (builtIn : String) (events : List Event) :
    let h := (Host.create root store builtIn).run events
    let s := h.session
    (∀ e, e ≠ .shutdown → h.log.Takes (h.Reports e) (h.step e).log) ∧
    (∀ e line, h.Reports e line → ∀ again, e.SameRun again →
      ∀ later other, ¬ ((h.step e).run later).Reports again other) ∧
    (∀ later, .shutdown ∉ later →
      ∃ lines, h.Reported later lines ∧ (h.run later).log = lines.foldl Log.append h.log) ∧
    (∀ {σ : Type} (tool : ToolRun σ) (document : Document) (state : σ),
      let lint := s.lintDocument tool document state
      let ran := tool (s.command .lint document) (stdinPayload document.text) (s.startLint document).1 state
      (s.config.enabledLint = false → lint.1 = .disabled ∧ lint.2.1.results.log = s.results.log) ∧
      (s.config.enabledLint = true →
        ran.2.1.results.log.Takes (LintLine document.id (s.command .lint document) ran.1) lint.2.1.results.log ∧
        ((∀ message, lint.1 ≠ .failed message) → lint.2.1.results.log = ran.2.1.results.log))) ∧
    (∀ {σ τ : Type} (tool : ToolRun σ) (surface : Surface τ) (document : Document) (state : σ) (shown : τ),
      let command := s.command .format document
      let ran := tool command (stdinPayload document.text) s state
      let provided := s.provideEdits tool document state
      let formatted := s.formatDocument tool surface document state shown
      let computed := s.computeEdit tool document state
      (s.config.enabledFormat = false → provided.2.1.results.log = s.results.log ∧
        formatted.2.1.results.log = s.results.log ∧ computed.2.1.results.log = s.results.log) ∧
      (s.config.enabledFormat = true →
        ran.2.1.results.log.Takes (FormatLine command ran.1) provided.2.1.results.log ∧
        ran.2.1.results.log.Takes
          (SurfaceLine ⟨document, command⟩ ran.1 fun edit => (surface document edit shown).1)
          formatted.2.1.results.log ∧
        computed.2.1.results.log = ran.2.1.results.log)) ∧
    (∀ {σ : Type} (tool : ToolRun σ) (c : Configuration) (document : Document) (state : σ),
      let command := Command.build s.builtIn .lint c document.path
      (s.runLinter tool c document state).2.1.results.log =
        (tool command (stdinPayload document.text) s state).2.1.results.log) ∧
    (∀ (command : Command) (outcome : Outcome) (error : RunError), RunFailed command (.ok outcome) error →
      ∃ text, Quoted outcome text ∧ error.message =
        "Command: " ++ command.display ++ ", Code: " ++ toString outcome.exitCode ++ ", Error: " ++
          String.ofList (if 500 < text.length then text.take 500 ++ ['.', '.', '.'] else text)) := by
  intro h s
  refine ⟨fun e he => h.log_step e he, fun e line hr again hsame => h.reports_once e again line hr hsame,
    fun later hopen => h.log_run later hopen, fun {σ} tool document state => ⟨fun hoff => ?_, fun hon => ⟨?_, ?_⟩⟩,
    fun {σ τ} tool surface document state shown => ⟨fun hoff => ⟨?_, ?_, ?_⟩, fun hon => ⟨?_, ?_, ?_⟩⟩,
    fun _ _ _ _ => rfl, message_of_exit⟩
  · exact ⟨by rw [s.lintDocument_off tool document state hoff], s.log_lintDocument_off tool document state hoff⟩
  · exact s.log_lintDocument_on tool document state hon
  · exact s.log_lintDocument_of_not_failed tool document state hon
  · rw [s.provideEdits_off document tool state hoff]
  · rw [s.formatDocument_off document tool surface state shown hoff]
  · rw [s.computeEdit_off document tool state hoff]
  · exact s.log_provideEdits_on tool document state hon
  · exact s.log_formatDocument_on tool document state surface shown hon
  · rw [s.computeEdit_on document tool state hon]

end ScriptBridge
