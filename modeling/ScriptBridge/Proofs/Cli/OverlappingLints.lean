/-
A lint of several scripts. The scripts of one lint share a session, and the runs of the tool on them overlap: a script
may be opened as soon as all those are reported that lie as far before it as runs may be under way at once, and the runs
end in any order. `LintRun` is the session together with how far each script is; `step` is the effect of one event, and
`run` that of a list of events, of which those out of turn are ignored.

Scripts meet in one place only, the slots of the registry, which are kept by identity. So the reports are those of each
script linted alone, unless two scripts of one identity can be under way at once: opening the second one makes the
token of the first stale, and the first is reported as superseded.

- `step_cases`: all that one event can do.
- `inv_run`: the session keeps its settings, and no script is ahead of its turn.
- `alone_run`: where identities are apart, the tokens of all scripts under way stay current, and every report is the
  one of the script alone.
- `superseded_of_twins`: where they are not, some run reports a script as superseded.
- `alone_iff_apart`: so the condition is exact; and every run can be brought to its end.
-/
import Mathlib.Data.List.Nodup
import Mathlib.Logic.Function.Basic
import ScriptBridge.Proofs.Cli.ScriptLints
import ScriptBridge.Proofs.Document.Identity

namespace ScriptBridge.Cli

/-! ## Lints and their runs -/

/-- a lint: what is there when it begins, the scripts in their order, and how many runs may be under way at once -/
structure LintJob where
  desk : Desk Unit
  scripts : List Path
  jobs : Nat

/-- how far the lint of one script is -/
inductive Stage where
  | waiting
  | running (request : LintRequest)
  | reported (report : FileReport)

/-- whether a script has its report -/
def Stage.isReported : Stage → Bool
  | .reported _ => true
  | _ => false

/-- the session that the scripts share, and how far each of them is -/
structure LintRun where
  session : Session
  stage : Nat → Stage

/-- a script is opened, or the run of the tool on it ends -/
inductive LintEvent where
  | opened (k : Nat)
  | finished (k : Nat)

/-- the script that an event is about -/
def LintEvent.script : LintEvent → Nat
  | .opened k => k
  | .finished k => k

namespace LintJob

variable (job : LintJob) (replies : Nat → Reply)

/-- the bound on runs under way; no bound below one counts -/
def width : Nat := max job.jobs 1

/-- the report on one script that is linted alone -/
def alone (k : Nat) (path : Path) : FileReport :=
  (lintScript (answering fun _ _ => replies k) job.desk path).1

/-- before any event -/
def start : LintRun := ⟨job.desk.session, fun _ => .waiting⟩

/-- all scripts are reported that lie so far before a script that they make room for it -/
def HasRoom (r : LintRun) (k : Nat) : Prop := ∀ i < k + 1 - job.width, (r.stage i).isReported = true

instance (r : LintRun) (k : Nat) : Decidable (job.HasRoom r k) :=
  inferInstanceAs (Decidable (∀ i < k + 1 - job.width, (r.stage i).isReported = true))

/-- a script is opened: a run of the tool starts, or there is a report at once -/
def opening (r : LintRun) (k : Nat) (path : Path) : LintRun :=
  match openScript r.session job.desk.files path with
  | (session, .ok request) => ⟨session, Function.update r.stage k (.running request)⟩
  | (session, .error report) => ⟨session, Function.update r.stage k (.reported report)⟩

/-- a script is closed with what the run of the tool gave back -/
def closing (r : LintRun) (k : Nat) (path : Path) (request : LintRequest) : LintRun :=
  match closeScript r.session path request (replies k) with
  | (session, report) => ⟨session, Function.update r.stage k (.reported report)⟩

/-- what an event does; out of turn it does nothing -/
def step (r : LintRun) : LintEvent → LintRun
  | .opened k =>
    match job.scripts[k]?, r.stage k with
    | some path, .waiting => if job.HasRoom r k then job.opening r k path else r
    | _, _ => r
  | .finished k =>
    match job.scripts[k]?, r.stage k with
    | some path, .running request => closing replies r k path request
    | _, _ => r

/-- the lint after a list of events -/
def runFrom (r : LintRun) (events : List LintEvent) : LintRun := events.foldl (job.step replies) r

/-- the lint after a list of events from its start -/
def run (events : List LintEvent) : LintRun := job.runFrom replies job.start events

theorem runFrom_append (r : LintRun) (a b : List LintEvent) :
    job.runFrom replies r (a ++ b) = job.runFrom replies (job.runFrom replies r a) b := by
  simp [runFrom, List.foldl_append]

/-! ## One event -/

theorem hasRoom_iff (r : LintRun) (k : Nat) :
    job.HasRoom r k ↔ ∀ i, i + job.width ≤ k → (r.stage i).isReported = true := by
  have hwidth : 1 ≤ job.width := Nat.le_max_right _ _
  exact ⟨fun h i hi => h i (by omega), fun h i hi => h i (by omega)⟩

/-- all that an event can do: nothing, open a script in its turn, or close one that is under way -/
theorem step_cases (r : LintRun) (e : LintEvent) :
    job.step replies r e = r ∨
    (∃ k path, job.scripts[k]? = some path ∧ r.stage k = .waiting ∧ job.HasRoom r k ∧
      job.step replies r e = job.opening r k path) ∨
    ∃ k path request, job.scripts[k]? = some path ∧ r.stage k = .running request ∧
      job.step replies r e = closing replies r k path request := by
  cases e with
  | opened k =>
    simp only [step]
    split
    · next path hpath hwaiting =>
      split
      · next hroom => exact .inr (.inl ⟨k, path, hpath, hwaiting, hroom, rfl⟩)
      · exact .inl rfl
    · exact .inl rfl
  | finished k =>
    simp only [step]
    split
    · next path request hpath hrunning => exact .inr (.inr ⟨k, path, request, hpath, hrunning, rfl⟩)
    · exact .inl rfl

theorem step_opened {r : LintRun} {k : Nat} {path : Path} (hpath : job.scripts[k]? = some path)
    (hwaiting : r.stage k = .waiting) (hroom : job.HasRoom r k) :
    job.step replies r (.opened k) = job.opening r k path := by
  simp only [step, hpath, hwaiting, if_pos hroom]

theorem step_finished {r : LintRun} {k : Nat} {path : Path} {request : LintRequest}
    (hpath : job.scripts[k]? = some path) (hrunning : r.stage k = .running request) :
    job.step replies r (.finished k) = closing replies r k path request := by
  simp only [step, hpath, hrunning]

theorem opening_lintable {r : LintRun} {path : Path} {text : String} (k : Nat)
    (h : Lintable r.session job.desk.files path text) : job.opening r k path =
      ⟨(openScript r.session job.desk.files path).1,
        Function.update r.stage k (.running (requestFor r.session path text))⟩ := by
  rw [opening, openScript_lintable _ _ _ h]

theorem opening_refused {r : LintRun} {path : Path} {report : FileReport} (k : Nat)
    (h : refusal? r.session job.desk.files path = some report) : job.opening r k path =
      ⟨(openScript r.session job.desk.files path).1, Function.update r.stage k (.reported report)⟩ := by
  have hanswer := openScript_refused _ _ _ h
  rw [opening]
  split
  · next session request hopen => cases (congrArg Prod.snd hopen).symm.trans hanswer
  · next session other hopen =>
    cases (congrArg Prod.snd hopen).symm.trans hanswer
    rw [hopen]

theorem closing_eq (r : LintRun) (k : Nat) (path : Path) (request : LintRequest) : closing replies r k path request =
    ⟨(closeScript r.session path request (replies k)).1,
      Function.update r.stage k (.reported (closeScript r.session path request (replies k)).2)⟩ := rfl

/-- a stage after one script went on is the new one of that script, or the old one of another -/
theorem update_eq_cases {stages : Nat → Stage} {k i : Nat} {next stage : Stage}
    (h : Function.update stages k next i = stage) : i = k ∧ next = stage ∨ i ≠ k ∧ stages i = stage := by
  by_cases hik : i = k
  · subst hik
    exact .inl ⟨rfl, (Function.update_self i next stages).symm.trans h⟩
  · exact .inr ⟨hik, (Function.update_of_ne hik next stages).symm.trans h⟩

/-! ## What a run keeps -/

/-- a request is the one that the lint of a script starts with, up to its token -/
def Asked (k : Nat) (request : LintRequest) : Prop :=
  ∃ path text, job.scripts[k]? = some path ∧ Lintable job.desk.session job.desk.files path text ∧
    request.document = .ofFile path text ∧ request.command = job.desk.session.command .lint (.ofFile path text)

/-- the session of a run has the settings that it began with, and no script is ahead of its turn -/
structure Inv (r : LintRun) : Prop where
  setup : ∃ results, r.session = { job.desk.session with results }
  room : ∀ k, r.stage k ≠ .waiting → job.HasRoom r k
  asked : ∀ k request, r.stage k = .running request → job.Asked k request

theorem inv_start : job.Inv job.start where
  setup := ⟨_, rfl⟩
  room _ h := absurd rfl h
  asked _ _ h := by cases h

section
variable {job} {r : LintRun} (hi : job.Inv r)
include hi

/-- what a session is without its results stays what it was -/
theorem Inv.same {α : Type} (f : Session → α)
    (hf : ∀ results, f { job.desk.session with results } = f job.desk.session) : f r.session = f job.desk.session := by
  obtain ⟨results, hsession⟩ := hi.setup
  rw [hsession, hf]

theorem Inv.lintable_iff (path : Path) (text : String) :
    Lintable r.session job.desk.files path text ↔ Lintable job.desk.session job.desk.files path text :=
  iff_of_eq (hi.same (Lintable · job.desk.files path text) fun _ => rfl)

/-- a script under way has room, and no report yet -/
theorem Inv.underWay {k : Nat} {request : LintRequest} (hrunning : r.stage k = .running request) :
    job.HasRoom r k ∧ (r.stage k).isReported = false :=
  ⟨hi.room k (by simp [hrunning]), by simp [hrunning, Stage.isReported]⟩

/-- a script that has room may go on as long as it has no report -/
theorem Inv.advance {k : Nat} {session : Session} {stage : Stage} (hk : (r.stage k).isReported = false)
    (hroom : job.HasRoom r k) (hsetup : ∃ results, session = { r.session with results })
    (hasked : ∀ request, stage = .running request → job.Asked k request) :
    job.Inv ⟨session, Function.update r.stage k stage⟩ := by
  have hroomKept : ∀ i, job.HasRoom r i → job.HasRoom ⟨session, Function.update r.stage k stage⟩ i := by
    intro i h m hm
    have hmk : m ≠ k := by
      rintro rfl
      cases hk.symm.trans (h m hm)
    change (Function.update r.stage k stage m).isReported = true
    rw [Function.update_of_ne hmk]
    exact h m hm
  refine ⟨?_, fun i hstage => hroomKept i ?_, fun i request hrequest => ?_⟩
  · obtain ⟨results, rfl⟩ := hsetup
    obtain ⟨_, hsession⟩ := hi.setup
    exact ⟨results, by rw [hsession]⟩
  · by_cases hik : i = k
    · exact hik ▸ hroom
    · exact hi.room i fun h => hstage ((Function.update_of_ne hik _ _).trans h)
  · rcases update_eq_cases hrequest with ⟨rfl, hnew⟩ | ⟨-, hold⟩
    · exact hasked request hnew
    · exact hi.asked i request hold

theorem Inv.opening {k : Nat} {path : Path} (hpath : job.scripts[k]? = some path) (hwaiting : r.stage k = .waiting)
    (hroom : job.HasRoom r k) : job.Inv (job.opening r k path) := by
  have hk : (r.stage k).isReported = false := by rw [hwaiting]; rfl
  have hsetup := setup_openScript r.session job.desk.files path
  rcases lintable_or_refused r.session job.desk.files path with ⟨text, hlint⟩ | ⟨report, hrefused⟩
  · rw [job.opening_lintable k hlint]
    refine hi.advance hk hroom hsetup fun request h => ?_
    cases h
    exact ⟨path, text, hpath, (hi.lintable_iff path text).1 hlint, rfl,
      hi.same (·.command .lint (.ofFile path text)) fun _ => rfl⟩
  · rw [job.opening_refused k hrefused]
    refine hi.advance hk hroom hsetup fun request h => ?_
    cases h

theorem Inv.closing {k : Nat} {path : Path} {request : LintRequest} (hrunning : r.stage k = .running request) :
    job.Inv (closing replies r k path request) := by
  obtain ⟨hroom, hk⟩ := hi.underWay hrunning
  rw [closing_eq]
  refine hi.advance hk hroom (setup_closeScript r.session path request (replies k)) fun other h => ?_
  cases h

theorem Inv.step (e : LintEvent) : job.Inv (job.step replies r e) := by
  rcases job.step_cases replies r e with h | ⟨k, path, hpath, hwaiting, hroom, h⟩ | ⟨k, path, request, _, hrunning, h⟩
  · rwa [h]
  · rw [h]
    exact hi.opening hpath hwaiting hroom
  · rw [h]
    exact hi.closing replies hrunning

theorem Inv.runFrom (events : List LintEvent) : job.Inv (job.runFrom replies r events) := by
  induction events generalizing r with
  | nil => exact hi
  | cons e events ih => exact ih (hi.step replies e)

end

theorem inv_run (events : List LintEvent) : job.Inv (job.run replies events) := job.inv_start.runFrom replies events

/-! ## Where identities are apart -/

/-- no two scripts that can be under way at once have one identity -/
def Apart : Prop := ∀ i j p q textP textQ, job.scripts[i]? = some p → job.scripts[j]? = some q → i < j →
  j < i + job.width → Lintable job.desk.session job.desk.files p textP →
  Lintable job.desk.session job.desk.files q textQ → DocumentId.ofPath p ≠ DocumentId.ofPath q

/-- the token of every script under way is current, and every report is that of the script alone -/
structure Sound (r : LintRun) : Prop where
  current : ∀ k request, r.stage k = .running request →
    r.session.results.registry.latest? request.document.id = some request.token
  alone : ∀ k path report, job.scripts[k]? = some path → r.stage k = .reported report →
    report = job.alone replies k path

theorem sound_start : job.Sound replies job.start where
  current _ _ h := by cases h
  alone _ _ _ _ h := by cases h

section
variable {job replies} {r : LintRun}

theorem Apart.of_room (hapart : job.Apart) {i j : Nat} {p q : Path} {textP textQ : String} (hij : i ≠ j)
    (hp : job.scripts[i]? = some p) (hq : job.scripts[j]? = some q)
    (hlintP : Lintable job.desk.session job.desk.files p textP)
    (hlintQ : Lintable job.desk.session job.desk.files q textQ) (hroomI : job.HasRoom r i) (hroomJ : job.HasRoom r j)
    (hi : (r.stage i).isReported = false) (hj : (r.stage j).isReported = false) :
    DocumentId.ofPath p ≠ DocumentId.ofPath q := by
  rw [hasRoom_iff] at hroomI hroomJ
  have hnear : j < i + job.width := Nat.lt_of_not_le fun h => by cases hi.symm.trans (hroomJ i h)
  have hnear' : i < j + job.width := Nat.lt_of_not_le fun h => by cases hj.symm.trans (hroomI j h)
  rcases Nat.lt_or_gt_of_ne hij with h | h
  · exact hapart i j p q textP textQ hp hq h hnear hlintP hlintQ
  · exact (hapart j i q p textQ textP hq hp h hnear' hlintQ hlintP).symm

/-- one script goes on and leaves the tokens of the others -/
theorem Sound.advance (hs : job.Sound replies r) {k : Nat} {session : Session} {stage : Stage}
    (hothers : ∀ i request, i ≠ k → r.stage i = .running request →
      session.results.registry.latest? request.document.id = r.session.results.registry.latest? request.document.id)
    (hrunning : ∀ request, stage = .running request →
      session.results.registry.latest? request.document.id = some request.token)
    (hreported : ∀ path report, job.scripts[k]? = some path → stage = .reported report →
      report = job.alone replies k path) :
    job.Sound replies ⟨session, Function.update r.stage k stage⟩ := by
  refine ⟨fun i request hrequest => ?_, fun i path report hpath hreport => ?_⟩
  · rcases update_eq_cases hrequest with ⟨rfl, hnew⟩ | ⟨hik, hold⟩
    · exact hrunning request hnew
    · exact (hothers i request hik hold).trans (hs.current i request hold)
  · rcases update_eq_cases hreport with ⟨rfl, hnew⟩ | ⟨-, hold⟩
    · exact hreported path report hpath hnew
    · exact hs.alone i path report hpath hold

variable (hapart : job.Apart) (hi : job.Inv r) (hs : job.Sound replies r)
include hapart hi hs

theorem Sound.opening {k : Nat} {path : Path} (hpath : job.scripts[k]? = some path) (hwaiting : r.stage k = .waiting)
    (hroom : job.HasRoom r k) : job.Sound replies (job.opening r k path) := by
  have hk : (r.stage k).isReported = false := by rw [hwaiting]; rfl
  rcases lintable_or_refused r.session job.desk.files path with ⟨text, hlint⟩ | ⟨report, hrefused⟩
  · rw [job.opening_lintable k hlint]
    refine hs.advance (fun i request hik hrunning => ?_) (fun request h => ?_) fun other report _ h => ?_
    · obtain ⟨other, otherText, hother, hotherLint, hdocument, -⟩ := hi.asked i request hrunning
      obtain ⟨hroomI, hunreported⟩ := hi.underWay hrunning
      rw [hdocument]
      exact latest_openScript _ _ _ (hapart.of_room hik.symm hpath hother ((hi.lintable_iff path text).1 hlint)
        hotherLint hroom hroomI hk hunreported)
    · cases h
      exact latest_openScript_lintable _ _ _ hlint
    · cases h
  · rw [job.opening_refused k hrefused]
    refine hs.advance (fun i request _ hrunning => ?_) (fun request h => ?_) fun other answer hother hanswer => ?_
    · -- a script is under way, so linting is on, and the refused one could not be read
      obtain ⟨_, _, _, hotherLint, _⟩ := hi.asked i request hrunning
      have hon := ((hi.lintable_iff _ _).2 hotherLint).1
      rw [session_openScript_refused _ _ _ hon hrefused]
    · cases h
    · cases hanswer
      cases hpath.symm.trans hother
      rw [hi.same (refusal? · job.desk.files path) fun _ => rfl] at hrefused
      exact (congrArg Prod.fst (lintScript_refused _ job.desk path hrefused)).symm

theorem Sound.closing {k : Nat} {path : Path} {request : LintRequest} (hpath : job.scripts[k]? = some path)
    (hrunning : r.stage k = .running request) : job.Sound replies (closing replies r k path request) := by
  obtain ⟨own, text, hown, hlint, hdocument, hcommand⟩ := hi.asked k request hrunning
  cases hpath.symm.trans hown
  obtain ⟨hroom, hk⟩ := hi.underWay hrunning
  have hreply : (closeScript r.session path request (replies k)).2 = job.alone replies k path := by
    rw [closeScript_current _ _ _ _ (hs.current k request hrunning), LintJob.alone, report_lintScript _ _ _ hlint,
      verdict, verdict, hi.same Session.root fun _ => rfl, hdocument, hcommand]
    rfl
  rw [closing_eq]
  refine hs.advance (fun i other hik hother => ?_) (fun other h => ?_) fun same report hsame hreport => ?_
  · obtain ⟨otherPath, otherText, hotherPath, hotherLint, hotherDocument, -⟩ := hi.asked i other hother
    obtain ⟨hroomI, hunreported⟩ := hi.underWay hother
    refine latest_closeScript r.session path request (replies k) ?_
    rw [hdocument, hotherDocument]
    exact hapart.of_room hik.symm hpath hotherPath hlint hotherLint hroom hroomI hk hunreported
  · cases h
  · cases hpath.symm.trans hsame
    rw [← Stage.reported.inj hreport, hreply]

theorem Sound.step (e : LintEvent) : job.Sound replies (job.step replies r e) := by
  rcases job.step_cases replies r e with h | ⟨k, path, hpath, hwaiting, hroom, h⟩ |
    ⟨k, path, request, hpath, hrunning, h⟩
  · rwa [h]
  · rw [h]
    exact hs.opening hapart hi hpath hwaiting hroom
  · rw [h]
    exact hs.closing hapart hi hpath hrunning

end

/-- where identities are apart, every report of a run is that of the script alone -/
theorem alone_run (hapart : job.Apart) (events : List LintEvent) : job.Sound replies (job.run replies events) := by
  have hfrom : ∀ r, job.Inv r → job.Sound replies r → job.Sound replies (job.runFrom replies r events) := by
    induction events with
    | nil => exact fun r _ hs => hs
    | cons e events ih => exact fun r hi hs => ih _ (hi.step replies e) (hs.step hapart hi e)
  exact hfrom job.start job.inv_start (job.sound_start replies)

/-! ## Scripts in their turn -/

/-- the first scripts are linted one after the other -/
def inTurn (n : Nat) : List LintEvent := (List.range n).flatMap fun k => [.opened k, .finished k]

theorem inTurn_succ (n : Nat) : inTurn (n + 1) = inTurn n ++ [.opened n, .finished n] := by
  simp [inTurn, List.range_succ]

theorem stage_opening_other (r : LintRun) (path : Path) {i k : Nat} (h : i ≠ k) :
    (job.opening r k path).stage i = r.stage i := by
  rw [opening]
  split <;> exact Function.update_of_ne h _ _

/-- an event leaves the other scripts where they are -/
theorem stage_step_other (r : LintRun) (e : LintEvent) {i : Nat} (h : i ≠ e.script) :
    (job.step replies r e).stage i = r.stage i := by
  cases e with
  | opened k =>
    simp only [step]
    split
    · split
      · exact job.stage_opening_other r _ h
      · rfl
    · rfl
  | finished k =>
    simp only [step]
    split
    · exact Function.update_of_ne h _ _
    · rfl

/-- a script that has room is under way or reported after it was to be opened -/
theorem stage_step_opened {r : LintRun} {k : Nat} (hk : k < job.scripts.length) (hroom : job.HasRoom r k) :
    (job.step replies r (.opened k)).stage k ≠ .waiting := by
  have hpath : job.scripts[k]? = some job.scripts[k] := List.getElem?_eq_getElem hk
  cases hstage : r.stage k with
  | waiting =>
    rw [job.step_opened replies hpath hstage hroom]
    rcases lintable_or_refused r.session job.desk.files job.scripts[k] with ⟨text, hlint⟩ | ⟨report, hrefused⟩
    · rw [job.opening_lintable k hlint]
      simp
    · rw [job.opening_refused k hrefused]
      simp
  | running request => simp [step, hpath, hstage]
  | reported report => simp [step, hpath, hstage]

/-- a script that is under way or reported is reported after it was to be finished -/
theorem stage_step_finished {r : LintRun} {k : Nat} (hk : k < job.scripts.length) (hstage : r.stage k ≠ .waiting) :
    ((job.step replies r (.finished k)).stage k).isReported = true := by
  have hpath : job.scripts[k]? = some job.scripts[k] := List.getElem?_eq_getElem hk
  cases hrunning : r.stage k with
  | waiting => exact absurd hrunning hstage
  | running request =>
    rw [job.step_finished replies hpath hrunning, closing_eq]
    simp [Stage.isReported]
  | reported report => simp [step, hpath, hrunning, Stage.isReported]

/-- scripts that take their turn are reported, and the ones after them stay where they are -/
theorem runFrom_inTurn (r : LintRun) (n : Nat) (hn : n ≤ job.scripts.length) :
    (∀ k < n, ((job.runFrom replies r (inTurn n)).stage k).isReported = true) ∧
      ∀ k, n ≤ k → (job.runFrom replies r (inTurn n)).stage k = r.stage k := by
  induction n with
  | zero => exact ⟨fun k hk => absurd hk (Nat.not_lt_zero k), fun k _ => rfl⟩
  | succ n ih =>
    obtain ⟨hdone, hrest⟩ := ih (Nat.le_of_succ_le hn)
    rw [inTurn_succ, runFrom_append]
    generalize job.runFrom replies r (inTurn n) = before at hdone hrest
    have hroom : job.HasRoom before n := (job.hasRoom_iff before n).2 fun i hi =>
      hdone i (Nat.lt_of_lt_of_le (Nat.lt_add_of_pos_right (Nat.lt_of_lt_of_le Nat.one_pos (Nat.le_max_right _ _))) hi)
    have hother : ∀ k, k ≠ n →
        (job.runFrom replies before [.opened n, .finished n]).stage k = before.stage k := by
      intro k hk
      change (job.step replies (job.step replies before (.opened n)) (.finished n)).stage k = _
      rw [job.stage_step_other replies _ (.finished n) hk, job.stage_step_other replies _ (.opened n) hk]
    refine ⟨fun k hk => ?_, fun k hk => ?_⟩
    · rcases Nat.lt_succ_iff_lt_or_eq.1 hk with hlt | rfl
      · rw [hother k (Nat.ne_of_lt hlt)]
        exact hdone k hlt
      · exact job.stage_step_finished replies hn (job.stage_step_opened replies hn hroom)
    · rw [hother k (Nat.ne_of_gt hk)]
      exact hrest k (Nat.le_of_succ_le hk)

/-- every run can be brought to its end -/
theorem run_completes (events : List LintEvent) : ∃ more, ∀ k < job.scripts.length,
    ((job.run replies (events ++ more)).stage k).isReported = true := by
  refine ⟨inTurn job.scripts.length, ?_⟩
  rw [run, runFrom_append]
  exact (job.runFrom_inTurn replies _ _ (Nat.le_refl _)).1

/-! ## Where identities meet -/

/-- the reply of a run that finds nothing -/
def quietReply : Reply := .ok ⟨0, "", ""⟩

/-- no script that is linted alone is reported as superseded -/
theorem alone_ne_late (s : Session) (k : Nat) (path : Path) : job.alone replies k path ≠ lateReport s path := by
  rcases lintable_or_refused job.desk.session job.desk.files path with ⟨text, hlint⟩ | ⟨report, hrefused⟩
  · rw [alone, report_lintScript _ _ _ hlint]
    exact verdict_ne_late _ _ _ _ _
  · rw [alone, lintScript_refused _ _ _ hrefused]
    exact fun h => refusal?_ne_late _ _ _ _ (hrefused.trans (congrArg some h))

/-- of two scripts of one identity that can be under way at once, the first is superseded when the second is opened -/
theorem superseded_of_twins {i j : Nat} {p q : Path} {textP textQ : String} (hp : job.scripts[i]? = some p)
    (hq : job.scripts[j]? = some q) (hij : i < j) (hnear : j < i + job.width)
    (hlintP : Lintable job.desk.session job.desk.files p textP)
    (hlintQ : Lintable job.desk.session job.desk.files q textQ) (hid : DocumentId.ofPath p = DocumentId.ofPath q) :
    ∃ events, ∀ replies, ¬ LintFailed (replies i) →
      (job.run replies events).stage i = .reported (lateReport job.desk.session p) := by
  refine ⟨inTurn i ++ [.opened i, .opened j, .finished i], fun replies hfine => ?_⟩
  have hlength : i ≤ job.scripts.length := Nat.le_of_lt (List.getElem?_eq_some_iff.1 hp).1
  have hwidth : 1 ≤ job.width := Nat.le_max_right _ _
  have hne : i ≠ j := Nat.ne_of_lt hij
  -- the scripts before the first of the two are done
  obtain ⟨hdone, hrest⟩ := job.runFrom_inTurn replies job.start i hlength
  rw [run, runFrom_append]
  have hi : job.Inv (job.runFrom replies job.start (inTurn i)) := job.inv_run replies _
  generalize job.runFrom replies job.start (inTurn i) = r at hdone hrest hi
  -- the first one is opened
  have hroomI : job.HasRoom r i := (job.hasRoom_iff r i).2 fun m hm => hdone m (by omega)
  have hopenI : job.step replies r (.opened i) = ⟨(openScript r.session job.desk.files p).1,
      Function.update r.stage i (.running (requestFor r.session p textP))⟩ := by
    rw [job.step_opened replies hp (hrest i (Nat.le_refl i)) hroomI,
      job.opening_lintable i ((hi.lintable_iff p textP).2 hlintP)]
  have hi₁ := hi.step replies (.opened i)
  have hother : ∀ m, m ≠ i → (job.step replies r (.opened i)).stage m = r.stage m :=
    fun m hm => job.stage_step_other replies r (.opened i) hm
  -- then the second one, which is not so far behind that it has to wait for the first
  have hwaitingJ := (hother j hne.symm).trans (hrest j (Nat.le_of_lt hij))
  have hroomJ : job.HasRoom (job.step replies r (.opened i)) j := by
    refine (job.hasRoom_iff _ j).2 fun m hm => ?_
    rw [hother m (by omega)]
    exact hdone m (by omega)
  have hopenJ := job.step_opened replies hq hwaitingJ hroomJ
  rw [job.opening_lintable j ((hi₁.lintable_iff q textQ).2 hlintQ)] at hopenJ
  have hi₂ := hi₁.step replies (.opened j)
  have hrunning : (job.step replies (job.step replies r (.opened i)) (.opened j)).stage i =
      .running (requestFor r.session p textP) := by
    rw [job.stage_step_other replies _ (.opened j) hne, hopenI]
    exact Function.update_self _ _ _
  -- so the token of the first one is no longer the latest when its run ends
  have hstale : (job.step replies (job.step replies r (.opened i)) (.opened j)).session.results.registry.latest?
      (DocumentId.ofPath p) ≠ some (requestFor r.session p textP).token := by
    rw [hopenJ, hid, latest_openScript_lintable _ _ _ ((hi₁.lintable_iff q textQ).2 hlintQ), hopenI,
      token_after _ _ _ ((hi.lintable_iff p textP).2 hlintP)]
    simp
  change (job.step replies (job.step replies (job.step replies r (.opened i)) (.opened j)) (.finished i)).stage i = _
  rw [job.step_finished replies hp hrunning, closing_eq]
  simp only [Function.update_self]
  rw [closeScript_late _ p _ _ rfl hfine hstale, lateReport, lateReport, hi₂.same Session.root fun _ => rfl]

/-- scripts of different identities are apart -/
theorem apart_of_ids (hids : (job.scripts.map DocumentId.ofPath).Nodup) : job.Apart := by
  intro i j p q _ _ hp hq hij _ _ _ hid
  have hplaces : (job.scripts.map DocumentId.ofPath)[i]? = (job.scripts.map DocumentId.ofPath)[j]? := by
    rw [List.getElem?_map, List.getElem?_map, hp, hq]
    exact congrArg some hid
  have hlength : i < (job.scripts.map DocumentId.ofPath).length := by
    rw [List.length_map]
    exact (List.getElem?_eq_some_iff.1 hp).1
  exact Nat.ne_of_lt hij ((List.getElem?_inj hlength hids).1 hplaces)

/-- different absolute paths without backslashes have different identities, so they are apart -/
theorem apart_of_plain (hnodup : job.scripts.Nodup)
    (hplain : ∀ p ∈ job.scripts, p.isAbsolute = true ∧ '\\' ∉ p.text.toList) : job.Apart := by
  refine job.apart_of_ids (List.Nodup.map_on (fun p hp q hq hid => ?_) hnodup)
  obtain ⟨habsP, hbackP⟩ := hplain p hp
  obtain ⟨habsQ, hbackQ⟩ := hplain q hq
  exact DocumentId.eq_of_ofPath_eq habsP habsQ hbackP hbackQ hid

/-! ## Main result -/

/-- scripts that are not apart give a run with a report that is not the one of the script alone -/
theorem exists_superseded (h : ¬ job.Apart) : ∃ replies events k path, job.scripts[k]? = some path ∧
    (job.run replies events).stage k = .reported (lateReport job.desk.session path) := by
  simp only [Apart, not_forall, not_not] at h
  obtain ⟨i, j, p, q, textP, textQ, hp, hq, hij, hnear, hlintP, hlintQ, hid⟩ := h
  obtain ⟨events, hevents⟩ := job.superseded_of_twins hp hq hij hnear hlintP hlintQ hid
  exact ⟨fun _ => quietReply, events, i, p, hp, hevents _ fun hfailed => hfailed.1 rfl⟩

/-- **Each script is reported as if it were alone, exactly if identities are apart.** Of the scripts of a lint that can
be read, no two may have one identity that can be under way at once. Then, whatever the tool gives back for each script
and in whatever order its runs end, every report is the one of the script linted alone; otherwise some run gives another
report. In the same way no script is ever reported as superseded exactly if identities are apart. Every run can be
brought to its end, with a report for each script. Different absolute paths without backslashes are always apart. -/
theorem alone_iff_apart :
    ((∀ replies events k path report, job.scripts[k]? = some path →
      (job.run replies events).stage k = .reported report → report = job.alone replies k path) ↔ job.Apart) ∧
    ((∀ replies events k path, job.scripts[k]? = some path →
      (job.run replies events).stage k ≠ .reported (lateReport job.desk.session path)) ↔ job.Apart) ∧
    (∀ replies events, ∃ more, ∀ k < job.scripts.length,
      ((job.run replies (events ++ more)).stage k).isReported = true) ∧
    (job.scripts.Nodup → (∀ p ∈ job.scripts, p.isAbsolute = true ∧ '\\' ∉ p.text.toList) → job.Apart) := by
  refine ⟨⟨fun h => ?_, fun hapart replies events => (job.alone_run replies hapart events).alone⟩,
    ⟨fun h => ?_, fun hapart replies events k path hpath hlate => ?_⟩, job.run_completes, job.apart_of_plain⟩
  · by_contra hapart
    obtain ⟨replies, events, k, path, hpath, hlate⟩ := job.exists_superseded hapart
    exact job.alone_ne_late replies _ k path (h replies events k path _ hpath hlate).symm
  · by_contra hapart
    obtain ⟨replies, events, k, path, hpath, hlate⟩ := job.exists_superseded hapart
    exact h replies events k path hpath hlate
  · have hreport := (job.alone_run replies hapart events).alone k path _ hpath hlate
    exact job.alone_ne_late replies _ k path hreport.symm

end LintJob

/-! ## A lint of two scripts with one identity -/

/-- a folder with a script, and beside it a script whose name is that of the first one with a backslash for the slash -/
def twinFiles : Files :=
  ⟨.folder [("proj", .folder [("a", .folder [("b.gd", .file [120] false)]), ("a\\b.gd", .file [120] false)])], []⟩

/-- a lint of both scripts at once -/
def twins : LintJob where
  desk := ⟨.create ⟨"/proj"⟩ .empty "gdscript-formatter", .ofPaths ⟨"/user.toml"⟩ ⟨"/proj.toml"⟩, twinFiles, ()⟩
  scripts := [⟨"/proj/a/b.gd"⟩, ⟨"/proj/a\\b.gd"⟩]
  jobs := 2

theorem readText_first : twinFiles.readText ⟨"/proj/a/b.gd"⟩ = .ok "x" := by
  have hparts : pathParts "/proj/a/b.gd" = (true, ["proj", "a", "b.gd"]) := rfl
  have hplace : twinFiles.locate ⟨"/proj/a/b.gd"⟩ true = .ok (.found ["proj", "a", "b.gd"]) := by
    simp [Files.locate, hparts, Files.follow, twinFiles, Node.at?, Node.child?, Table.find?, Node.isFolder]
    decide
  rw [Files.readText, Files.read, Files.node, hplace]
  rfl

theorem readText_second : twinFiles.readText ⟨"/proj/a\\b.gd"⟩ = .ok "x" := by
  have hparts : pathParts "/proj/a\\b.gd" = (true, ["proj", "a\\b.gd"]) := rfl
  have hplace : twinFiles.locate ⟨"/proj/a\\b.gd"⟩ true = .ok (.found ["proj", "a\\b.gd"]) := by
    simp [Files.locate, hparts, Files.follow, twinFiles, Node.at?, Node.child?, Table.find?, Node.isFolder]
    decide
  rw [Files.readText, Files.read, Files.node, hplace]
  rfl

/-- both scripts can be read, and still the report of one of them is not always the one of the script alone -/
theorem twin_names_superseded : ¬ ∀ (job : LintJob) replies events k path report, job.scripts.Nodup →
    job.desk.session.config.enabledLint = true → (∀ p ∈ job.scripts, ∃ text, job.desk.files.readText p = .ok text) →
    job.scripts[k]? = some path → (job.run replies events).stage k = .reported report →
    report = job.alone replies k path := by
  intro h
  have hon : twins.desk.session.config.enabledLint = true := rfl
  have hfirst : twins.scripts[0]? = some ⟨"/proj/a/b.gd"⟩ := rfl
  have hsecond : twins.scripts[1]? = some ⟨"/proj/a\\b.gd"⟩ := rfl
  obtain ⟨events, hevents⟩ := twins.superseded_of_twins hfirst hsecond Nat.zero_lt_one (by decide)
    ⟨hon, readText_first⟩ ⟨hon, readText_second⟩ (by decide)
  have hreadable : ∀ p ∈ twins.scripts, ∃ text, twins.desk.files.readText p = .ok text := by
    intro p hp
    rcases List.mem_cons.1 hp with rfl | hp
    · exact ⟨"x", readText_first⟩
    · exact List.mem_singleton.1 hp ▸ ⟨"x", readText_second⟩
  have hlate := hevents (fun _ => LintJob.quietReply) fun hfailed => hfailed.1 rfl
  exact twins.alone_ne_late _ _ 0 _ (h twins _ events 0 _ _ (by decide) hon hreadable rfl hlate).symm

end ScriptBridge.Cli
