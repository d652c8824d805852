/-
The lint of one script, and of scripts one after the other. A script is opened, the tool runs, and the script is closed;
`openScript` and `closeScript` are looked at here apart from each other, for any session between them. What a script is
reported as depends on the session by its settings and by whether the token of the script is still the latest of its
document; nothing else of the session counts, and no other document is touched.

- `openScript_lintable`, `openScript_refused`: what opening a script gives; `latest_openScript`: it leaves other tokens.
- `closeScript_current`, `closeScript_late`: the report of a script whose token is the latest, and of any other.
- `lintScript_lintable`, `lintScript_refused`: a script that is linted with nothing between its ends, by any tool;
  `report_lintScript`: its report.
- `lintScripts_alone`: of scripts linted one after the other each is reported as if it were alone.
-/
import ScriptBridge.Cli.Commands
import ScriptBridge.Proofs.Session.Outcomes

namespace ScriptBridge.Cli

/-! ## The two ends of one lint -/

section
variable (s : Session) (files : Files) (path : Path)

/-- the lint of a script starts: linting is on, and the script can be read -/
def Lintable (text : String) : Prop := s.config.enabledLint = true ∧ files.readText path = .ok text

/-- the report on a script whose lint does not start -/
def refusal? : Option FileReport :=
  match files.readText path with
  | .error e => some ⟨shownName s.root path, .error ("Failed to read file: " ++ e.message)⟩
  | .ok _ => if s.config.enabledLint then none else some ⟨shownName s.root path, .error "Linter is disabled"⟩

/-- the request that a lint starts with -/
def requestFor (text : String) : LintRequest :=
  ⟨.ofFile path text, s.results.registry.issued + 1, s.command .lint (.ofFile path text)⟩

/-- a lint starts, or it is refused -/
theorem lintable_or_refused : (∃ text, Lintable s files path text) ∨ ∃ report, refusal? s files path = some report := by
  cases hread : files.readText path with
  | error e => exact .inr ⟨⟨_, .error ("Failed to read file: " ++ e.message)⟩, by rw [refusal?, hread]⟩
  | ok text =>
    cases hl : s.config.enabledLint with
    | true => exact .inl ⟨text, hl, hread⟩
    | false => exact .inr ⟨_, by simp only [refusal?, hread, hl]; rfl⟩

theorem openScript_lintable {text : String} (h : Lintable s files path text) :
    openScript s files path = ({ s with results := { s.results with
      registry := (s.results.registry.begin (.ofPath path)).1 } }, .ok (requestFor s path text)) := by
  simp only [openScript, h.2, Session.startLint, if_pos h.1]
  rfl

theorem openScript_refused {report : FileReport} (h : refusal? s files path = some report) :
    (openScript s files path).2 = .error report := by
  cases hread : files.readText path with
  | error e =>
    simp only [refusal?, hread, Option.some.injEq] at h
    simp only [openScript, hread, h]
  | ok text =>
    cases hl : s.config.enabledLint with
    | true => simp [refusal?, hread, hl] at h
    | false =>
      simp only [refusal?, hread, hl, Bool.false_eq_true, if_false, Option.some.injEq] at h
      simp only [openScript, hread, Session.startLint, hl, Bool.false_eq_true, if_false, h]

/-- a script that cannot be read leaves the session as it is -/
theorem session_openScript_refused {report : FileReport} (hl : s.config.enabledLint = true)
    (h : refusal? s files path = some report) : (openScript s files path).1 = s := by
  cases hread : files.readText path with
  | error e => simp only [openScript, hread]
  | ok text => simp [refusal?, hread, hl] at h

/-- opening a script changes nothing of the session but its results -/
theorem setup_openScript : ∃ results, (openScript s files path).1 = { s with results } := by
  cases hread : files.readText path with
  | error e => exact ⟨s.results, by simp only [openScript, hread]⟩
  | ok text =>
    cases hl : s.config.enabledLint with
    | true =>
      rw [openScript_lintable s files path ⟨hl, hread⟩]
      exact ⟨_, rfl⟩
    | false =>
      simp only [openScript, hread, Session.startLint, hl, Bool.false_eq_true, if_false]
      exact ⟨_, rfl⟩

/-- the token of a script that was opened is the latest of its document -/
theorem latest_openScript_lintable {text : String} (h : Lintable s files path text) :
    (openScript s files path).1.results.registry.latest? (.ofPath path) = some (requestFor s path text).token := by
  rw [openScript_lintable _ _ _ h]
  simp [Registry.latest?, Registry.slot_begin, requestFor]

/-- the next token after the one of a script -/
theorem token_after {text : String} (h : Lintable s files path text) (other : Path) (otherText : String) :
    (requestFor (openScript s files path).1 other otherText).token = (requestFor s path text).token + 1 := by
  rw [openScript_lintable _ _ _ h]
  rfl

/-- opening a script leaves the tokens of other documents -/
theorem latest_openScript {id : DocumentId} (h : DocumentId.ofPath path ≠ id) :
    (openScript s files path).1.results.registry.latest? id = s.results.registry.latest? id := by
  cases hread : files.readText path with
  | error e => simp only [openScript, hread]
  | ok text =>
    cases hl : s.config.enabledLint with
    | true =>
      rw [openScript_lintable s files path ⟨hl, hread⟩]
      simp only [Registry.latest?, Registry.slot_begin, if_neg h]
    | false =>
      simp only [openScript, hread, Session.startLint, hl, Bool.false_eq_true, if_false, Session.close, Results.drop,
        Document.ofFile, Registry.latest?, Registry.slot_remove, Registry.slot_begin, if_neg h]

end

section
variable (s : Session) (path : Path) (request : LintRequest) (reply : Reply)

/-- the report on a script whose run counts -/
def verdict : FileReport :=
  ⟨shownName s.root path, (decodeLintReply request.document request.command reply).mapError RunError.message⟩

/-- the report on a script whose run came too late -/
def lateReport : FileReport := ⟨shownName s.root path, .error "Lint request was superseded"⟩

theorem report_closeScript :
    (closeScript s path request reply).2 =
      ⟨shownName s.root path, outcomeResult (s.completeLint request reply).2⟩ := rfl

theorem closeScript_current (h : s.results.registry.latest? request.document.id = some request.token) :
    (closeScript s path request reply).2 = verdict s path request reply := by
  rw [report_closeScript, Session.outcome_completeLint, (Registry.isCurrent_iff _ _ _).2 h, verdict]
  cases decodeLintReply request.document request.command reply <;> rfl

theorem closeScript_late (hmode : request.command.mode = .lint) (hfine : ¬ LintFailed reply)
    (h : s.results.registry.latest? request.document.id ≠ some request.token) :
    (closeScript s path request reply).2 = lateReport s path := by
  rw [report_closeScript, s.superseded_of_stale request reply hmode hfine h]
  rfl

/-- closing a script changes nothing of the session but its results -/
theorem setup_closeScript : ∃ results, (closeScript s path request reply).1 = { s with results } := ⟨_, rfl⟩

/-- closing a script leaves the tokens of other documents -/
theorem latest_closeScript {id : DocumentId} (h : request.document.id ≠ id) :
    (closeScript s path request reply).1.results.registry.latest? id = s.results.registry.latest? id := by
  have hregistry : (closeScript s path request reply).1.results.registry =
      (s.completeLint request reply).1.results.registry.remove request.document.id := rfl
  rw [hregistry, Session.registry_completeLint]
  simp only [Registry.latest?, Registry.slot_remove, if_neg h]
  exact Registry.latest_settle _ _ _ _ _

end

/-! ## Wording -/

theorem head?_toList_append {front : String} {c : Char} (hfront : front.toList.head? = some c) (rest : String) :
    (front ++ rest).toList.head? = some c := by
  rw [String.toList_append, List.head?_append, hfront]
  rfl

/-- no failure of a run is worded like a lint that was superseded -/
theorem message_ne_superseded (e : RunError) : e.message ≠ "Lint request was superseded" := by
  have hfirst : e.message.toList.head? ≠ some 'L' := by
    cases e with
    | notStarted command cause =>
      have h : "Failed to start '".toList.head? = some 'F' := rfl
      exact ne_of_eq_of_ne (head?_toList_append (head?_toList_append (head?_toList_append h _) _) _) (by decide)
    | badExit command outcome =>
      have h : "Command: ".toList.head? = some 'C' := rfl
      exact ne_of_eq_of_ne (head?_toList_append (head?_toList_append (head?_toList_append (head?_toList_append
        (head?_toList_append h _) _) _) _) _) (by decide)
    | interrupted command cause =>
      have h : "I/O error while running '".toList.head? = some 'I' := rfl
      exact ne_of_eq_of_ne (head?_toList_append (head?_toList_append (head?_toList_append h _) _) _) (by decide)
  intro h
  rw [h] at hfirst
  exact hfirst rfl

theorem verdict_ne_late (s other : Session) (path : Path) (request : LintRequest) (reply : Reply) :
    verdict s path request reply ≠ lateReport other path := by
  intro h
  have hresult := congrArg FileReport.result h
  rw [verdict, lateReport] at hresult
  cases hreply : decodeLintReply request.document request.command reply with
  | ok found =>
    rw [hreply] at hresult
    cases hresult
  | error e =>
    rw [hreply] at hresult
    exact message_ne_superseded e (Except.error.inj hresult)

theorem refusal?_ne_late (s other : Session) (files : Files) (path : Path) :
    refusal? s files path ≠ some (lateReport other path) := by
  intro h
  rw [refusal?] at h
  split at h
  · next e hread =>
    have hresult := Except.error.inj (congrArg FileReport.result (Option.some.inj h))
    have hfirst := head?_toList_append (show "Failed to read file: ".toList.head? = some 'F' from rfl) e.message
    rw [hresult] at hfirst
    cases hfirst
  · split at h
    · cases h
    · have hresult := Except.error.inj (congrArg FileReport.result (Option.some.inj h))
      exact absurd hresult (by decide)

/-! ## Both ends together -/

section
variable {σ : Type} (tool : Tool σ) (desk : Desk σ) (path : Path)

/-- a script that is refused gets its report, and the tool does not run -/
theorem lintScript_refused {report : FileReport} (h : refusal? desk.session desk.files path = some report) :
    lintScript tool desk path =
      (report, { desk with session := (openScript desk.session desk.files path).1 }) := by
  have hopen := openScript_refused _ _ _ h
  rw [lintScript]
  split
  · next session other heq =>
    rw [heq] at hopen ⊢
    rw [Except.error.inj hopen]
  · next session request heq => cases (congrArg Prod.snd heq).symm.trans hopen

/-- any other script is opened, the tool runs, and it is closed -/
theorem lintScript_lintable {text : String} (h : Lintable desk.session desk.files path text) :
    lintScript tool desk path =
      let request := requestFor desk.session path text
      let ran := tool request.command (stdinPayload text) desk.files desk.state
      let closed := closeScript (openScript desk.session desk.files path).1 path request ran.1
      (closed.2, { desk with session := closed.1, files := ran.2.1, state := ran.2.2 }) := by
  rw [lintScript, openScript_lintable _ _ _ h]
  rfl

/-- nothing lies between its ends, so its run counts -/
theorem report_lintScript {text : String} (h : Lintable desk.session desk.files path text) :
    (lintScript tool desk path).1 = verdict desk.session path (requestFor desk.session path text)
      (tool (requestFor desk.session path text).command (stdinPayload text) desk.files desk.state).1 := by
  have hlatest := latest_openScript_lintable _ _ _ h
  rw [lintScript_lintable tool desk path h]
  rw [openScript_lintable _ _ _ h] at hlatest ⊢
  exact closeScript_current _ path (requestFor desk.session path text) _ hlatest

end

/-- a tool that answers by the command and the input, and does nothing else -/
def answering (answer : Command → String → Reply) : Tool Unit :=
  fun command input files state => (answer command input, files, state)

section
variable (answer : Command → String → Reply) (desk : Desk Unit) (path : Path)

/-- the lint of a script changes nothing but the results of the session -/
theorem desk_lintScript : ∃ results, (lintScript (answering answer) desk path).2 =
    { desk with session := { desk.session with results } } := by
  obtain ⟨opened, hopened⟩ := setup_openScript desk.session desk.files path
  rcases lintable_or_refused desk.session desk.files path with ⟨text, hlint⟩ | ⟨report, hrefused⟩
  · rw [lintScript_lintable _ desk path hlint, hopened]
    exact ⟨_, rfl⟩
  · rw [lintScript_refused _ desk path hrefused, hopened]
    exact ⟨opened, rfl⟩

/-- earlier results do not count for the report on a script -/
theorem lintScript_of_results (results : Results) :
    (lintScript (answering answer) { desk with session := { desk.session with results } } path).1 =
      (lintScript (answering answer) desk path).1 := by
  rcases lintable_or_refused desk.session desk.files path with ⟨text, hlint⟩ | ⟨report, hrefused⟩
  · rw [report_lintScript _ desk path hlint]
    exact report_lintScript _ { desk with session := { desk.session with results } } path hlint
  · have hother :=
      lintScript_refused (answering answer) { desk with session := { desk.session with results } } path hrefused
    rw [lintScript_refused (answering answer) desk path hrefused, hother]

end

/-- **Scripts linted one after the other are reported as if each were alone**, whatever their identities -/
theorem lintScripts_alone (answer : Command → String → Reply) (desk : Desk Unit) (paths : List Path) :
    (lintScripts (answering answer) desk paths).1 =
      paths.map fun path => (lintScript (answering answer) desk path).1 := by
  induction paths generalizing desk with
  | nil => rfl
  | cons path rest ih =>
    have hcons : (lintScripts (answering answer) desk (path :: rest)).1 = (lintScript (answering answer) desk path).1 ::
        (lintScripts (answering answer) (lintScript (answering answer) desk path).2 rest).1 := rfl
    obtain ⟨results, hdesk⟩ := desk_lintScript answer desk path
    rw [hcons, ih, hdesk, List.map_cons]
    simp only [lintScript_of_results]

end ScriptBridge.Cli
