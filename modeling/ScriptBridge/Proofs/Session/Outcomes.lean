/-
What the caller of a lint is told. When the run of a lint is over, its outcome follows from what the run gave back and
from whether the token of the lint is still the latest of its document; what the document then shows follows from the
same two. A lint is superseded when after its start another lint of its document was asked for, or the document was
closed.

- `outcome_completeLint`: the outcome of a lint, for every session and every reply.
- `stale_of_superseded`, `latest_unless_superseded`: the token of a superseded lint is not the latest of its document; the
  token of any other lint is, or the document has no slot.
- `outcome_sound_iff`: a failure means that the document was cleared, and a superseded lint is told so, exactly
  unless the lint was superseded and its run failed.
- `overtaken_failure`: such a lint is told that it failed, while its document shows the findings of the newer lint.
-/
import ScriptBridge.Proofs.Session.LintingOff

namespace ScriptBridge

/-- the run of a linter failed: it gave no exit code, or one other than 0 and 1 -/
def LintFailed : Reply → Prop
  | .ok outcome => outcome.exitCode ≠ 0 ∧ outcome.exitCode ≠ 1
  | .error _ => True

theorem shownAfter_eq_none (document : Document) (reply : Reply) :
    shownAfter document reply = none ↔ LintFailed reply := by
  cases reply with
  | error e => simp [shownAfter, LintFailed]
  | ok outcome => simp [shownAfter, LintFailed]

/-- a lint fails with a message exactly when its run failed -/
theorem decodeLintReply_error_iff (document : Document) (command : Command) (reply : Reply)
    (hc : command.mode = .lint) : (∃ e, decodeLintReply document command reply = .error e) ↔ LintFailed reply := by
  rw [← shownAfter_eq_none document, ← decodeLintReply_toOption document command reply hc]
  cases decodeLintReply document command reply <;> simp [Except.toOption]

namespace Session

/-- the outcome of a lint: a failed run is told as such, any other by whether the token is still current -/
theorem outcome_completeLint (s : Session) (request : LintRequest) (reply : Reply) :
    (s.completeLint request reply).2 =
      match decodeLintReply request.document request.command reply with
      | .error e => .failed e.message
      | .ok found =>
        if s.results.registry.isCurrent request.document.id request.token then .published found else .superseded := by
  unfold completeLint Results.applyLint
  cases decodeLintReply request.document request.command reply with
  | error e => rfl
  | ok found => simp only [Registry.publish, Registry.settle_ok]

theorem failed_iff (s : Session) (request : LintRequest) (reply : Reply) (hc : request.command.mode = .lint) :
    (∃ message, (s.completeLint request reply).2 = .failed message) ↔ LintFailed reply := by
  rw [outcome_completeLint, ← decodeLintReply_error_iff request.document request.command reply hc]
  cases decodeLintReply request.document request.command reply with
  | error e => simp
  | ok found =>
    simp only [reduceCtorEq, exists_false, iff_false, not_exists]
    intro message
    split <;> simp

theorem superseded_of_stale (s : Session) (request : LintRequest) (reply : Reply) (hc : request.command.mode = .lint)
    (hfine : ¬ LintFailed reply) (hs : s.results.registry.latest? request.document.id ≠ some request.token) :
    (s.completeLint request reply).2 = .superseded := by
  rw [outcome_completeLint]
  rw [← decodeLintReply_error_iff request.document request.command reply hc] at hfine
  cases hr : decodeLintReply request.document request.command reply with
  | error e => exact absurd ⟨e, hr⟩ hfine
  | ok found =>
    have hcurrent : ¬ s.results.registry.isCurrent request.document.id request.token = true := by
      rwa [Registry.isCurrent_iff]
    simp only [if_neg hcurrent]

end Session

/-- the event asks for a lint of the document, or closes it -/
def Event.Supersedes (id : DocumentId) : Event → Prop
  | .lint document => document.id = id
  | .close k => k = id
  | _ => False

namespace Host

/-- lint `k` of a run is superseded: after its start another lint of its document was asked for, or the document was
closed -/
def Superseded (h : Host) (events : List Event) (k : Nat) : Prop :=
  ∃ before document after, events = before ++ .lint document :: after ∧ (h.run before).requests.length = k ∧
    (h.run before).session.config.enabledLint = true ∧ ∃ e ∈ after, e.Supersedes document.id

/-! ## The token of a superseded lint -/

theorem starts_or_drops (h : Host) (id : DocumentId) (e : Event) (he : e.Supersedes id) :
    h.Starts id e ∨ h.Drops id e := by
  cases e with
  | lint document =>
    cases hl : h.session.config.enabledLint with
    | true => exact Or.inl ⟨he, hl⟩
    | false => exact Or.inr ⟨he, hl⟩
  | close k => exact Or.inr he
  | _ => exact he.elim

theorem supersedes_of_starts (h : Host) (id : DocumentId) (e : Event) (hs : h.Starts id e) : e.Supersedes id := by
  cases e with
  | lint document => exact hs.1
  | _ => exact hs.elim

/-- what supersedes a lint takes its token away -/
theorem stale_of_supersedes (h : Host) (id : DocumentId) (e : Event) (he : e.Supersedes id) (t : Nat)
    (ht : t ≤ h.registry.issued) : (h.step e).registry.latest? id ≠ some t := by
  rcases h.starts_or_drops id e he with hs | hd
  · cases e with
    | lint document =>
      rw [h.latest_of_starts id document hs]
      simp only [ne_eq, Option.some.injEq]
      omega
    | _ => exact hs.elim
  · rw [h.latest_of_drops id e hd]
    exact (Option.some_ne_none t).symm

/-- the start of a lint, with its token, and what the host does from then on -/
theorem run_start (h : Host) (before : List Event) (document : Document) (after : List Event) :
    h.run (before ++ .lint document :: after) = ((h.run before).step (.lint document)).run after := by
  rw [run_append]
  rfl

theorem issued_start (h : Host) (document : Document) :
    (h.step (.lint document)).registry.issued = h.registry.issued + 1 := by
  rw [registry_step_lint]
  split <;> simp

theorem request_start (h : Host) (document : Document) (hl : h.session.config.enabledLint = true) :
    (h.step (.lint document)).requests[h.requests.length]? =
      some ⟨document, h.registry.issued + 1, h.session.command .lint document⟩ := by
  simp [requests, lints_step_lint, hl]

/-- the token of a superseded lint is not the latest of its document -/
theorem stale_of_superseded (h : Host) (events : List Event) (k : Nat) (request : LintRequest)
    (hk : (h.run events).requests[k]? = some request) (hs : h.Superseded events k) :
    (h.run events).registry.latest? request.document.id ≠ some request.token := by
  obtain ⟨before, document, after, rfl, rfl, hl, e, hmem, he⟩ := hs
  obtain ⟨earlier, later, rfl⟩ := List.mem_iff_append.1 hmem
  rw [run_start] at hk ⊢
  obtain rfl := Option.some.inj ((request_run _ _ _ _ ((h.run before).request_start document hl)).symm.trans hk)
  rw [run_append]
  -- what superseded the lint takes its token away, and that never comes back
  have hdrawn : (h.run before).registry.issued + 1 ≤
      (((h.run before).step (.lint document)).run earlier).registry.issued := by
    rw [← issued_start _ document]
    exact issued_run_le _ earlier
  exact stale_run _ later _ _ (Nat.le_trans hdrawn (issued_step_le _ e)) (stale_of_supersedes _ _ e he _ hdrawn)

/-- the token of a lint that is not superseded is the latest of its document, or the document has no slot -/
theorem latest_unless_superseded (h : Host) (h0 : h.requests = []) (events : List Event) (k : Nat)
    (request : LintRequest) (hk : (h.run events).requests[k]? = some request) (hs : ¬ h.Superseded events k) :
    (h.run events).registry.latest? request.document.id = some request.token ∨
      (h.run events).registry.latest? request.document.id = none := by
  obtain ⟨before, document, after, rfl, hlen, hl, rfl⟩ := h.request_started h0 events k request hk
  have hquiet : ∀ e ∈ after, ¬ e.Supersedes document.id :=
    fun e hmem he => hs ⟨before, document, after, rfl, hlen, hl, e, hmem, he⟩
  rw [run_start]
  clear hk hs
  -- by induction on what happened since the start: without another lint of the document its slot can only go
  induction after using List.reverseRecOn with
  | nil =>
    exact Or.inl (latest_of_starts _ _ document ⟨rfl, hl⟩)
  | append_singleton after e ih =>
    have hbefore := ih fun x hx => hquiet x (List.mem_append_left _ hx)
    have he := hquiet e (List.mem_append_right _ (List.mem_singleton_self e))
    rw [run_snoc]
    by_cases hd : (((h.run before).step (.lint document)).run after).Drops document.id e
    · exact Or.inr (latest_of_drops _ _ _ hd)
    · rwa [latest_of_neither _ e _ (fun hstart => he (supersedes_of_starts _ _ _ hstart)) hd]

/-! ## Main results -/

/-- **A lint is told the truth, unless it was overtaken and failed.** After any events, for every lint under way and
whatever its run gives back: that a failure means that the document shows nothing, and that a superseded lint is told
so, holds of this lint exactly if it was not both superseded and failed. If it was both, it is told that it failed, and
the document goes on showing what it showed. -/
theorem outcome_sound_iff (root : Path) (store : Store) (builtIn : String) (events : List Event) (k : Nat)
    (request : LintRequest) (reply : Reply) :
    let start := create root store builtIn
    let h := start.run events
    h.lints[k]? = some ⟨request, none⟩ →
      let outcome := (h.session.completeLint request reply).2
      let shown := (h.step (.lintDone k reply)).session.diagnostics request.document.id
      (((∀ message, outcome = .failed message → shown = none) ∧ (start.Superseded events k → outcome = .superseded)) ↔
        ¬ (start.Superseded events k ∧ LintFailed reply)) ∧
      (start.Superseded events k → LintFailed reply →
        (∃ message, outcome = .failed message) ∧ shown = h.session.diagnostics request.document.id) := by
  intro start h hk outcome shown
  have hi : h.Inv := start.inv_run events (inv_create ..)
  have hrequest : h.requests[k]? = some request := by simp [requests, hk]
  have hmode : request.command.mode = .lint := hi.lint _ (List.mem_of_getElem? hrequest)
  have hfailed : (∃ message, outcome = .failed message) ↔ LintFailed reply := h.session.failed_iff request reply hmode
  have hstale (hs : start.Superseded events k) : h.registry.latest? request.document.id ≠ some request.token :=
    start.stale_of_superseded events k request hrequest hs
  refine ⟨⟨?_, fun hnot => ⟨fun message hm => ?_, fun hs => ?_⟩⟩, fun hs hf => ?_⟩
  · rintro ⟨-, hsuperseded⟩ ⟨hs, hf⟩
    obtain ⟨message, hm⟩ := hfailed.2 hf
    rw [hsuperseded hs] at hm
    cases hm
  · have hf : LintFailed reply := hfailed.1 ⟨message, hm⟩
    rcases start.latest_unless_superseded rfl events k request hrequest fun hs => hnot ⟨hs, hf⟩ with hc | hc
    · have hslot := h.slot_of_current hi k reply request hk hc
      rw [(shownAfter_eq_none ..).2 hf] at hslot
      exact (diagnostics_eq ..).trans (by rw [hslot]; rfl)
    · have hkept := h.registry_of_stale k reply request hk (by rw [hc]; exact (Option.some_ne_none _).symm)
      have hnone : h.slot? request.document.id = none := Option.map_eq_none_iff.1 hc
      have hsame := congrArg (Registry.get? · request.document.id) hkept
      exact hsame.trans (congrArg (Option.bind · Slot.diagnostics) hnone)
  · exact h.session.superseded_of_stale request reply hmode (fun hf => hnot ⟨hs, hf⟩) (hstale hs)
  · refine ⟨hfailed.2 hf, ?_⟩
    exact congrArg (Registry.get? · request.document.id) (h.registry_of_stale k reply request hk (hstale hs))

/-- a script with one line -/
def oneLiner : Document := .ofFile ⟨"/proj/a.gd"⟩ "x"

/-- two lints of a script are started, and the run of the second one finds something -/
def overtaking : List Event :=
  [.lint oneLiner, .lint oneLiner, .lintDone 1 (.ok ⟨1, "/proj/a.gd:1:r:error: m\n", ""⟩)]

/-- the first of the two lints, and a run of it that fails -/
theorem outcome_sound_iff_overtaking :
    let start := create ⟨"/proj"⟩ .empty "/ext/binaries/gdscript-formatter"
    let h := start.run overtaking
    let request : LintRequest := ⟨oneLiner, 1, start.session.command .lint oneLiner⟩
    let reply : Reply := .ok ⟨2, "", "boom"⟩
    h.lints[0]? = some ⟨request, none⟩ ∧ start.Superseded overtaking 0 ∧ LintFailed reply ∧
      (∃ message, (h.session.completeLint request reply).2 = .failed message) ∧
      (h.step (.lintDone 0 reply)).session.diagnostics oneLiner.id = h.session.diagnostics oneLiner.id := by
  intro start h request reply
  have hs : start.Superseded overtaking 0 :=
    ⟨[], oneLiner, .lint oneLiner :: overtaking.drop 2, rfl, rfl, rfl, .lint oneLiner, List.mem_cons_self, rfl⟩
  have hf : LintFailed reply := by simp [reply, LintFailed]
  obtain ⟨-, hboth⟩ :=
    outcome_sound_iff ⟨"/proj"⟩ .empty "/ext/binaries/gdscript-formatter" overtaking 0 request reply rfl
  exact ⟨rfl, hs, hf, hboth hs hf⟩

/-- not every lint is told the truth: one that was overtaken and failed is told that its document was cleared, while the
document shows the finding of the newer lint -/
theorem overtaken_failure : ¬ ∀ (root : Path) (store : Store) (builtIn : String) (events : List Event) (k : Nat)
    (request : LintRequest) (reply : Reply),
    let start := create root store builtIn
    let h := start.run events
    h.lints[k]? = some ⟨request, none⟩ →
      let outcome := (h.session.completeLint request reply).2
      let shown := (h.step (.lintDone k reply)).session.diagnostics request.document.id
      (∀ message, outcome = .failed message → shown = none) ∧
        (start.Superseded events k → outcome = .superseded) := by
  intro hsound
  have hcleared := (hsound ⟨"/proj"⟩ .empty "/ext/binaries/gdscript-formatter" overtaking 0
    ⟨oneLiner, 1, .build "/ext/binaries/gdscript-formatter" .lint .default oneLiner.path⟩
    (.ok ⟨2, "", "boom"⟩) rfl).1 _ rfl
  exact absurd hcleared (by decide)

end Host

end ScriptBridge
