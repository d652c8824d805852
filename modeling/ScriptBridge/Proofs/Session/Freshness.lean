/-
What a document shows. Lints of one document may overlap and end in any order, and the document may be closed, linting
turned off and on again, or the session shut down while they run. At any time a document shows what the last lint
started for it came to; older lints, and those that were under way when the document was dropped, change nothing.

- `Starts` and `Drops` say which events start a lint of a document and which drop it; `LastStart` says that a lint is
  the last one started since the document was dropped.
- `slot_of_lastStart`: the slot of a document holds the token of its last lint, and shows what that lint came to, or
  while it runs what was shown before it started; `slot_of_no_lastStart`: without such a lint there is no slot.
- `diagnostics_follow_last_lint`: hence what the document shows, after any events.
- `stale_completion`: the end of any other lint leaves the registry as it was.
-/
import ScriptBridge.Proofs.Session.Host

namespace ScriptBridge

/-- what a document shows once its lint has come back: the findings of a run that ended with exit code 0 or 1, nothing
after any other -/
def shownAfter (document : Document) : Reply → Option (List Diagnostic)
  | .ok outcome =>
    if outcome.exitCode = 0 ∨ outcome.exitCode = 1 then some (decodeLint outcome.stdout document) else none
  | .error _ => none

theorem decodeLintReply_toOption (document : Document) (command : Command) (reply : Reply)
    (hc : command.mode = .lint) : (decodeLintReply document command reply).toOption = shownAfter document reply := by
  cases reply with
  | error e => rfl
  | ok outcome =>
    have hcode : command.mode.accepts outcome.exitCode = true ↔ outcome.exitCode = 0 ∨ outcome.exitCode = 1 := by
      simp [hc, Mode.accepts]
    simp only [decodeLintReply, Outcome.check, shownAfter, hcode]
    split <;> rfl

/-- what a lint makes its document show, where `earlier` was shown before it started -/
def Lint.shows (lint : Lint) (earlier : Option (List Diagnostic)) : Option (List Diagnostic) :=
  match lint.reply with
  | none => earlier
  | some reply => shownAfter lint.request.document reply

namespace Host

/-- the event starts a lint of the document -/
def Starts (h : Host) (id : DocumentId) : Event → Prop
  | .lint document => document.id = id ∧ h.session.config.enabledLint = true
  | _ => False

/-- the event drops the document: it is closed, or a lint of it is refused since linting is off, or a reload finds
linting off, or the session ends -/
def Drops (h : Host) (id : DocumentId) : Event → Prop
  | .lint document => document.id = id ∧ h.session.config.enabledLint = false
  | .close k => k = id
  | .reload => h.session.resolver.store.resolve.enabledLint = false
  | .change change =>
    change.affects settingsNamespace = true ∧ h.session.resolver.store.resolve.enabledLint = false
  | .shutdown => True
  | _ => False

/-- a run is `before`, then the start of a lint of the document, then `after`, in which no lint of it is started and
nothing drops it -/
structure LastStart (h : Host) (id : DocumentId) (before : List Event) (document : Document)
    (after : List Event) : Prop where
  starts : (h.run before).Starts id (.lint document)
  since : ∀ earlier e later, after = earlier ++ e :: later →
    ¬ (h.run (before ++ .lint document :: earlier)).Starts id e ∧
    ¬ (h.run (before ++ .lint document :: earlier)).Drops id e

/-! ## One event and the slot of a document -/

/-- the slot of a document -/
def slot? (h : Host) (id : DocumentId) : Option Slot := h.registry.slots.get? id

theorem diagnostics_eq (h : Host) (id : DocumentId) : h.session.diagnostics id = (h.slot? id).bind Slot.diagnostics :=
  rfl

theorem latest_eq (h : Host) (id : DocumentId) : h.registry.latest? id = (h.slot? id).map Slot.latest := rfl

theorem slot_of_starts (h : Host) (id : DocumentId) (document : Document) (hs : h.Starts id (.lint document)) :
    (h.step (.lint document)).slot? id = some ⟨h.registry.issued + 1, h.session.diagnostics id⟩ := by
  obtain ⟨rfl, hl⟩ := hs
  simp only [slot?, registry_step_lint, hl, if_true, Registry.slot_begin]
  rfl

theorem slot_of_drops (h : Host) (id : DocumentId) (e : Event) (hd : h.Drops id e) : (h.step e).slot? id = none := by
  cases e with
  | lint document =>
    obtain ⟨rfl, hl⟩ := hd
    simp [slot?, registry_step_lint, hl]
  | close k =>
    obtain rfl : k = id := hd
    exact (Registry.slot_remove _ _ _).trans (if_pos rfl)
  | reload =>
    have hl : h.session.resolver.store.resolve.enabledLint = false := hd
    simp [slot?, registry_step_reload, hl]
  | change change =>
    obtain ⟨ha, hl⟩ := hd
    simp [slot?, step_change, ha, registry_step_reload, hl]
  | shutdown => rfl
  | _ => exact hd.elim

/-- an event that neither starts a lint of the document nor drops it leaves its slot, unless it ends the lint whose
token is current -/
theorem slot_of_neither (h : Host) (id : DocumentId) (e : Event) (hs : ¬ h.Starts id e) (hd : ¬ h.Drops id e)
    (hc : ∀ k reply request, e = .lintDone k reply → h.lints[k]? = some ⟨request, none⟩ →
      request.document.id = id → h.registry.latest? id ≠ some request.token) :
    (h.step e).slot? id = h.slot? id := by
  cases e with
  | lint document =>
    have hid : document.id ≠ id := by
      intro hid
      cases hl : h.session.config.enabledLint with
      | true => exact hs ⟨hid, hl⟩
      | false => exact hd ⟨hid, hl⟩
    simp only [slot?, registry_step_lint]
    split <;> simp [Registry.slot_begin, hid]
  | lintDone k reply =>
    by_cases hk : ∃ request, h.lints[k]? = some ⟨request, none⟩
    · obtain ⟨request, hk⟩ := hk
      simp only [slot?, (h.step_lintDone k reply request hk).1, Registry.slot_settle]
      refine if_neg ?_
      rintro ⟨hid, hcur⟩
      rw [Registry.isCurrent_iff, hid] at hcur
      exact hc k reply request rfl hk hid hcur
    · rw [h.step_lintDone_idle k reply fun request hr => hk ⟨request, hr⟩]
  | formatDone k reply answer => simp only [slot?, registry_step_formatDone]
  | close k => exact (Registry.slot_remove _ _ _).trans (if_neg hd)
  | reload =>
    have hl : h.session.resolver.store.resolve.enabledLint = true := by simpa [Drops] using hd
    simp [slot?, registry_step_reload, hl]
  | change change =>
    rw [step_change]
    split
    · next ha =>
      have hl : h.session.resolver.store.resolve.enabledLint = true := by simpa [Drops, ha] using hd
      simp [slot?, registry_step_reload, hl]
    · rfl
  | shutdown => exact absurd trivial hd
  | _ => rfl

/-- the end of the lint whose token is current makes its document show what it came to -/
theorem slot_of_current (h : Host) (hi : h.Inv) (k : Nat) (reply : Reply) (request : LintRequest)
    (hk : h.lints[k]? = some ⟨request, none⟩) (hc : h.registry.latest? request.document.id = some request.token) :
    (h.step (.lintDone k reply)).slot? request.document.id =
      some ⟨request.token, shownAfter request.document reply⟩ := by
  have hm : request ∈ h.requests := List.mem_map.2 ⟨_, List.mem_of_getElem? hk, rfl⟩
  rw [← decodeLintReply_toOption _ request.command _ (hi.lint _ hm)]
  simp only [slot?, (h.step_lintDone k reply request hk).1, Registry.slot_settle]
  simp [(Registry.isCurrent_iff _ _ _).2 hc]

/-- the end of a lint whose token is not current leaves the registry -/
theorem registry_of_stale (h : Host) (k : Nat) (reply : Reply) (request : LintRequest)
    (hk : h.lints[k]? = some ⟨request, none⟩) (hc : h.registry.latest? request.document.id ≠ some request.token) :
    (h.step (.lintDone k reply)).registry = h.registry := by
  have hcur : h.registry.isCurrent request.document.id request.token = false := by
    rw [← Bool.not_eq_true, Registry.isCurrent_iff]
    exact hc
  rw [(h.step_lintDone k reply request hk).1]
  exact Registry.settle_refused _ _ _ _ ((Registry.settle_ok _ _ _ _).trans hcur)

/-! ## The last lint of a document -/

theorem lastStart_snoc (h : Host) (id : DocumentId) (before : List Event) (document : Document)
    (after : List Event) (e : Event) :
    h.LastStart id before document (after ++ [e]) ↔
      h.LastStart id before document after ∧
        ¬ (h.run (before ++ .lint document :: after)).Starts id e ∧
        ¬ (h.run (before ++ .lint document :: after)).Drops id e := by
  constructor
  · rintro ⟨hs, hsince⟩
    refine ⟨⟨hs, fun earlier x later hx => ?_⟩, hsince after e [] rfl⟩
    exact hsince earlier x (later ++ [e]) (by simp [hx])
  · rintro ⟨⟨hs, hsince⟩, he⟩
    refine ⟨hs, fun earlier x later hx => ?_⟩
    rcases List.eq_nil_or_concat later with rfl | ⟨later, last, rfl⟩
    · obtain ⟨rfl, hl⟩ := List.append_inj' hx rfl
      cases hl
      exact he
    · rw [List.concat_eq_append, ← List.cons_append, ← List.append_assoc] at hx
      exact hsince earlier x later (List.append_inj' hx rfl).1

/-- the lint that was just started -/
theorem lastStart_nil (h : Host) (id : DocumentId) (before : List Event) (document : Document) :
    h.LastStart id before document [] ↔ (h.run before).Starts id (.lint document) := by
  refine ⟨LastStart.starts, fun hs => ⟨hs, fun earlier e later he => ?_⟩⟩
  simp at he

theorem run_lint (h : Host) (before : List Event) (document : Document) (after : List Event) (e : Event) :
    h.run (before ++ .lint document :: (after ++ [e])) = (h.run (before ++ .lint document :: after)).step e := by
  rw [← List.cons_append, ← List.append_assoc, run_snoc]

/-- the slot of a document belongs to its last lint: it holds the token of that lint and shows what it came to -/
theorem slot_of_lastStart (h : Host) (hi : h.Inv) (id : DocumentId) (before : List Event) (document : Document)
    (after : List Event) (hs : h.LastStart id before document after) :
    ∃ lint, (h.run (before ++ .lint document :: after)).lints[(h.run before).lints.length]? = some lint ∧
      lint.request.document = document ∧
      (h.run (before ++ .lint document :: after)).slot? id =
        some ⟨lint.request.token, lint.shows ((h.run before).session.diagnostics id)⟩ := by
  -- by induction on what happened since the start: only the end of this very lint touches the slot
  induction after using List.reverseRecOn with
  | nil =>
    have hl := hs.starts.2
    rw [run_snoc, slot_of_starts _ _ _ hs.starts, lints_step_lint, if_pos hl]
    exact ⟨_, List.getElem?_concat_length, rfl, rfl⟩
  | append_singleton after e ih =>
    obtain ⟨hs, hstart, hdrop⟩ := (lastStart_snoc ..).1 hs
    obtain ⟨lint, hk, hdoc, hslot⟩ := ih hs
    have hid : document.id = id := hs.starts.1
    have hinow := h.inv_run (before ++ .lint document :: after) hi
    rw [run_lint]
    generalize h.run (before ++ .lint document :: after) = now at *
    generalize (h.run before).lints.length = k at *
    have hlatest : now.registry.latest? id = some lint.request.token := by rw [latest_eq, hslot]; rfl
    by_cases he : ∃ request reply, e = .lintDone k reply ∧ lint = ⟨request, none⟩
    · obtain ⟨request, reply, rfl, rfl⟩ := he
      subst hdoc hid
      refine ⟨⟨request, some reply⟩, ?_, rfl, now.slot_of_current hinow k reply request hk hlatest⟩
      rw [(now.step_lintDone k reply request hk).2, List.getElem?_set_self (List.getElem?_eq_some_iff.1 hk).1]
    · refine ⟨lint, now.lint_kept e k lint hk he, hdoc, ?_⟩
      rw [← hslot]
      refine now.slot_of_neither id e hstart hdrop fun j reply request hj hrun hother hcur => ?_
      rw [hlatest] at hcur
      obtain rfl := hinow.place_of_token hk hrun (Option.some.inj hcur)
      rw [hrun] at hk
      exact he ⟨request, reply, hj, (Option.some.inj hk).symm⟩

/-- a document without such a lint has no slot -/
theorem slot_of_no_lastStart (h : Host) (id : DocumentId) (h0 : h.slot? id = none) (events : List Event)
    (hno : ∀ before document after, events = before ++ .lint document :: after →
      ¬ h.LastStart id before document after) : (h.run events).slot? id = none := by
  induction events using List.reverseRecOn with
  | nil => exact h0
  | append_singleton events e ih =>
    rw [run_snoc]
    by_cases hd : (h.run events).Drops id e
    · exact slot_of_drops _ id e hd
    · have hs : ¬ (h.run events).Starts id e := by
        intro hs
        cases e with
        | lint document => exact hno events document [] rfl ((lastStart_nil ..).2 hs)
        | _ => exact hs
      have hnone : (h.run events).slot? id = none := by
        refine ih fun before document after hev hl => ?_
        subst hev
        exact hno before document (after ++ [e]) (by simp) ((lastStart_snoc ..).2 ⟨hl, hs, hd⟩)
      rw [← hnone]
      refine slot_of_neither _ id e hs hd fun k reply request _ _ _ hcur => ?_
      rw [latest_eq, hnone] at hcur
      simp at hcur

/-! ## Main results -/

/-- **A document shows what its last lint came to.** After any events, for every document: if a lint of it was started
since it was last dropped, and `document` is what the last of these was started with, then the document shows the
findings in the output of its run when that ended with exit code 0 or 1, nothing when it ended in any other way, and
while it runs what was shown just before it started. If no lint was started since, the document shows nothing. -/
theorem diagnostics_follow_last_lint (root : Path) (store : Store) (builtIn : String) (events : List Event)
    (id : DocumentId) :
    let h := create root store builtIn
    (∀ before document after, events = before ++ .lint document :: after → h.LastStart id before document after →
      ∃ lint, (h.run events).lints[(h.run before).lints.length]? = some lint ∧ lint.request.document = document ∧
        (h.run events).session.diagnostics id =
          match lint.reply with
          | none => (h.run before).session.diagnostics id
          | some reply => shownAfter document reply) ∧
    ((∀ before document after, events = before ++ .lint document :: after →
        ¬ h.LastStart id before document after) →
      (h.run events).session.diagnostics id = none) := by
  intro h
  refine ⟨fun before document after hev hs => ?_, fun hno => ?_⟩
  · obtain ⟨lint, hk, hdoc, hslot⟩ := h.slot_of_lastStart (inv_create ..) id before document after hs
    subst hev
    refine ⟨lint, hk, hdoc, ?_⟩
    rw [diagnostics_eq, hslot, ← hdoc]
    rfl
  · rw [diagnostics_eq, h.slot_of_no_lastStart id rfl events hno]
    rfl

/-- **Stale lints change nothing.** The end of a lint that is not the last one started for its document since the
document was dropped leaves the whole registry as it was, whatever its run gave back. -/
theorem stale_completion (root : Path) (store : Store) (builtIn : String) (events : List Event) (k : Nat)
    (reply : Reply) (request : LintRequest) :
    let h := create root store builtIn
    (h.run events).lints[k]? = some ⟨request, none⟩ →
    (∀ before document after, events = before ++ .lint document :: after →
      h.LastStart request.document.id before document after → (h.run before).lints.length ≠ k) →
    ((h.run events).step (.lintDone k reply)).registry = (h.run events).registry := by
  intro h hk hstale
  refine registry_of_stale _ k reply request hk fun hcur => ?_
  by_cases hl : ∃ before document after, events = before ++ .lint document :: after ∧
      h.LastStart request.document.id before document after
  · obtain ⟨before, document, after, rfl, hs⟩ := hl
    obtain ⟨lint, hlast, -, hslot⟩ := h.slot_of_lastStart (inv_create ..) _ before document after hs
    rw [latest_eq, hslot] at hcur
    have hinv := h.inv_run (before ++ .lint document :: after) (inv_create ..)
    exact hstale before document after rfl hs (hinv.place_of_token hlast hk (Option.some.inj hcur))
  · have hnone := h.slot_of_no_lastStart request.document.id rfl events
      fun before document after hev hs => hl ⟨before, document, after, hev, hs⟩
    rw [latest_eq, hnone] at hcur
    simp at hcur

end Host

end ScriptBridge
