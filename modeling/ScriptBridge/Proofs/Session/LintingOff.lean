/-
Linting turned off. A reload that finds linting off drops every document before the listeners of the host hear of it,
and from then on nothing is shown and no lint starts until a later reload turns linting on again. Lints that were under
way at that moment are lost for good: turning linting on and opening their documents again draws new tokens, and never
brings back an old one.

Every event is one step here. `ConcurrentReload` takes the start of a lint and a reload apart into the steps between
which other requests may run. Its `starts_alone` and `reloads_alone` say that these steps in a row are the events of this
module. So the histories here are those in which no start and no reload is interrupted, and `nothing_kept_when_off` says
of all what `quiet_run` says of these.

- `reload_eq_calls`: a reload calls its listeners one after the other, the session's own before all of the host.
- `session_step`: what an event can touch of a session.
- `listeners_run`: after any events the listeners are the session's own and those registered since, in this order.
- `quiet_run`: in every state with linting off the registry holds nothing.
- `latest_step`, `stale_run`: a token that is not the latest of its document never becomes it again.
- `linting_off_shows_nothing`: what linting off means, in every state that a host reaches.
-/
import ScriptBridge.Proofs.Session.Freshness

namespace ScriptBridge

/-! ## Listeners in their order -/

/-- whom a reload calls: the session itself, or a listener that the host has registered -/
inductive Listener where
  | own
  | host (name : String)

/-- one call, with the registry and the notices of the calls before: the session clears the registry when linting is
off, a listener of the host is shown the registry of that moment -/
def Listener.call (configuration : Configuration) (done : Registry × List Notice) : Listener → Registry × List Notice
  | .own => (if configuration.enabledLint then done.1 else done.1.clearAll, done.2)
  | .host name => (done.1, done.2 ++ [⟨⟨name, configuration⟩, done.1⟩])

namespace Session

/-- the listeners in the order of registration: the session registers its own when it is made -/
def listeners (s : Session) : List Listener := .own :: s.resolver.listeners.map .host

theorem call_hosts (configuration : Configuration) (names : List String) (registry : Registry) (seen : List Notice) :
    (names.map Listener.host).foldl (Listener.call configuration) (registry, seen) =
      (registry, seen ++ names.map fun name => ⟨⟨name, configuration⟩, registry⟩) := by
  induction names generalizing seen with
  | nil => simp
  | cons name names ih => simp [Listener.call, ih]

/-- what the listeners have done once all of them were called, in the order of registration -/
theorem call_listeners (s : Session) (configuration : Configuration) (registry : Registry) :
    let left := if configuration.enabledLint then registry else registry.clearAll
    s.listeners.foldl (Listener.call configuration) (registry, []) =
      (left, s.resolver.listeners.map fun name => ⟨⟨name, configuration⟩, left⟩) := by
  simp only [listeners, List.foldl_cons, Listener.call, call_hosts, List.nil_append]

/-- **A reload calls the listeners in the order of their registration** with the new configuration, each of them after
what the earlier ones have done -/
theorem reload_eq_calls (s : Session) :
    (s.reload.1.results.registry, s.reload.2) =
      s.listeners.foldl (Listener.call s.resolver.store.resolve) (s.results.registry, []) := by
  rw [call_listeners, registry_reload]
  simp only [reload, Resolver.reload, settle, config]
  by_cases hl : s.resolver.store.resolve.enabledLint = true <;> simp [hl]

/-- what the listeners of the host are shown by a reload -/
theorem notices_reload (s : Session) :
    s.reload.2 = s.resolver.listeners.map fun name =>
      ⟨⟨name, s.resolver.store.resolve⟩,
        if s.resolver.store.resolve.enabledLint then s.results.registry else s.results.registry.clearAll⟩ :=
  (congrArg Prod.snd s.reload_eq_calls).trans (by rw [call_listeners])

theorem settingsChanged_snd (s : Session) (change : SettingsChange) :
    (s.settingsChanged change).2 = if change.affects settingsNamespace then some s.reload.2 else none := by
  unfold settingsChanged Resolver.handleChange
  cases change.affects settingsNamespace <;> rfl

/-! ## Steps of a session -/

theorem settle_eq (s : Session) (calls : List ListenerCall) :
    (s.settle calls).1 = { s with results := (s.settle calls).1.results } := by
  unfold settle
  cases s.config.enabledLint <;> rfl

/-- a reload touches nothing but the settings and the results -/
theorem session_reload (s : Session) :
    s.reload.1 = { s with resolver := s.resolver.reload.1, results := s.reload.1.results } :=
  settle_eq _ _

/-- a lint is published only while its token is the latest of its document -/
theorem current_of_published (s : Session) (request : LintRequest) (reply : Reply) (diagnostics : List Diagnostic)
    (h : (s.completeLint request reply).2 = .published diagnostics) :
    s.results.registry.isCurrent request.document.id request.token = true := by
  unfold completeLint Results.applyLint at h
  cases hr : decodeLintReply request.document request.command reply with
  | error e => simp [hr] at h
  | ok found =>
    simp only [hr, Registry.publish, Registry.settle_ok] at h
    by_contra hc
    simp [hc] at h

end Session

/-- the end of a format touches nothing but the results -/
theorem FormatUse.session_finish (use : FormatUse) (s : Session) (request : FormatRequest) (reply : Reply)
    (answer : Except FormatError Unit) :
    use.finish s request reply answer = { s with results := (use.finish s request reply answer).results } := by
  cases use with
  | compute => rfl
  | provide =>
    simp only [finish, Session.completeEdits]
    split <;> rfl
  | apply => rfl

/-! ## What an event does to the settings -/

/-- whether an event resolves the settings again -/
def Event.resolves : Event → Bool
  | .reload => true
  | .change c => c.affects settingsNamespace
  | _ => false

/-- what an event does to the settings: it edits the store, registers a listener, or resolves the store again -/
def Event.onSettings (r : Resolver) : Event → Resolver
  | .editStore edit => r.withStore (edit r.store)
  | .listen name => r.listen name
  | .reload => r.reload.1
  | .change c => if c.affects settingsNamespace then r.reload.1 else r
  | _ => r

theorem Event.current_onSettings (r : Resolver) (e : Event) :
    (e.onSettings r).current = if e.resolves then r.store.resolve else r.current := by
  cases e with
  | change c => exact apply_ite Resolver.current _ _ _
  | _ => rfl

/-- the listener that an event registers -/
def Event.listener? : Event → Option Listener
  | .listen name => some (.host name)
  | _ => none

theorem Event.listeners_onSettings (r : Resolver) (e : Event) :
    (e.onSettings r).listeners.map Listener.host = r.listeners.map Listener.host ++ e.listener?.toList := by
  cases e with
  | listen name => exact List.map_append
  | change c =>
    simp only [onSettings]
    split <;> exact (List.append_nil _).symm
  | _ => exact (List.append_nil _).symm

namespace Host

theorem step_of_resolves (h : Host) (e : Event) (he : e.resolves = true) : h.step e = h.step .reload := by
  cases e with
  | reload => rfl
  | change change =>
    have ha : change.affects settingsNamespace = true := he
    rw [step_change, if_pos ha]
  | _ => simp [Event.resolves] at he

/-- **An event touches the settings only as it says,** and else nothing but the results: the root and the built-in
program stay what they are -/
theorem session_step (h : Host) (e : Event) :
    (h.step e).session =
      { h.session with resolver := e.onSettings h.session.resolver, results := (h.step e).session.results } := by
  cases e with
  | lint document =>
    simp only [step, Session.startLint]
    cases h.session.config.enabledLint <;> rfl
  | lintDone k reply =>
    simp only [step]
    split <;> rfl
  | formatDone k reply answer =>
    simp only [step]
    split
    · next use request _ => exact use.session_finish h.session request reply answer
    · rfl
  | reload => exact h.session.session_reload
  | change change =>
    rw [step_change, Event.onSettings]
    split
    · exact h.session.session_reload
    · rfl
  | _ => rfl

theorem resolver_step (h : Host) (e : Event) : (h.step e).session.resolver = e.onSettings h.session.resolver :=
  congrArg Session.resolver (h.session_step e)

theorem config_step (h : Host) (e : Event) :
    (h.step e).session.config = if e.resolves then h.session.resolver.store.resolve else h.session.config := by
  rw [Session.config, resolver_step, Event.current_onSettings, Session.config]

theorem listeners_step (h : Host) (e : Event) :
    (h.step e).session.listeners = h.session.listeners ++ e.listener?.toList := by
  rw [Session.listeners, resolver_step, Event.listeners_onSettings, Session.listeners, List.cons_append]

/-- **The session's own listener comes first:** after any events, those of the host follow it in the order of their
registration -/
theorem listeners_run (root : Path) (store : Store) (builtIn : String) (events : List Event) :
    ((create root store builtIn).run events).session.listeners = .own :: events.filterMap Event.listener? := by
  induction events using List.reverseRecOn with
  | nil => rfl
  | append_singleton events e ih =>
    rw [run_snoc, listeners_step, ih, List.cons_append, List.filterMap_append]
    cases e <;> rfl

/-! ## Nothing is shown while linting is off -/

/-- the event is a reload that finds linting off -/
def TurnsOff (h : Host) (e : Event) : Prop :=
  e.resolves = true ∧ h.session.resolver.store.resolve.enabledLint = false

theorem registry_of_turnsOff (h : Host) (e : Event) (ht : h.TurnsOff e) :
    (h.step e).registry = h.registry.clearAll := by
  rw [h.step_of_resolves e ht.1, registry_step_reload, ht.2]
  rfl

/-- with linting off the registry holds nothing -/
def Quiet (h : Host) : Prop := h.session.config.enabledLint = false → h.registry.slots = .empty

theorem quiet_step (h : Host) (e : Event) (hq : h.Quiet) : (h.step e).Quiet := by
  intro hoff
  rw [config_step] at hoff
  by_cases he : e.resolves = true
  · rw [if_pos he] at hoff
    rw [h.registry_of_turnsOff e ⟨he, hoff⟩]
    rfl
  · rw [if_neg he] at hoff
    have hempty := hq hoff
    cases e with
    | lint document =>
      -- the slot that the request begins is dropped again
      rw [registry_step_lint, if_neg (by simp [hoff])]
      simp [Registry.begin, Registry.draw, Registry.adopt, Registry.remove, hempty, Table.put, Table.empty,
        Table.putEntry, Table.erase]
    | lintDone k reply =>
      by_cases hk : ∃ request, h.lints[k]? = some ⟨request, none⟩
      · obtain ⟨request, hk⟩ := hk
        rw [h.registry_of_stale k reply request hk (by simp [Registry.latest?, hempty]), hempty]
      · rw [h.step_lintDone_idle k reply fun request hr => hk ⟨request, hr⟩, hempty]
    | formatDone k reply answer => rw [registry_step_formatDone, hempty]
    | close id =>
      have hclose : (h.step (.close id)).registry = h.registry.remove id := rfl
      rw [hclose, Registry.remove, hempty]
      rfl
    | reload => exact absurd rfl he
    | change change =>
      have ha : ¬ change.affects settingsNamespace = true := he
      rw [step_change, if_neg ha, hempty]
    | shutdown => rfl
    | _ => exact hempty

theorem quiet_run (h : Host) (events : List Event) (hq : h.Quiet) : (h.run events).Quiet := by
  induction events generalizing h with
  | nil => exact hq
  | cons e events ih => exact ih _ (h.quiet_step e hq)

theorem Quiet.diagnostics {h : Host} (hq : h.Quiet) (hoff : h.session.config.enabledLint = false) (id : DocumentId) :
    h.session.diagnostics id = none := by
  rw [diagnostics_eq, slot?, hq hoff]
  rfl

/-! ## Tokens that have had their time -/

theorem latest_of_starts (h : Host) (id : DocumentId) (document : Document) (hs : h.Starts id (.lint document)) :
    (h.step (.lint document)).registry.latest? id = some (h.registry.issued + 1) := by
  rw [latest_eq, h.slot_of_starts id document hs]
  rfl

theorem latest_of_drops (h : Host) (id : DocumentId) (e : Event) (hd : h.Drops id e) :
    (h.step e).registry.latest? id = none := by
  rw [latest_eq, h.slot_of_drops id e hd]
  rfl

/-- an event that neither starts a lint of the document nor drops it leaves its latest token -/
theorem latest_of_neither (h : Host) (e : Event) (id : DocumentId) (hs : ¬ h.Starts id e) (hd : ¬ h.Drops id e) :
    (h.step e).registry.latest? id = h.registry.latest? id := by
  by_cases hdone : ∃ k reply, e = .lintDone k reply
  · obtain ⟨k, reply, rfl⟩ := hdone
    by_cases hk : ∃ request, h.lints[k]? = some ⟨request, none⟩
    · obtain ⟨request, hk⟩ := hk
      rw [(h.step_lintDone k reply request hk).1, Registry.latest_settle]
    · rw [h.step_lintDone_idle k reply fun request hr => hk ⟨request, hr⟩]
  · rw [latest_eq, h.slot_of_neither id e hs hd fun k reply _ he => (hdone ⟨k, reply, he⟩).elim, latest_eq]

/-- an event leaves the latest token of a document, or drops it, or sets the one that is drawn next -/
theorem latest_step (h : Host) (e : Event) (id : DocumentId) :
    (h.step e).registry.latest? id = h.registry.latest? id ∨ (h.step e).registry.latest? id = none ∨
      (h.step e).registry.latest? id = some (h.registry.issued + 1) := by
  by_cases hs : h.Starts id e
  · cases e with
    | lint document => exact Or.inr (Or.inr (h.latest_of_starts id document hs))
    | _ => exact hs.elim
  by_cases hd : h.Drops id e
  · exact Or.inr (Or.inl (h.latest_of_drops id e hd))
  exact Or.inl (h.latest_of_neither e id hs hd)

/-- a token that was drawn and is not the latest of a document is never again -/
theorem stale_run (h : Host) (events : List Event) (id : DocumentId) (t : Nat) (ht : t ≤ h.registry.issued)
    (hs : h.registry.latest? id ≠ some t) : (h.run events).registry.latest? id ≠ some t := by
  induction events generalizing h with
  | nil => exact hs
  | cons e events ih =>
    refine ih _ (Nat.le_trans ht (h.issued_step_le e)) fun hlatest => ?_
    rcases h.latest_step e id with heq | heq | heq
    · exact hs (heq ▸ hlatest)
    · rw [heq] at hlatest
      cases hlatest
    · rw [heq] at hlatest
      have := Option.some.inj hlatest
      omega

/-- what a lint was started with never changes -/
theorem request_run (h : Host) (events : List Event) (k : Nat) (request : LintRequest)
    (hk : h.requests[k]? = some request) : (h.run events).requests[k]? = some request := by
  induction events generalizing h with
  | nil => exact hk
  | cons e events ih =>
    refine ih _ ?_
    rcases h.requests_step e with ⟨hr, -⟩ | ⟨document, -, -, hr, -⟩
    · rw [hr, hk]
    · rw [hr, List.getElem?_append_left (List.getElem?_eq_some_iff.1 hk).1, hk]

/-- the end of a lint whose token is not the latest, or of one that is over, leaves the registry -/
theorem registry_lintDone_stale (h : Host) (k : Nat) (reply : Reply) (request : LintRequest)
    (hk : h.requests[k]? = some request) (hs : h.registry.latest? request.document.id ≠ some request.token) :
    (h.step (.lintDone k reply)).registry = h.registry := by
  by_cases hnow : ∃ r, h.lints[k]? = some ⟨r, none⟩
  · obtain ⟨r, hnow⟩ := hnow
    obtain rfl : r = request := by simpa [requests, hnow] using hk
    exact h.registry_of_stale k reply r hnow hs
  · rw [h.step_lintDone_idle k reply fun r hr => hnow ⟨r, hr⟩]

/-- **A lint that was started before linting was turned off is lost.** Its token is not the latest again, even when
linting is turned on and its document is opened once more -/
theorem stale_after_turnsOff (h : Host) (hi : h.Inv) (e : Event) (hoff : h.TurnsOff e) (after : List Event)
    (request : LintRequest) (hm : request ∈ h.requests) :
    (h.run (e :: after)).registry.latest? request.document.id ≠ some request.token := by
  have hcleared := h.registry_of_turnsOff e hoff
  refine (h.step e).stale_run after _ _ ?_ ?_
  · rw [hcleared]
    exact hi.drawn request hm
  · rw [hcleared]
    simp [Registry.latest?]

/-! ## Main result -/

/-- what the listeners of the host are called with when an event happens -/
def notices (h : Host) : Event → List Notice
  | .reload => h.session.reload.2
  | .change change => (h.session.settingsChanged change).2.getD []
  | _ => []

theorem notices_eq (h : Host) (e : Event) : h.notices e = if e.resolves then h.session.reload.2 else [] := by
  cases e with
  | change change =>
    have he : (Event.change change).resolves = change.affects settingsNamespace := rfl
    rw [notices, he, Session.settingsChanged_snd]
    split <;> rfl
  | _ => rfl

/-- every listener of the host is called once, in the order of registration -/
theorem notices_listeners (h : Host) (e : Event) :
    (h.notices e).map (fun notice => notice.call.listener) =
      if e.resolves then h.session.resolver.listeners else [] := by
  rw [notices_eq, Session.notices_reload]
  cases e.resolves with
  | false => rfl
  | true => simp [Function.comp_def]

/-- a listener that is told that linting is off is shown a registry that holds nothing -/
theorem notices_off (h : Host) (e : Event) (notice : Notice) (hmem : notice ∈ h.notices e)
    (hoff : notice.call.configuration.enabledLint = false) : notice.registry.isEmpty = true := by
  rw [notices_eq, Session.notices_reload] at hmem
  split at hmem
  · obtain ⟨name, -, rfl⟩ := List.mem_map.1 hmem
    rw [if_neg (by simpa using hoff)]
    rfl
  · cases hmem

theorem run_append (h : Host) (a b : List Event) : h.run (a ++ b) = (h.run a).run b := by
  simp [run, List.foldl_append]

/-- **Linting off shows nothing and starts nothing.** After any events: if linting is off, no document has diagnostics
and a lint of any document starts no run. A lint that was under way when a reload turned linting off never publishes and
never changes the registry, whatever happens in between and whatever its run gives back. An event that resolves the
settings calls the listeners of the host in their order, and one that is told that linting is off is shown a registry
that holds nothing. -/
theorem linting_off_shows_nothing (root : Path) (store : Store) (builtIn : String) (events : List Event) :
    let start := create root store builtIn
    let h := start.run events
    (h.session.config.enabledLint = false →
      (∀ id, h.session.diagnostics id = none) ∧ ∀ document, (h.session.startLint document).2 = none) ∧
    (∀ before e after k request, events = before ++ e :: after → (start.run before).TurnsOff e →
      (start.run before).lints[k]? = some ⟨request, none⟩ →
      ∀ reply, (h.step (.lintDone k reply)).registry = h.registry ∧
        ∀ diagnostics, (h.session.completeLint request reply).2 ≠ .published diagnostics) ∧
    (∀ e, (h.notices e).map (fun notice => notice.call.listener) =
        (if e.resolves then h.session.resolver.listeners else []) ∧
      ∀ notice ∈ h.notices e, notice.call.configuration.enabledLint = false → notice.registry.isEmpty = true) := by
  intro start h
  refine ⟨fun hoff => ⟨?_, fun document => ?_⟩, ?_, fun e => ⟨h.notices_listeners e, h.notices_off e⟩⟩
  · have hquiet : h.Quiet := quiet_run start events fun _ => rfl
    exact hquiet.diagnostics hoff
  · rw [Session.request_startLint, if_neg (by simp [hoff])]
  · intro before e after k request hev hoff hk reply
    have hrequest : (start.run before).requests[k]? = some request := by simp [requests, hk]
    have hrun : h = (start.run before).run (e :: after) := by simp only [h, hev, run_append]
    have hstale : h.registry.latest? request.document.id ≠ some request.token := by
      rw [hrun]
      exact stale_after_turnsOff _ (start.inv_run before (inv_create ..)) e hoff after request
        (List.mem_of_getElem? hrequest)
    refine ⟨h.registry_lintDone_stale k reply request ?_ hstale, fun diagnostics hp => ?_⟩
    · rw [hrun]
      exact request_run _ (e :: after) k request hrequest
    · exact hstale ((Registry.isCurrent_iff _ _ _).1 (h.session.current_of_published request reply diagnostics hp))

end Host

end ScriptBridge
