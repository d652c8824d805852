/-
A session: the state that all requests of one host share, that is the resolved settings, the published diagnostics and
the log.

A request that runs the external tool is two steps, so that anything may happen while the tool runs. Its start takes
the configuration of that moment, and for a lint a token, and builds the command; its completion takes what the run
gave back. `startLint` and `completeLint` are the two steps of a lint, `startFormat?` and `FormatRequest.edit` those of
a format. What a request runs with never changes after its start.
-/
import ScriptBridge.Document.Finding
import ScriptBridge.Session.Results
import ScriptBridge.Settings.Resolver

namespace ScriptBridge

/-- the state that requests share -/
structure Session where
  root : Path
  builtIn : String
  resolver : Resolver
  results : Results
deriving Inhabited

/-- what a listener is called with: the configuration, and what is published at that moment -/
structure Notice where
  call : ListenerCall
  registry : Registry

/-- a lint whose tool is running -/
structure LintRequest where
  document : Document
  token : Nat
  command : Command
deriving DecidableEq, Repr, Inhabited

/-- what a lint came to -/
inductive LintOutcome where
  | published (diagnostics : List Diagnostic)
  | superseded
  | disabled
  | failed (message : String)
deriving DecidableEq, Repr, Inhabited

/-- a format whose tool is running -/
structure FormatRequest where
  document : Document
  command : Command
deriving DecidableEq, Repr, Inhabited

/-- the diagnostics that a run of the linter on a document gives -/
def decodeLintReply (document : Document) (command : Command) (reply : Reply) : Except RunError (List Diagnostic) :=
  match reply with
  | .error e => .error e
  | .ok outcome => (outcome.check command).map fun o => decodeLint o.stdout document

/-- the edit that a run of the formatter on a document gives -/
def decodeFormatReply (document : Document) (command : Command) (reply : Reply) : Except RunError TextEdit :=
  match reply with
  | .error e => .error e
  | .ok outcome => (outcome.check command).map fun o => decodeFormat o.stdout document

/-- the edit of a format whose run gave something back -/
def FormatRequest.edit (request : FormatRequest) (reply : Reply) : Except RunError TextEdit :=
  decodeFormatReply request.document request.command reply

namespace Session

/-- a session that has just been made over a store -/
def create (root : Path) (store : Store) (builtIn : String) : Session :=
  ⟨root, builtIn, .ofStore store, .empty⟩

/-- the configuration that a request starting now uses -/
def config (s : Session) : Configuration := s.resolver.current

/-- the program that a request starting now runs -/
def executable (s : Session) : String := s.config.executable s.builtIn

/-- diagnostics published for a document -/
def diagnostics (s : Session) (id : DocumentId) : Option (List Diagnostic) := s.results.registry.get? id

/-- the command of a request starting now -/
def command (s : Session) (mode : Mode) (document : Document) : Command :=
  .build s.builtIn mode s.config document.path

/-! ## Settings -/

/-- changes the store; requests see it only after a reload -/
def editStore (s : Session) (edit : Store → Store) : Session :=
  { s with resolver := s.resolver.withStore (edit s.resolver.store) }

/-- registers a listener -/
def listen (s : Session) (name : String) : Session := { s with resolver := s.resolver.listen name }

/-- what follows a reload: when linting is now off nothing stays published; only then are the listeners called -/
def settle (s : Session) (calls : List ListenerCall) : Session × List Notice :=
  let s := if s.config.enabledLint then s
    else { s with results := { s.results with registry := s.results.registry.clearAll } }
  (s, calls.map fun call => ⟨call, s.results.registry⟩)

/-- resolves the store again -/
def reload (s : Session) : Session × List Notice :=
  let (resolver, calls) := s.resolver.reload
  { s with resolver }.settle calls

/-- reloads if a change concerns the options; with the notices to listeners, if it did -/
def settingsChanged (s : Session) (change : SettingsChange) : Session × Option (List Notice) :=
  match s.resolver.handleChange change with
  | (resolver, some calls) =>
    let (s, notices) := { s with resolver }.settle calls
    (s, some notices)
  | (_, none) => (s, none)

/-! ## Linting -/

/-- starts the lint of a document that was opened or saved; when linting is off the document is forgotten and no
request starts -/
def startLint (s : Session) (document : Document) : Session × Option LintRequest :=
  let (registry, token) := s.results.registry.begin document.id
  let results := { s.results with registry }
  if s.config.enabledLint then
    ({ s with results }, some ⟨document, token, s.command .lint document⟩)
  else ({ s with results := results.drop document.id }, none)

/-- completes a lint with what its run gave back -/
def completeLint (s : Session) (request : LintRequest) (reply : Reply) : Session × LintOutcome :=
  let result := decodeLintReply request.document request.command reply
  let (results, published) := s.results.applyLint request.document.id request.token result
  let outcome := match result with
    | .error e => .failed e.message
    | .ok diagnostics => if published then .published diagnostics else .superseded
  ({ s with results }, outcome)

/-- forgets a document that was closed -/
def close (s : Session) (id : DocumentId) : Session := { s with results := s.results.drop id }

/-! ## Formatting -/

/-- starts the format of a document; none starts when formatting is off -/
def startFormat? (s : Session) (document : Document) : Option FormatRequest :=
  if s.config.enabledFormat then some ⟨document, s.command .format document⟩ else none

/-- completes a request for edits: a failure is logged and gives none -/
def completeEdits (s : Session) (request : FormatRequest) (reply : Reply) : Session × List TextEdit :=
  match request.edit reply with
  | .ok edit => (s, [edit])
  | .error e => ({ s with results := s.results.formatFailed e }, [])

/-- completes the format of a document: hands the edit to a surface -/
def completeFormat {σ : Type} (s : Session) (request : FormatRequest) (reply : Reply) (surface : Surface σ)
    (state : σ) : Session × Except FormatError Unit × σ :=
  let (results, answer, state) := s.results.applyFormat request.document (request.edit reply) surface state
  ({ s with results }, answer, state)

/-- ends the session: nothing stays published or logged -/
def shutdown (s : Session) : Session :=
  { s with results := ⟨s.results.registry.clearAll, s.results.log.clear⟩ }

end Session

end ScriptBridge
