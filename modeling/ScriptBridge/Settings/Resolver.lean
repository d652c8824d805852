/-
The resolver keeps the configuration that requests use. The configuration is resolved when the resolver is made and at
each reload; changes of the store alone do not show. A reload calls every listener, in the order of registration, with
the new configuration.

A change notice names sections; it concerns the options when it names their namespace, something below it, or
everything.
-/
import ScriptBridge.Settings.Resolve

namespace ScriptBridge

/-- notice that some settings changed -/
structure SettingsChange where
  sections : List String
  everything : Bool
deriving DecidableEq, Repr, Inhabited

/-- whether a section is a namespace or lies below it -/
def sectionTouches (space part : String) : Bool :=
  part == space || (space.toList ++ ['.']).isPrefixOf part.toList

/-- whether a change concerns a namespace -/
def SettingsChange.affects (c : SettingsChange) (space : String) : Bool :=
  c.everything || c.sections.any (sectionTouches space)

/-- a store, the configuration last resolved from it, and the names of the listeners -/
structure Resolver where
  store : Store
  current : Configuration
  listeners : List String
deriving Repr, Inhabited

/-- one call of a listener -/
structure ListenerCall where
  listener : String
  configuration : Configuration
deriving DecidableEq, Repr, Inhabited

namespace Resolver

/-- a resolver that has just resolved a store -/
def ofStore (store : Store) : Resolver := ⟨store, store.resolve, []⟩

/-- changes the store only -/
def withStore (r : Resolver) (store : Store) : Resolver := { r with store }

/-- registers a listener after those there are -/
def listen (r : Resolver) (name : String) : Resolver := { r with listeners := r.listeners ++ [name] }

/-- resolves the store again; with the calls of the listeners -/
def reload (r : Resolver) : Resolver × List ListenerCall :=
  let resolved := r.store.resolve
  ({ r with current := resolved }, r.listeners.map fun name => ⟨name, resolved⟩)

/-- reloads if a change concerns the options; with the calls of the listeners, if it did -/
def handleChange (r : Resolver) (change : SettingsChange) : Resolver × Option (List ListenerCall) :=
  if change.affects settingsNamespace then
    let (r, calls) := r.reload
    (r, some calls)
  else (r, none)

end Resolver

end ScriptBridge
