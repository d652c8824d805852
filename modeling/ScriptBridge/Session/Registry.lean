/-
Published diagnostics. Each lint request of a document draws a token; numbers are drawn from one counter over all
documents. The slot of a document holds the latest token drawn for it and the diagnostics last published. A request
may publish or clear only while its token is the latest, so a slow request never overwrites a newer one; removing the
slot of a document leaves no token of it current.
-/
import ScriptBridge.Document.Basic
import ScriptBridge.Document.Diagnostic
import ScriptBridge.Table

namespace ScriptBridge

/-- what is held for a document -/
structure Slot where
  latest : Nat
  diagnostics : Option (List Diagnostic)
deriving DecidableEq, Repr, Inhabited

/-- diagnostics by document, and the number of tokens drawn so far -/
structure Registry where
  issued : Nat
  slots : Table DocumentId Slot
deriving Repr, Inhabited

namespace Registry

/-- the registry before any request -/
def empty : Registry := ⟨0, .empty⟩

/-- draws a number from the counter -/
def draw (r : Registry) : Registry × Nat := ({ r with issued := r.issued + 1 }, r.issued + 1)

/-- makes a number the latest token of a document; what is shown stays -/
def adopt (r : Registry) (id : DocumentId) (token : Nat) : Registry :=
  { r with slots := r.slots.put id ⟨token, (r.slots.get? id).bind Slot.diagnostics⟩ }

/-- gives a new request of a document its token; older tokens of the document are no longer current -/
def begin (r : Registry) (id : DocumentId) : Registry × Nat :=
  let (r, token) := r.draw
  (r.adopt id token, token)

/-- whether a token is the latest of its document -/
def isCurrent (r : Registry) (id : DocumentId) (token : Nat) : Bool :=
  match r.slots.get? id with
  | some slot => slot.latest == token
  | none => false

/-- sets what a slot shows if the token is current; with whether it was -/
def settle (r : Registry) (id : DocumentId) (token : Nat) (shown : Option (List Diagnostic)) : Registry × Bool :=
  if r.isCurrent id token then ({ r with slots := r.slots.put id ⟨token, shown⟩ }, true) else (r, false)

/-- replaces the diagnostics of a document, if the token is current -/
def publish (r : Registry) (id : DocumentId) (token : Nat) (diagnostics : List Diagnostic) : Registry × Bool :=
  r.settle id token (some diagnostics)

/-- clears the diagnostics of a document, if the token is current -/
def clearCurrent (r : Registry) (id : DocumentId) (token : Nat) : Registry × Bool :=
  r.settle id token none

/-- drops the slot of a document -/
def remove (r : Registry) (id : DocumentId) : Registry := { r with slots := r.slots.erase id }

/-- drops all slots -/
def clearAll (r : Registry) : Registry := { r with slots := .empty }

/-- the diagnostics published for a document -/
def get? (r : Registry) (id : DocumentId) : Option (List Diagnostic) :=
  (r.slots.get? id).bind Slot.diagnostics

/-- whether a document has published diagnostics -/
def contains (r : Registry) (id : DocumentId) : Bool := (r.get? id).isSome

/-- number of documents with published diagnostics -/
def size (r : Registry) : Nat := (r.slots.entries.filter fun e => e.2.diagnostics.isSome).length

/-- whether no document has published diagnostics -/
def isEmpty (r : Registry) : Bool := r.size == 0

end Registry

end ScriptBridge
