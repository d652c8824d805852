/-
Documents kept apart. A session knows a document by its identity only. Whatever happens to a document leaves what is
shown for every document of another identity; and of one identity, the close of the one document drops what the other
shows. Files get their identities from their paths, so files are kept apart exactly if their paths give different ones.

- `About`: the events about a document; `diagnostics_step_of_about`: what they leave alone.
- `isolated_iff`: identities are kept apart exactly if they differ.
- `files_apart_iff`: which files are kept apart.
- `twin_paths`: not all different files are.
-/
import ScriptBridge.Proofs.Document.Identity
import ScriptBridge.Proofs.Session.Freshness
import ScriptBridge.Proofs.Session.RegistryEntries

namespace ScriptBridge

namespace Host

/-- an event is about a document: a request for it starts or ends, or it is closed -/
inductive About (h : Host) (id : DocumentId) : Event → Prop where
  | lint {document : Document} (hid : document.id = id) : About h id (.lint document)
  | lintDone {k : Nat} {request : LintRequest} (reply : Reply) (hrun : h.lints[k]? = some ⟨request, none⟩)
      (hid : request.document.id = id) : About h id (.lintDone k reply)
  | format {document : Document} (use : FormatUse) (hid : document.id = id) : About h id (.format use document)
  | formatDone {k : Nat} {use : FormatUse} {request : FormatRequest} (reply : Reply)
      (answer : Except FormatError Unit) (hrun : h.formats[k]? = some ⟨use, request, none⟩)
      (hid : request.document.id = id) : About h id (.formatDone k reply answer)
  | close : About h id (.close id)

/-- in every state that a host reaches, events about the first document leave what is shown for the second -/
def Isolated (a b : DocumentId) : Prop :=
  ∀ root store builtIn events e, ((create root store builtIn).run events).About a e →
    (((create root store builtIn).run events).step e).session.diagnostics b =
      ((create root store builtIn).run events).session.diagnostics b

/-- an event about one document leaves what is shown for a document of another identity -/
theorem diagnostics_step_of_about {h : Host} {a b : DocumentId} {e : Event} (he : h.About a e) (hne : a ≠ b) :
    (h.step e).session.diagnostics b = h.session.diagnostics b := by
  have hshown (g : Host) : g.session.diagnostics b = g.registry.get? b := rfl
  rw [hshown, hshown]
  cases he with
  | @lint document hid =>
    subst hid
    rw [registry_step_lint]
    split
    · exact Registry.get?_begin ..
    · rw [Registry.get?_remove, if_neg hne, Registry.get?_begin]
  | lintDone reply hrun hid =>
    subst hid
    rw [(h.step_lintDone _ reply _ hrun).1, Registry.get?_settle, if_neg fun hsame => hne hsame.1]
  | format use hid => rfl
  | formatDone reply answer hrun hid => rw [registry_step_formatDone]
  | close => exact (Registry.get?_remove ..).trans (if_neg hne)

/-- a host can come to show something for any document -/
theorem exists_shown (id : DocumentId) : ∃ events diagnostics,
    ((create ⟨"/"⟩ .empty "").run events).session.diagnostics id = some diagnostics := by
  let document : Document := ⟨id, none, ""⟩
  let started := (create ⟨"/"⟩ .empty "").step (.lint document)
  have hslot := slot_of_starts (create ⟨"/"⟩ .empty "") id document ⟨rfl, rfl⟩
  have hlints : started.lints[0]? = some ⟨⟨document, 1, started.session.command .lint document⟩, none⟩ := rfl
  have hlatest : started.registry.latest? id = some 1 := by
    rw [latest_eq, hslot]
    rfl
  have hshown := slot_of_current started (inv_step _ _ (inv_create ..)) 0 (.ok ⟨0, "", ""⟩) _ hlints hlatest
  refine ⟨[.lint document, .lintDone 0 (.ok ⟨0, "", ""⟩)], [], ?_⟩
  exact (congrArg (·.bind Slot.diagnostics) hshown).trans rfl

/-- **Documents are kept apart exactly if their identities differ** -/
theorem isolated_iff (a b : DocumentId) : Isolated a b ↔ a ≠ b := by
  constructor
  · rintro h rfl
    obtain ⟨events, diagnostics, hshown⟩ := exists_shown a
    have hclose := h ⟨"/"⟩ .empty "" events (.close a) .close
    have hnone : (((create ⟨"/"⟩ .empty "").run events).step (.close a)).session.diagnostics a = none :=
      (Registry.get?_remove ..).trans (if_pos rfl)
    rw [hnone, hshown] at hclose
    cases hclose
  · exact fun hne root store builtIn events e he => diagnostics_step_of_about he hne

end Host

namespace DocumentId

/-- **Files are kept apart by what their paths read as.** For any two files with different paths: their identities
differ, and no event about the first one ever touches what is shown for the second, exactly if the paths differ as texts
once each backslash is read as a slash and a slash is put in front of a text that has none. They do if neither path
holds a backslash and both are absolute or both relative. -/
theorem files_apart_iff (p q : Path) (hdiff : p.components ≠ q.components) :
    (ofPath p ≠ ofPath q ↔ rooted p ≠ rooted q) ∧
    (Host.Isolated (ofPath p) (ofPath q) ↔ rooted p ≠ rooted q) ∧
    ('\\' ∉ p.text.toList → '\\' ∉ q.text.toList → p.isAbsolute = q.isAbsolute → rooted p ≠ rooted q) := by
  have hids : ofPath p ≠ ofPath q ↔ rooted p ≠ rooted q := not_congr (ofPath_eq_iff_rooted p q)
  refine ⟨hids, (Host.isolated_iff _ _).trans hids, fun hp hq hkind h => hdiff ?_⟩
  rw [rooted_injective hp hq hkind h]

/-- a step up and a name that only looks like one -/
theorem files_apart_iff_parent :
    let p : Path := ⟨"proj/../a.gd"⟩
    let q : Path := ⟨"proj/.../a.gd"⟩
    p.components ≠ q.components ∧ '\\' ∉ p.text.toList ∧ '\\' ∉ q.text.toList ∧ p.isAbsolute = q.isAbsolute ∧
    rooted p ≠ rooted q ∧ ofPath p ≠ ofPath q ∧ Host.Isolated (ofPath p) (ofPath q) := by
  intro p q
  have hdiff : p.components ≠ q.components := by decide
  have hp : '\\' ∉ p.text.toList := by decide
  have hq : '\\' ∉ q.text.toList := by decide
  have hkind : p.isAbsolute = q.isAbsolute := by decide
  obtain ⟨hids, hisolated, hplain⟩ := files_apart_iff p q hdiff
  have hrooted := hplain hp hq hkind
  exact ⟨hdiff, hp, hq, hkind, hrooted, hids.2 hrooted, hisolated.2 hrooted⟩

/-- different files can have one identity: a backslash in a name is taken for a slash, and a relative path for the
absolute one of its text -/
theorem twin_paths :
    ¬ (∀ p q : Path, p.components ≠ q.components → ofPath p ≠ ofPath q) ∧
    ofPath ⟨"/proj/a\\b.gd"⟩ = ofPath ⟨"/proj/a/b.gd"⟩ ∧ ofPath ⟨"proj/a/b.gd"⟩ = ofPath ⟨"/proj/a/b.gd"⟩ := by
  have hbackslash : ofPath ⟨"/proj/a\\b.gd"⟩ = ofPath ⟨"/proj/a/b.gd"⟩ := by decide
  refine ⟨fun h => ?_, hbackslash, by decide⟩
  exact h ⟨"/proj/a\\b.gd"⟩ ⟨"/proj/a/b.gd"⟩ (by decide) hbackslash

end DocumentId

end ScriptBridge
