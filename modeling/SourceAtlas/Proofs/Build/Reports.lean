import SourceAtlas.Build.Checked
import SourceAtlas.Proofs.Build.NullCharacters
import SourceAtlas.Proofs.Params.Alike
import SourceAtlas.Proofs.Params.Grammar

/-!
# What builds by parameters come to

A build by parameters that are refused leaves everything as it is.  Parameters of which every check makes the
same come to the same: what is left behind, shown and produced, and the class of the fault.
-/

namespace SourceAtlas.Report

open Config

theorem fault_of_ofOptions {colored : Bool} {ws : Workspace} {o : BuildOptions} {f : Fault}
    (h : (ofOptions colored ws o).outcome = .error f) : f.isFailure = true ∨ f = nullFault := by
  let c : Call Equipment := ⟨{ collaborators := .standard, equipment := .new ws }, ws, colored, o⟩
  have hfault : c.outcome = .error f := h
  rcases c.endsOrderly_or_null with ⟨⟨product, hproduct, -⟩ | ⟨f', hf', hfailure, -⟩, -⟩ | hnull
  · exact absurd (hfault.symm.trans hproduct) (by simp)
  · obtain rfl := Except.error.inj (hfault.symm.trans hf')
    exact .inl hfailure
  · exact .inr (Except.error.inj (hfault.symm.trans hnull.outcome))

theorem fault_of_ofParams {colored : Bool} {ws : Workspace} {params : Params} {f : Fault}
    (h : (ofParams colored ws params).outcome = .error f) : f.isFailure = true ∨ f = nullFault := by
  unfold ofParams at h
  split at h
  · exact fault_of_ofOptions h
  · obtain rfl := Except.error.inj h
    exact .inl rfl

instance {α : Type} (outcome : Except Fault α) (c : FaultClass) :
    Decidable (∃ f, outcome = .error f ∧ f.cls = c) :=
  match outcome with
  | .ok _ => .isFalse fun ⟨_, h, _⟩ => nomatch h
  | .error f =>
      decidable_of_iff (f.cls = c) ⟨fun h => ⟨f, rfl, h⟩, fun ⟨_, h, hcls⟩ => Except.error.inj h ▸ hcls⟩

/-- Two builds come to the same: they leave the same behind, show the same, and give the same product or
faults of the same class. -/
structure SameOutcome (report call : Report) : Prop where
  workspace : report.workspace = call.workspace
  shown : report.shown = call.shown
  product : ∀ p, report.outcome = .ok p ↔ call.outcome = .ok p
  fault : ∀ c, (∃ f, report.outcome = .error f ∧ f.cls = c) ↔ ∃ f, call.outcome = .error f ∧ f.cls = c

/-- A build that was refused with a fault of a class: nothing is left behind or shown. -/
structure RefusedAs (report : Report) (ws : Workspace) (c : FaultClass) : Prop where
  workspace : report.workspace = ws
  shown : report.shown = []
  fault : ∃ f, report.outcome = .error f ∧ f.cls = c

theorem sameOutcome_of_alike {p q : Params} (h : Alike p q) (colored : Bool) (ws : Workspace) :
    SameOutcome (ofParams colored ws p) (ofParams colored ws q) := by
  unfold ofParams
  rw [h.ofParams_eq]
  cases Config.ofParams q with
  | ok c => exact ⟨rfl, rfl, fun _ => Iff.rfl, fun _ => Iff.rfl⟩
  | error issues =>
      refine ⟨rfl, rfl, fun _ => ⟨nofun, nofun⟩, fun c => ?_⟩
      constructor
      · rintro ⟨f, hf, rfl⟩
        obtain rfl := Except.error.inj hf
        exact ⟨_, rfl, rfl⟩
      · rintro ⟨f, hf, rfl⟩
        obtain rfl := Except.error.inj hf
        exact ⟨_, rfl, rfl⟩

/-- Parameters with a value that its field does not admit are refused. -/
theorem refusedAs_of_not_admits {params : Params} {f : Field} (hf : f ∈ fields) {v : Value}
    (hv : valueOf? params f.name.toList = some v) (hnot : ¬ f.kind.Admits v) (colored : Bool)
    (ws : Workspace) : (ofParams colored ws params).RefusedAs ws (.own .options) := by
  have hissues : issuesOf params ≠ [] := fun hnone => by
    have hissue := (issuesOf_eq_nil_iff.mp hnone).1 f hf
    rw [issue?, hv, Option.bind_some, Option.map_eq_none_iff] at hissue
    exact hnot ((f.kind.cause?_eq_none_iff v).mp hissue)
  have hrefused : ofParams colored ws params = refused ws (Config.failure (issuesOf params)) := by
    unfold ofParams
    rw [Config.ofParams_eq, if_neg hissues]
  rw [hrefused]
  exact ⟨rfl, rfl, _, rfl, rfl⟩

end SourceAtlas.Report
