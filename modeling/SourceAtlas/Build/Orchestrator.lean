import SourceAtlas.Build.Run

/-!
# Builds one after another

An orchestrator builds with the same collaborators again and again.  It keeps their state, the phase
in which the last build ended, and its product.
-/

namespace SourceAtlas

/-- What builds, and what it remembers of the last build. -/
structure Orchestrator (σ : Type) where
  collaborators : Collaborators σ
  rules : TargetRules := {}
  equipment : σ
  phase : Phase := .initializing
  result : Option Product := none

/-- Builds a document.  What was remembered of an earlier build is forgotten first. -/
def Orchestrator.execute {σ : Type} (m : Orchestrator σ) (colored : Bool) (ws : Workspace)
    (o : BuildOptions) : Orchestrator σ × Step σ Product :=
  let step := build m.collaborators m.rules colored ws m.equipment o
  ({ m with equipment := step.1.equipment, phase := step.1.phase, result := step.1.result }, step)

end SourceAtlas
