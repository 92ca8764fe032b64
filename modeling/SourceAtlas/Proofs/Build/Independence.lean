import SourceAtlas.Proofs.Build.Histories

/-!
# Builds that do not depend on earlier ones

The standard collaborators keep what was selected and found, and how to describe it.  A build sets
all of this before it reads it: what it selects forgets the files found before, and what it prepares
replaces the describer.  So two builds that begin with different equipment go the same way, with the
same equipment from the moment it is configured; if they fail before, they differ in nothing else.
-/

namespace SourceAtlas

open Text

/-- The run with other collaborators of the same kind, in another state. -/
def Run.equipped {σ : Type} (r : Run σ) (e : σ) : Run σ := { r with equipment := e }

/-- Two steps agree if they are the same, or if they fail with the same fault and differ in the
state of the collaborators alone. -/
inductive Agree {σ α : Type} : Step σ α → Step σ α → Prop
  | ok (r : Run σ) (a : α) : Agree (r, .ok a) (r, .ok a)
  | error (r : Run σ) (e : σ) (f : Fault) : Agree (r, .error f) (r.equipped e, .error f)

namespace Agree

variable {σ α : Type} {s s' : Step σ α}

protected theorem refl (s : Step σ α) : Agree s s := by
  obtain ⟨r, outcome⟩ := s
  cases outcome with
  | ok a => exact .ok r a
  | error f => exact .error r r.equipment f

/-- Steps that agree are alike in all that can be seen of them. -/
theorem alike (h : Agree s s') :
    s.2 = s'.2 ∧ s.1.workspace = s'.1.workspace ∧ s.1.reporter = s'.1.reporter ∧
      s.1.log = s'.1.log ∧ s.1.phase = s'.1.phase ∧ s.1.result = s'.1.result := by
  cases h with
  | ok r a => exact ⟨rfl, rfl, rfl, rfl, rfl, rfl⟩
  | error r e f => exact ⟨rfl, rfl, rfl, rfl, rfl, rfl⟩

end Agree

/-! ## The phases -/

/-- The target is resolved without the collaborators. -/
theorem resolveTarget_equipped {σ : Type} (r : Run σ) (e : σ) (rules : TargetRules)
    (request : Text) :
    (r.equipped e).resolveTarget rules request =
      ((r.resolveTarget rules request).1.equipped e, (r.resolveTarget rules request).2) := by
  have hworkspace : ((r.equipped e).enter .resolvingTarget).workspace =
      (r.enter .resolvingTarget).workspace := rfl
  simp only [Run.resolveTarget, hworkspace]
  cases (rules.resolve (r.enter .resolvingTarget).workspace request).outcome with
  | ok target => rfl
  | error f => cases hfailure : f.isFailure <;> simp only [hfailure] <;> rfl

/-- What is asked of the standard collaborators first does not depend on the state they are in, and
they are in the same state afterwards if all goes well. -/
theorem agree_callToConfigure (r : Run Equipment) (e : Equipment) (o : BuildOptions)
    (earlier : Path) :
    Agree (Run.callToConfigure .standard r o earlier)
      (Run.callToConfigure .standard (r.equipped e) o earlier) := by
  simp only [Run.callToConfigure, Collaborators.standard, Equipment.select, Equipment.files,
    Equipment.root, Equipment.prepare, Run.receive, Run.equipped, Collection.configure]
  obtain ⟨collection, harvest⟩ := Collection.files ⟨o.selection, none⟩ r.workspace
  cases houtcome : harvest.outcome with
  | error f => exact Agree.error _ (Equipment.mk collection e.describer) f
  | ok files =>
      simp only
      obtain ⟨collection', log, outcome⟩ := Collection.root collection r.workspace
      cases outcome with
      | error f => exact Agree.error _ (Equipment.mk collection' e.describer) f
      | ok root => exact .ok _ _

/-- The collaborators are configured alike in whatever state they are. -/
theorem agree_configure (r : Run Equipment) (e : Equipment) (o : BuildOptions) (earlier : Path) :
    Agree (Run.configure .standard r o earlier)
      (Run.configure .standard (r.equipped e) o earlier) := by
  have hcall : Agree (Run.callToConfigure .standard (r.enter .configuring) o earlier)
      (Run.callToConfigure .standard ((r.equipped e).enter .configuring) o earlier) :=
    agree_callToConfigure (r.enter .configuring) e o earlier
  rw [Run.configure, Run.configure]
  generalize Run.callToConfigure .standard (r.enter .configuring) o earlier = s at hcall ⊢
  generalize Run.callToConfigure .standard ((r.equipped e).enter .configuring) o earlier = s'
    at hcall ⊢
  cases hcall with
  | ok r count => exact .ok r count
  | error r e f =>
      simp only
      split
      · exact .error (r.enter .failed) e f
      · exact .error ((r.note "collaborator configuration failed".toList).enter .failed) e
          (Run.collaboratorFailure f)

/-- A build does not depend on the state in which the standard collaborators are. -/
theorem agree_build (rules : TargetRules) (colored : Bool) (ws : Workspace) (e e' : Equipment)
    (o : BuildOptions) :
    Agree (build .standard rules colored ws e o) (build .standard rules colored ws e' o) := by
  have hresolve := resolveTarget_equipped
    (Run.announce { workspace := ws, equipment := e, reporter := o.reporting.reporter colored }
      "Initializing parser and collecting files .. ".toList) e' rules o.target
  rw [build, build]
  simp only [Run.equipped, Run.announce] at hresolve ⊢
  rw [hresolve]
  generalize Run.resolveTarget _ rules o.target = resolved
  obtain ⟨r, outcome⟩ := resolved
  cases outcome with
  | error f => exact .error r e' f
  | ok target =>
      have hconfigure : Agree (Run.configure .standard r o target.document)
          (Run.configure .standard (r.equipped e') o target.document) :=
        agree_configure r e' o target.document
      simp only [Run.equipped] at hconfigure ⊢
      generalize Run.configure .standard r o target.document = configured at hconfigure ⊢
      generalize Run.configure .standard _ o target.document = configured' at hconfigure ⊢
      cases hconfigure with
      | ok r count => exact .refl _
      | error r e f => exact .error r e f

/-! ## Histories -/

namespace Call

variable (c c' : Call Equipment)

/-- The call made at the same moment on a new orchestrator with new collaborators. -/
def anew : Call Equipment :=
  { c with
    orchestrator :=
      { collaborators := .standard, rules := c.orchestrator.rules, equipment := .new c.workspace } }

/-- Two calls are alike in their outcome, the phase in which they end, the product that is
remembered, what the operator is shown, what is logged, and the workspace that they leave. -/
structure Alike : Prop where
  outcome : c.outcome = c'.outcome
  phase : c.after.phase = c'.after.phase
  result : c.after.result = c'.after.result
  shown : c.execute.2.1.reporter = c'.execute.2.1.reporter
  logged : c.execute.2.1.log = c'.execute.2.1.log
  left : c.left = c'.left

variable {c}

theorem alike_anew (h : c.orchestrator.collaborators = .standard) : c.Alike c.anew := by
  have hagree : Agree c.execute.2 c.anew.execute.2 := by
    have hexecute : c.execute.2 = build .standard c.orchestrator.rules c.colored c.workspace
        c.orchestrator.equipment c.options := by
      rw [← h]
      rfl
    rw [hexecute]
    exact agree_build _ _ _ _ _ _
  obtain ⟨houtcome, hleft, hshown, hlogged, hphase, hresult⟩ := hagree.alike
  exact ⟨houtcome, hphase, hresult, hshown, hlogged, hleft⟩

end Call

/-- An orchestrator keeps its collaborators. -/
theorem collaborators_of_mem_calls {σ : Type} {m : Orchestrator σ} {ws : Workspace}
    {moves : List Move} {c : Call σ} (h : c ∈ m.calls ws moves) :
    c.orchestrator.collaborators = m.collaborators := by
  induction moves generalizing m ws with
  | nil => cases h
  | cons move moves ih =>
      cases move with
      | edit ws' => exact ih h
      | call colored o =>
          obtain rfl | h := List.mem_cons.mp h
          · rfl
          · have hlater := ih h
            exact hlater

/-- Every call of every history is like the call made at that moment on a new orchestrator with new
collaborators. -/
theorem calls_do_not_depend_on_earlier_ones {m : Orchestrator Equipment}
    (hm : m.collaborators = .standard) {ws : Workspace} {moves : List Move} {c : Call Equipment}
    (h : c ∈ m.calls ws moves) : c.Alike c.anew :=
  Call.alike_anew ((collaborators_of_mem_calls h).trans hm)

/-- The call that asks for the document of the one file once more. -/
def oneFileCallAgain : Call Equipment :=
  ⟨oneFileCall.after, oneFileCall.left, false, selectOneFile⟩

theorem one_file_described_again_as_if_first : oneFileCallAgain.Alike
    ⟨{ collaborators := .standard, equipment := .new oneFileCall.left }, oneFileCall.left, false,
      selectOneFile⟩ := by
  have hcalls : oneFileCallAgain ∈
      builder.calls oneFile [.call false selectOneFile, .call false selectOneFile] :=
    List.mem_cons_of_mem _ List.mem_cons_self
  exact calls_do_not_depend_on_earlier_ones rfl hcalls

end SourceAtlas
