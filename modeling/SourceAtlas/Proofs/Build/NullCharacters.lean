import SourceAtlas.Proofs.Build.Histories

/-!
# Null characters in targets

A call ends in order: it is done and gives a product, or it has failed and gives a failure of the
build.  The one thing that keeps a call from it is a null character in the path of a directory or a
document: it is met by the file system and passes as a fault of its own.
-/

namespace SourceAtlas

open Text

namespace Call

variable {σ : Type} (c : Call σ)

/-- The call ends in order: done with a product, or failed with a failure of the build. -/
def EndsOrderly : Prop :=
  (∃ product, c.outcome = .ok product ∧ c.after.phase = .done) ∨
    ∃ f, c.outcome = .error f ∧ f.isFailure = true ∧ c.after.phase = .failed

/-- The call meets a null character: while the target is resolved, or in the path of the document that
is to be written. -/
inductive MeetsNull : Prop
  | resolving (h : c.resolution.outcome = .error nullFault)
  | persisting {target : Target} {content : Text} (resolved : c.resolution.outcome = .ok target)
      (describes : c.Describes target.document content) (h : Char.ofNat 0 ∈ target.document.text)

/-- What the fault of a null character ends. -/
structure EndsWithNull : Prop where
  meets : c.MeetsNull
  outcome : c.outcome = .error nullFault
  phase : c.after.phase = .resolvingTarget ∨ c.after.phase = .persisting

variable {c}

theorem EndsWithNull.not_endsOrderly (h : c.EndsWithNull) : ¬ c.EndsOrderly := by
  rintro (⟨product, hproduct, -⟩ | ⟨f, hf, hfailure, -⟩)
  · exact absurd (h.outcome.symm.trans hproduct) (by simp)
  · obtain rfl := Except.error.inj (h.outcome.symm.trans hf)
    exact absurd hfailure (by decide)

/-- A call that is resolved meets a null character only when its document cannot be written. -/
theorem MeetsNull.of_resolved (h : c.MeetsNull) {target : Target}
    (resolved : c.resolution.outcome = .ok target) :
    Char.ofNat 0 ∈ target.document.text ∧ ∃ content, c.Describes target.document content := by
  cases h with
  | resolving h => exact absurd (h.symm.trans resolved) (by simp)
  | persisting resolved' describes hnull =>
      obtain rfl := Except.ok.inj (resolved'.symm.trans resolved)
      exact ⟨hnull, _, describes⟩

variable (c)

/-- A call ends in order, or with the fault of a null character. -/
theorem endsOrderly_or_null : (c.EndsOrderly ∧ ¬ c.MeetsNull) ∨ c.EndsWithNull := by
  obtain ⟨remains, hends, hphase, -, -, -, houtcome⟩ := c.exists_remains
  cases hends with
  | @unresolved f h =>
      rcases (c.orchestrator.rules.meetsNull_resolve c.workspace c.options.target).fault f h with
        hfailure | ⟨rfl, -⟩
      · left
        constructor
        · exact .inr ⟨f, houtcome, hfailure, hphase.trans (if_pos hfailure)⟩
        · rintro (hnull | ⟨resolved, -, -⟩)
          · obtain rfl := Except.error.inj (h.symm.trans hnull)
            exact absurd hfailure (by decide)
          · exact absurd (h.symm.trans resolved) (by simp)
      · exact .inr ⟨.resolving h, houtcome, .inl hphase⟩
  | raised resolved raises =>
      left
      constructor
      · exact .inr ⟨_, houtcome, isFailure_failureIn _ _, hphase⟩
      · intro hmeets
        obtain ⟨-, content, files, root, describes⟩ := hmeets.of_resolved resolved
        exact raises.not_describes describes
  | @unwritten target files root content err resolved describes hwrite =>
      by_cases hreason : err.reason = .nullCharacter
      · right
        have hfault : failureToWrite target err = nullFault := by
          rw [failureToWrite, if_pos hreason, ofFile_eq_nullFault hreason]
        constructor
        · exact .persisting resolved ⟨files, root, describes⟩
            (Workspace.null_of_write hwrite hreason)
        · exact houtcome.trans (congrArg Except.error hfault)
        · exact .inr (hphase.trans (if_pos hreason))
      · left
        constructor
        · refine .inr ⟨_, houtcome, ?_, hphase.trans (if_neg hreason)⟩
          rw [failureToWrite, if_neg hreason]
          rfl
        · intro hmeets
          have hnull := (hmeets.of_resolved resolved).1
          obtain rfl := Except.error.inj (hwrite.symm.trans (Workspace.write_of_null hnull _))
          exact absurd rfl hreason
  | written resolved describes hwrite =>
      left
      constructor
      · exact .inl ⟨_, houtcome, hphase⟩
      · intro hmeets
        have hnull := (hmeets.of_resolved resolved).1
        exact absurd (hwrite.symm.trans (Workspace.write_of_null hnull _)) (by simp)

theorem EndsWithNull.of_outcome (h : c.outcome = .error nullFault) : c.EndsWithNull := by
  rcases c.endsOrderly_or_null with ⟨horderly, -⟩ | hnull
  · rcases horderly with ⟨product, hproduct, -⟩ | ⟨f, hf, hfailure, -⟩
    · exact absurd (h.symm.trans hproduct) (by simp)
    · obtain rfl := Except.error.inj (h.symm.trans hf)
      exact absurd hfailure (by decide)
  · exact hnull

/-- A null character comes from the request, from the name of documents in directories, or from the
workspace. -/
theorem MeetsNull.source (h : c.MeetsNull) :
    Char.ofNat 0 ∈ trim c.options.target ∨ Char.ofNat 0 ∈ c.orchestrator.rules.filename ∨
      ¬ c.workspace.NullFree := by
  have hresolve := c.orchestrator.rules.meetsNull_resolve c.workspace c.options.target
  cases h with
  | resolving h =>
      rcases hresolve.fault _ h with hfailure | ⟨-, hnull⟩
      · exact absurd hfailure (by decide)
      · exact hnull
  | persisting resolved _ hnull => exact hresolve.document _ resolved hnull

/-- The options of a build whose document has a null character in its name. -/
def nullInName : BuildOptions :=
  { selectOneFile with target := "/w/n".toList ++ Char.ofNat 0 :: "ul.xml".toList }

theorem resultOf_nullInName : (resultOf {} oneFile nullInName).2 = .error nullFault := by
  have hworkspace : (TargetRules.resolve {} oneFile nullInName.target).workspace = oneFile := rfl
  have htarget : (TargetRules.resolve {} oneFile nullInName.target).outcome =
      .ok ⟨.ofText nullInName.target, .ofText "/w".toList⟩ := by
    decide
  have hcollect : (nullInName.selection.collect oneFile).outcome =
      .ok [.ofText "/w/a.php".toList] :=
    collect_oneFile
  simp only [resultOf, hworkspace, htarget, parsedIn, hcollect]
  decide

/-- The call for such a document. -/
def nullCall : Call Equipment := ⟨builder, oneFile, false, nullInName⟩

end Call

end SourceAtlas
