import SourceAtlas.Proofs.Build.Calls
import SourceAtlas.Proofs.Document.Describing

/-!
# What becomes of the faults of collaborators

Once the target is resolved, every fault of a collaborator ends the build in the same way: the build
has failed, nothing is written, and the display is closed.  What the operator is told hangs on the
fault and on whether it was raised before or during the description of the files.
-/

namespace SourceAtlas

open Text

/-! ## The failure that a fault becomes -/

theorem failureIn_of_foreign (p : Phase) {f : Fault} (h : f.isFailure = false) :
    failureIn p f = ⟨.own .collaborator, f.message, some f⟩ := by
  have hcls : f.cls ≠ .own .noFiles := by
    intro hcls
    rw [Fault.isFailure, hcls] at h
    exact absurd h (by decide)
  unfold failureIn failureToParse failureToConfigure
  rw [if_neg hcls, h]
  split <;> rfl

theorem failureIn_parsing_of_noFiles {f : Fault} (h : f.cls = .own .noFiles) :
    failureIn .parsing f = ⟨.own .noFiles, Run.noFilesGuidance, some f⟩ := by
  unfold failureIn failureToParse
  rw [if_pos rfl, if_pos h]
  rfl

theorem failureIn_parsing_of_ne {f : Fault} (h : f.cls ≠ .own .noFiles) :
    failureIn .parsing f = ⟨.own .collaborator, f.message, some f⟩ := by
  unfold failureIn failureToParse
  rw [if_pos rfl, if_neg h]
  rfl

/-! ## Builds that fail for a collaborator -/

/-- Whatever fault a collaborator raises, the build fails with the message of the fault, which is kept
as the cause; only having no files to describe is answered with an advice of the build's own.  Nothing
is remembered or written, and the display is closed. -/
theorem build_fails_for_collaborators {σ : Type} (c : Call σ) {target : Target} {p : Phase} {f : Fault}
    (resolved : c.resolution.outcome = .ok target) (raises : c.Raises target.document p f) :
    (f.isFailure = false → c.outcome = .error ⟨.own .collaborator, f.message, some f⟩) ∧
      (p = .parsing → f.cls = .own .noFiles →
        c.outcome = .error ⟨.own .noFiles, Run.noFilesGuidance, some f⟩) ∧
      (p = .parsing → f.isFailure = true → f.cls ≠ .own .noFiles →
        c.outcome = .error ⟨.own .collaborator, f.message, some f⟩) ∧
      c.after.phase = .failed ∧ c.after.result = none ∧
      c.workspace.GainsDirectories c.left ∧ c.displayOpen = false := by
  obtain ⟨remains, hends, hphase, hresult, hleft, hdisplay, houtcome⟩ := c.exists_remains
  obtain rfl := hends.eq_of_raises resolved raises
  refine ⟨?_, ?_, ?_, hphase, hresult, ?_, hdisplay⟩
  · intro hforeign
    exact houtcome.trans (congrArg Except.error (failureIn_of_foreign p hforeign))
  · rintro rfl hnone
    exact houtcome.trans (congrArg Except.error (failureIn_parsing_of_noFiles hnone))
  · rintro rfl - hother
    exact houtcome.trans (congrArg Except.error (failureIn_parsing_of_ne hother))
  · rw [hleft]
    exact c.gainsDirectories_resolution

/-- Collaborators that find one file, tell of it and then break off. -/
def breakingOff (f : Fault) : Collaborators Unit :=
  { select := fun _ _ _ => ⟨(), [], .ok ()⟩
    files := fun _ _ => ⟨(), [], .ok [.ofText "/w/a.php".toList]⟩
    root := fun _ _ => ⟨(), [], .ok (.ofText "/w".toList)⟩
    prepare := fun _ _ _ _ _ => ⟨(), [], .ok ()⟩
    describe := fun _ _ _ => ⟨⟨(), [], .error f⟩, [.processed]⟩ }

/-- A fault that the build does not know. -/
def unknownFault : Fault := ⟨.foreign "KeyError".toList, "a.php".toList, none⟩

/-- A call with a progress display, whose collaborators break off with the fault. -/
def brokenOff : Call Unit :=
  { orchestrator := { collaborators := breakingOff unknownFault, equipment := () }
    workspace := oneFile
    colored := false
    options := { target := "/w".toList, reporting := { progressBar := true } } }

theorem unknown_fault_fails_build :
    brokenOff.Raises (.ofText "/w/structure.xml".toList) .parsing unknownFault ∧
      brokenOff.outcome = .error ⟨.own .collaborator, "a.php".toList, some unknownFault⟩ ∧
      brokenOff.after.phase = .failed ∧ brokenOff.displayOpen = false := by
  have hresolved : brokenOff.resolution.outcome =
      .ok ⟨.ofText "/w/structure.xml".toList, .ofText "/w".toList⟩ :=
    rfl
  have hraises : brokenOff.Raises (.ofText "/w/structure.xml".toList) .parsing unknownFault :=
    .describe ⟨rfl, rfl, rfl, rfl⟩ rfl
  obtain ⟨hforeign, -, -, hfailed, -, -, hclosed⟩ :=
    build_fails_for_collaborators brokenOff hresolved hraises
  exact ⟨hraises, hforeign rfl, hfailed, hclosed⟩

end SourceAtlas
