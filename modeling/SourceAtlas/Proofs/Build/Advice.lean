import SourceAtlas.Proofs.Build.Faults
import SourceAtlas.Proofs.Build.Standard
import SourceAtlas.Proofs.Selecting

/-!
# The advice where no files were found

A failure of having no files stems from a collaborator that signals it.  Where it is signalled decides
what the operator reads: the advice of the build while files are described, and the words of the
collaborator before that.  The standard collaborators signal it only while files are described.
-/

namespace SourceAtlas

open Text

/-! ## Failures of having no files -/

/-- A fault becomes a failure of having no files if it is one. -/
theorem cls_failureIn_iff (p : Phase) (f : Fault) :
    (failureIn p f).cls = .own .noFiles ↔ f.cls = .own .noFiles := by
  unfold failureIn failureToParse failureToConfigure
  by_cases hphase : p = .parsing
  · rw [if_pos hphase]
    by_cases hnone : f.cls = .own .noFiles
    · rw [if_pos hnone]
      exact iff_of_true rfl hnone
    · rw [if_neg hnone]
      exact iff_of_false (by simp [Run.collaboratorFailure, Fault.failure]) hnone
  · rw [if_neg hphase]
    split
    · rfl
    · next hforeign =>
        refine iff_of_false (by simp [Run.collaboratorFailure, Fault.failure]) fun hnone => ?_
        rw [Fault.isFailure, hnone] at hforeign
        exact hforeign rfl

/-- The failure that a fault of having no files becomes: with the advice of the build while files are
described, and as it is before that. -/
theorem failureIn_of_noFiles {f : Fault} (h : f.cls = .own .noFiles) (p : Phase) :
    failureIn p f =
      if p = .parsing then ⟨.own .noFiles, Run.noFilesGuidance, some f⟩ else f := by
  have hfailure : f.isFailure = true := by rw [Fault.isFailure, h]
  by_cases hphase : p = .parsing
  · rw [if_pos hphase, hphase]
    exact failureIn_parsing_of_noFiles h
  · rw [if_neg hphase, failureIn, if_neg hphase, failureToConfigure, if_pos hfailure]

theorem cls_failureToWrite (target : Target) (e : FileError) :
    (failureToWrite target e).cls ≠ .own .noFiles := by
  unfold failureToWrite
  split
  · exact Fault.cls_ofFile_ne e _
  · simp [Fault.failure]

/-- A call ends for having no files exactly if a collaborator signals that. -/
theorem Call.outcome_noFiles_iff {σ : Type} (c : Call σ) (f : Fault) :
    (c.outcome = .error f ∧ f.cls = .own .noFiles) ↔
      ∃ target p g, c.resolution.outcome = .ok target ∧ c.Raises target.document p g ∧
        g.cls = .own .noFiles ∧ f = failureIn p g := by
  obtain ⟨remains, hends, -, -, -, -, houtcome⟩ := c.exists_remains
  constructor
  · rintro ⟨hfailed, hnone⟩
    rw [houtcome] at hfailed
    cases hends with
    | unresolved h =>
        obtain rfl := Except.error.inj hfailed
        exact absurd hnone (TargetRules.blames_resolve _ _ _ _ h)
    | @raised target p g resolved h =>
        obtain rfl := Except.error.inj hfailed
        exact ⟨target, p, g, resolved, h, (cls_failureIn_iff p g).mp hnone, rfl⟩
    | unwritten =>
        obtain rfl := Except.error.inj hfailed
        exact absurd hnone (cls_failureToWrite _ _)
    | written => cases hfailed
  · rintro ⟨target, p, g, resolved, raises, hnone, rfl⟩
    obtain rfl := hends.eq_of_raises resolved raises
    exact ⟨houtcome, (cls_failureIn_iff p g).mpr hnone⟩

/-! ## The standard collaborators -/

/-- A fault that is none of the build's own failures. -/
def Fault.Foreign (f : Fault) : Prop := f.isFailure = false

namespace Fault

theorem foreign_ofFile (e : FileError) : (ofFile e).Foreign := by
  obtain ⟨reason, path⟩ := e
  cases reason <;> rfl

theorem Foreign.cls_ne {f : Fault} (h : f.Foreign) (c : FailureClass) : f.cls ≠ .own c := by
  intro hcls
  rw [Foreign, isFailure, hcls] at h
  cases h

end Fault

/-- A file operation fails with a fault that is none of the build's own failures. -/
theorem blames_ofFile {α : Type} (x : Except FileError α) :
    Blames (x.mapError Fault.ofFile) Fault.Foreign :=
  blames_mapError fun e _ => Fault.foreign_ofFile e

theorem Workspace.blames_realFile (ws : Workspace) (p : Path) :
    Blames (ws.realFile p) Fault.Foreign := by
  unfold realFile
  split
  · exact blames_error (Fault.foreign_ofFile _)
  · split
    · exact blames_error rfl
    · exact blames_ok _

namespace Selection

variable (s : Selection) (ws : Workspace)

theorem blames_collects (root file : Path) : Blames (s.collects ws root file) Fault.Foreign := by
  unfold collects
  split
  · exact blames_ok _
  · dsimp only
    split
    · exact blames_ok _
    · exact (blames_ofFile _).map _

theorem blames_filesOfPattern (pattern : Text) :
    Blames (s.filesOfPattern ws pattern) Fault.Foreign := by
  unfold filesOfPattern
  refine Blames.bind (blames_mapError fun r _ => Fault.foreign_ofFile _) fun matched => ?_
  refine Blames.bind (Blames.filterM (fun path => ?_) _) fun picked => ?_
  · exact (blames_ofFile _).bind fun isFile => blames_ok _
  · exact Blames.mapM ws.blames_realFile picked

theorem blames_filesOfDirectory (directory : Text) :
    Blames (s.filesOfDirectory ws directory).outcome Fault.Foreign := by
  unfold filesOfDirectory
  split
  · exact blames_error rfl
  · split
    · exact blames_error (Fault.foreign_ofFile _)
    · exact blames_ok []
    · exact (Blames.filterM (s.blames_collects ws _) _).bind (Blames.mapM ws.blames_realFile)

/-- Collecting files never fails for having none. -/
theorem blames_collect : Blames (s.collect ws).outcome Fault.Foreign := by
  rw [outcome_collect]
  apply Blames.map
  refine (Blames.concatM fun pattern _ => s.blames_filesOfPattern ws pattern).bind fun picked => ?_
  refine (Blames.concatM fun directory _ => s.blames_filesOfDirectory ws directory).bind fun walked => ?_
  exact blames_ok _

end Selection

/-- Loading an earlier document never fails for having no files. -/
theorem Loading.blames_ofPath (ws : Workspace) (path fingerprint : Text) :
    Blames (Loading.ofPath ws path fingerprint) Fault.Foreign := by
  unfold Loading.ofPath
  refine (blames_ofFile _).bind fun isFile => ?_
  split
  · refine (blames_ofFile _).bind fun bytes => ?_
    unfold Loading.ofBytes
    split
    · exact blames_ok _
    · next u name _ =>
        apply blames_error
        cases u <;> rfl
    · dsimp only
      split <;> exact blames_ok _
  · exact blames_ok _

namespace Describer

variable (d : Describer) (ws : Workspace) (includeSource : Bool)

theorem blames_itemsOf (previous : Previous) (files : List Path) :
    Blames (d.itemsOf ws includeSource previous files).outcome Fault.Foreign := by
  induction files with
  | nil => exact blames_ok []
  | cons file files ih =>
      unfold itemsOf
      split
      · exact blames_error (Fault.foreign_ofFile _)
      · exact ih.map _

/-- Describing files fails with a failure of the build's own only for having none. -/
theorem blames_describe (files : List Path) :
    Blames (d.describe ws includeSource files).outcome fun f => f = noFiles ∨ f.Foreign := by
  unfold describe
  split
  · exact blames_error (.inl rfl)
  · dsimp only
    split
    · next hload =>
        unfold load at hload
        split at hload
        · exact blames_error (.inr (Loading.blames_ofPath ws _ _ _ hload))
        · cases hload
    · exact ((d.blames_itemsOf ws includeSource _ files).imp fun _ => .inr).map _

end Describer

/-- The standard collaborators signal that there are no files while they describe them. -/
theorem raises_standard_of_noFiles {e : Equipment} {ws : Workspace} {o : BuildOptions}
    {target : Target} {p : Phase} {f : Fault} (h : Raises .standard e ws o target.document p f)
    (hnone : f.cls = .own .noFiles) : p = .parsing ∧ f = Describer.noFiles := by
  cases hinders_of_raises h with
  | collect h => exact absurd hnone ((o.selection.blames_collect ws f h).cls_ne _)
  | describe _ h =>
      obtain hfault | hforeign := Describer.blames_describe _ ws _ _ f h
      · exact ⟨rfl, hfault⟩
      · exact absurd hnone (hforeign.cls_ne _)

/-! ## The advice -/

/-- A call ends for having no files exactly if a collaborator signals that.  The failure carries the
advice of the build and the signal as its cause if that came while files were described, and is the
signal itself if it came before.  With the standard collaborators it always carries the advice. -/
theorem advice_comes_while_describing {σ : Type} (c : Call σ) (f : Fault) :
    ((c.outcome = .error f ∧ f.cls = .own .noFiles) ↔
      ∃ target p g, c.resolution.outcome = .ok target ∧ c.Raises target.document p g ∧
        g.cls = .own .noFiles ∧
        f = if p = .parsing then ⟨.own .noFiles, Run.noFilesGuidance, some g⟩ else g) ∧
    ∀ d : Call Equipment, d.orchestrator.collaborators = .standard → d.outcome = .error f →
      f.cls = .own .noFiles → f = ⟨.own .noFiles, Run.noFilesGuidance, some Describer.noFiles⟩ := by
  constructor
  · rw [c.outcome_noFiles_iff f]
    constructor
    · rintro ⟨target, p, g, resolved, raises, hnone, rfl⟩
      exact ⟨target, p, g, resolved, raises, hnone, failureIn_of_noFiles hnone p⟩
    · rintro ⟨target, p, g, resolved, raises, hnone, rfl⟩
      exact ⟨target, p, g, resolved, raises, hnone, (failureIn_of_noFiles hnone p).symm⟩
  · intro d hstandard hfailed hnone
    obtain ⟨target, p, g, -, raises, hnone', rfl⟩ := (d.outcome_noFiles_iff f).mp ⟨hfailed, hnone⟩
    rw [Call.Raises, hstandard] at raises
    obtain ⟨rfl, rfl⟩ := raises_standard_of_noFiles raises hnone'
    exact failureIn_parsing_of_noFiles hnone'

/-- A call with the standard collaborators that selects nothing. -/
def nothingSelected : Call Equipment :=
  { orchestrator := { collaborators := .standard, equipment := .new oneFile }
    workspace := oneFile
    colored := false
    options := { target := "/w".toList } }

theorem nothing_selected_is_advised :
    nothingSelected.orchestrator.collaborators = .standard ∧ ∃ f,
      nothingSelected.outcome = .error f ∧ f.cls = .own .noFiles ∧
        f = ⟨.own .noFiles, Run.noFilesGuidance, some Describer.noFiles⟩ := by
  have hcollect : (({} : Selection).collect oneFile).outcome = .ok [] := by
    rw [Selection.outcome_collect]
    exact congrArg Except.ok (List.mergeSort_nil)
  have hfailed : nothingSelected.outcome =
      .error ⟨.own .noFiles, Run.noFilesGuidance, some Describer.noFiles⟩ := by
    have hstandard := congrArg Prod.snd
      (build_standard {} false oneFile (.new oneFile) nothingSelected.options)
    obtain ⟨hworkspace, htarget⟩ := resolve_oneFile
    refine hstandard.trans ?_
    simp only [resultOf, show nothingSelected.options.target = selectOneFile.target from rfl,
      hworkspace, htarget, parsedIn,
      show nothingSelected.options.selection = ({} : Selection) from rfl, hcollect]
    rfl
  exact ⟨rfl, _, hfailed, rfl,
    (advice_comes_while_describing nothingSelected _).2 nothingSelected rfl hfailed rfl⟩

/-- Collaborators that signal having no files when they are asked for them. -/
def withoutFiles : Collaborators Unit :=
  { breakingOff unknownFault with
    files := fun _ _ => ⟨(), [], .error ⟨.own .noFiles, "nothing here".toList, none⟩⟩ }

/-- A call with these collaborators. -/
def signalledEarly : Call Unit :=
  { orchestrator := { collaborators := withoutFiles, equipment := () }
    workspace := oneFile
    colored := false
    options := { target := "/w".toList } }

/-- Signalled while files are collected, having no files reaches the operator without the advice. -/
theorem advice_is_missing_while_collecting :
    signalledEarly.outcome = .error ⟨.own .noFiles, "nothing here".toList, none⟩ ∧
      signalledEarly.after.phase = .failed ∧ "nothing here".toList ≠ Run.noFilesGuidance :=
  ⟨rfl, rfl, by decide⟩

end SourceAtlas
