import SourceAtlas.Proofs.FileSystem.Changes
import SourceAtlas.Proofs.FileSystem.RealPaths
import SourceAtlas.Target

/-!
# What resolving a target comes to

Resolving a target makes directories at most, and none when the request is the path of a document.
It fails with a failure of the build, or for a null character.
-/

namespace SourceAtlas

open Text Workspace

/-- The fault of a path that holds a null character. -/
def nullFault : Fault := ⟨.value, "embedded null byte".toList, none⟩

theorem ofFile_eq_nullFault {e : FileError} (h : e.reason = .nullCharacter) :
    Fault.ofFile e = nullFault := by
  obtain ⟨reason, path⟩ := e
  obtain rfl := h
  rfl

/-- A failed file operation is no failure of the build's own. -/
theorem Fault.cls_ofFile_ne (e : FileError) (c : FailureClass) : (Fault.ofFile e).cls ≠ .own c := by
  obtain ⟨reason, path⟩ := e
  cases reason <;> simp [Fault.ofFile, Reason.faultClass]

theorem Path.null_of_text {p : Path} (h : Char.ofNat 0 ∈ p.text) :
    ∃ n ∈ p.names, Char.ofNat 0 ∈ n := by
  apply Classical.byContradiction
  intro hnames
  have hjoin : Char.ofNat 0 ∉ join ['/'] p.names :=
    Text.not_mem_join (by decide) fun n hn hnull => hnames ⟨n, hn, hnull⟩
  unfold Path.text at h
  split at h
  · exact absurd h (by decide)
  · rcases List.mem_append.mp h with h | h
    · cases hanchor : p.anchor <;> rw [hanchor] at h <;> exact absurd h (by decide)
    · exact hjoin h

theorem Path.null_of_mem_names {t n : Text} (hn : n ∈ (Path.ofText t).names)
    (hnull : Char.ofNat 0 ∈ n) : Char.ofNat 0 ∈ t :=
  Text.subset_of_mem_splitOn (List.mem_filter.mp hn).1 hnull

theorem null_of_mem_realPath {ws : Workspace} {t n : Text} {real : Path}
    (h : ws.realPath t = .ok real) (hn : n ∈ real.names) (hnull : Char.ofNat 0 ∈ n) :
    Char.ofNat 0 ∈ t ∨ ¬ ws.NullFree := by
  apply Classical.byContradiction
  intro hnone
  rw [not_or, Classical.not_not] at hnone
  obtain ⟨htext, hfree⟩ := hnone
  have hsplit : ∀ t, Char.ofNat 0 ∉ t →
      FileSystem.Spells (fun n => Char.ofNat 0 ∉ n) (splitOn '/' t) :=
    fun t ht m hm _ hnull => ht (Text.subset_of_mem_splitOn hm hnull)
  have hnames := forall_mem_realPath (fun l target hl => hsplit target (hfree.links l target hl))
    hfree.directory (hsplit t htext) h n hn
  exact hnames.1 hnull

/-- A request meets a null character at most under a condition: with the fault of such a path, or with
such a document. -/
structure Resolution.MeetsNullOnlyIf (null : Prop) (r : Resolution) : Prop where
  fault : ∀ f, r.outcome = .error f → f.isFailure = true ∨ f = nullFault ∧ null
  document : ∀ t, r.outcome = .ok t → Char.ofNat 0 ∈ t.document.text → null

namespace TargetRules

theorem workspace_inDirectory (rules : TargetRules) (ws : Workspace) (log : List Text)
    (path : Text) : (rules.inDirectory ws log path).workspace = ws := by
  unfold inDirectory
  split
  · split <;> rfl
  · rfl

theorem workspace_forDocument (ws : Workspace) (path : Text) :
    (forDocument ws path).workspace = ws := by
  unfold forDocument
  simp only
  split <;> rfl

/-- What holds and is kept when a directory is made is kept when a target is resolved. -/
theorem of_resolve {P : Workspace → Prop} (hmake : ∀ {ws ws' : Workspace} {path : Text}, P ws →
    ws.makeDirectory path = .ok ws' → P ws') (rules : TargetRules) {ws : Workspace} (h : P ws)
    (request : Text) : P (rules.resolve ws request).workspace := by
  unfold resolve
  simp only
  split
  · exact h
  · split
    · rw [workspace_forDocument]
      exact h
    · unfold forDirectory
      split
      · rw [workspace_inDirectory]
        exact h
      · have hmade : P (ws.makePath (trim request)).1 := of_makeDirectories hmake h _ _
        simp only
        split
        · next ws' hpath =>
            rw [hpath] at hmade
            rw [workspace_inDirectory]
            exact hmade
        · next ws' e hpath =>
            rw [hpath] at hmade
            split <;> exact hmade

/-- Resolving a target makes directories at most. -/
theorem gainsDirectories_resolve (rules : TargetRules) (ws : Workspace) (request : Text) :
    GainsDirectories ws (rules.resolve ws request).workspace := by
  apply of_resolve _ rules (.refl ws)
  intro ws' ws'' path hgains hmake
  exact hgains.trans (gainsDirectories_makeDirectory hmake)

/-- Resolving the path of a document makes no directory. -/
theorem workspace_resolve_of_suffix {rules : TargetRules} {request : Text}
    (h : endsWith (trim request) rules.suffix = true) (ws : Workspace) :
    (rules.resolve ws request).workspace = ws := by
  unfold resolve
  simp only [h, if_true]
  split
  · rfl
  · exact workspace_forDocument ws _

/-! ## Targets -/

section Targets

variable {rules : TargetRules} {ws : Workspace} {log : List Text} {path request : Text}
  {directory : Path} {name : Text} {target : Target}

theorem finish_eq_ok : (finish ws log directory name).outcome = .ok target ↔
    (ws.stat directory.text).isOk = true ∧
      target = ⟨directory.append (.ofText name), directory⟩ := by
  rw [finish]
  cases ws.stat directory.text with
  | ok e =>
      constructor
      · intro h
        exact ⟨rfl, (Except.ok.inj h).symm⟩
      · rintro ⟨-, rfl⟩
        rfl
  | error r => cases r <;> simp [Except.isOk, Except.toBool]

theorem inDirectory_eq_ok : (rules.inDirectory ws log path).outcome = .ok target ↔
    ws.isDirectory path = true ∧ ∃ directory, ws.realPath path = .ok directory ∧
      (finish ws log directory rules.filename).outcome = .ok target := by
  rw [inDirectory]
  split
  · next hdirectory =>
      cases ws.realPath path with
      | ok directory => simp [hdirectory]
      | error r => simp
  · next hdirectory => simp [hdirectory]

/-- The text of the directory that holds the document at a path. -/
def holderOf (path : Text) : Text := if (splitPath path).1 = [] then ['.'] else (splitPath path).1

theorem forDocument_eq_ok : (forDocument ws path).outcome = .ok target ↔
    ∃ directory, ws.realPath (holderOf path) = .ok directory ∧
      (finish ws [] directory (splitPath path).2).outcome = .ok target := by
  rw [forDocument, holderOf]
  dsimp only
  cases ws.realPath (if (splitPath path).1 = [] then ['.'] else (splitPath path).1) with
  | ok directory => simp
  | error r => simp

theorem outcome_inDirectory (log log' : List Text) :
    (rules.inDirectory ws log path).outcome = (rules.inDirectory ws log' path).outcome := by
  rw [inDirectory, inDirectory]
  split
  · cases ws.realPath path <;> rfl
  · rfl

/-- The directory of a target is one once the target is resolved. -/
theorem inDirectory_of_forDirectory (h : (rules.forDirectory ws path).outcome = .ok target) :
    (rules.inDirectory (rules.forDirectory ws path).workspace [] path).outcome = .ok target := by
  rw [forDirectory] at h ⊢
  split at h
  · next hentry =>
      rw [if_pos hentry, workspace_inDirectory]
      exact h
  · next hentry =>
      rw [if_neg hentry]
      dsimp only at h ⊢
      split at h
      · rw [workspace_inDirectory]
        exact (outcome_inDirectory _ _).trans h
      · split at h <;> cases h

theorem forDirectory_of_isDirectory (h : ws.isDirectory path = true) :
    rules.forDirectory ws path = rules.inDirectory ws [] path := by
  have hstat : (ws.stat path).isOk = true := by
    rw [isDirectory_iff.mp h]
    rfl
  rw [forDirectory, if_pos (hasEntry_of_stat hstat)]

/-- The text that a request gives for the directory of its target. -/
def directoryText (rules : TargetRules) (request : Text) : Text :=
  if endsWith (trim request) rules.suffix then holderOf (trim request) else trim request

/-- The name that a request gives to its document. -/
def documentName (rules : TargetRules) (request : Text) : Text :=
  if endsWith (trim request) rules.suffix then (splitPath (trim request)).2 else rules.filename

/-- A request points to a target in a workspace as it stands: no directory has to be made for it. -/
structure PointsTo (rules : TargetRules) (ws : Workspace) (request : Text) (target : Target) :
    Prop where
  usable : ¬ (trim request = [] ∨ trim request = ['/'])
  stands : endsWith (trim request) rules.suffix = false →
    ws.isDirectory (rules.directoryText request) = true
  real : ws.realPath (rules.directoryText request) = .ok target.directory
  accessible : (ws.stat target.directory.text).isOk = true
  document : target.document = target.directory.append (.ofText (rules.documentName request))

/-- Resolving a request leaves a workspace in which it points to its target. -/
theorem pointsTo_resolve (h : (rules.resolve ws request).outcome = .ok target) :
    rules.PointsTo (rules.resolve ws request).workspace request target := by
  rw [resolve] at h ⊢
  split at h
  · cases h
  · next husable =>
      rw [if_neg husable]
      split at h
      · next hsuffix =>
          obtain ⟨directory, hreal, hfinish⟩ := forDocument_eq_ok.mp h
          obtain ⟨hstat, rfl⟩ := finish_eq_ok.mp hfinish
          rw [if_pos hsuffix, workspace_forDocument]
          refine ⟨husable, fun hno => absurd (hno.symm.trans hsuffix) (by simp), ?_, hstat, ?_⟩
          · rw [directoryText, if_pos hsuffix]
            exact hreal
          · rw [documentName, if_pos hsuffix]
      · next hsuffix =>
          obtain ⟨hdirectory, directory, hreal, hfinish⟩ :=
            inDirectory_eq_ok.mp (inDirectory_of_forDirectory h)
          obtain ⟨hstat, rfl⟩ := finish_eq_ok.mp hfinish
          rw [if_neg hsuffix]
          refine ⟨husable, fun _ => ?_, ?_, hstat, ?_⟩
          · rw [directoryText, if_neg hsuffix]
            exact hdirectory
          · rw [directoryText, if_neg hsuffix]
            exact hreal
          · rw [documentName, if_neg hsuffix]

/-- A request that points to a target is resolved to it, and nothing changes. -/
theorem PointsTo.resolve (h : rules.PointsTo ws request target) :
    (rules.resolve ws request).outcome = .ok target ∧
      (rules.resolve ws request).workspace = ws := by
  obtain ⟨husable, hstands, hreal, haccessible, hdocument⟩ := h
  have htarget : target = ⟨target.document, target.directory⟩ := rfl
  rw [hdocument] at htarget
  rw [TargetRules.resolve, if_neg husable]
  split
  · next hsuffix =>
      rw [directoryText, if_pos hsuffix] at hreal
      rw [documentName, if_pos hsuffix] at htarget
      exact ⟨forDocument_eq_ok.mpr ⟨_, hreal, finish_eq_ok.mpr ⟨haccessible, htarget⟩⟩,
        workspace_forDocument ws _⟩
  · next hsuffix =>
      have hdirectory := hstands (by simpa using hsuffix)
      rw [directoryText, if_neg hsuffix] at hreal hdirectory
      rw [documentName, if_neg hsuffix] at htarget
      rw [forDirectory_of_isDirectory hdirectory]
      exact ⟨inDirectory_eq_ok.mpr ⟨hdirectory, _, hreal, finish_eq_ok.mpr ⟨haccessible, htarget⟩⟩,
        workspace_inDirectory rules ws [] _⟩

end Targets

/-! ## Faults -/

theorem blames_finish (ws : Workspace) (log : List Text) (directory : Path) (name : Text) :
    Blames (finish ws log directory name).outcome (·.cls ≠ .own .noFiles) := by
  unfold finish
  dsimp only
  split
  · exact blames_ok _
  · exact blames_error (Fault.cls_ofFile_ne _ _)
  · exact blames_error (by simp [refusal, Fault.failure])

theorem blames_inDirectory (rules : TargetRules) (ws : Workspace) (log : List Text) (path : Text) :
    Blames (rules.inDirectory ws log path).outcome (·.cls ≠ .own .noFiles) := by
  unfold inDirectory
  split
  · split
    · exact blames_finish ws log _ _
    · exact blames_error (Fault.cls_ofFile_ne _ _)
  · exact blames_error (by simp [refusal, Fault.failure])

/-- Whatever keeps a target from being resolved, it is not that there are no files. -/
theorem blames_resolve (rules : TargetRules) (ws : Workspace) (request : Text) :
    Blames (rules.resolve ws request).outcome (·.cls ≠ .own .noFiles) := by
  unfold resolve
  dsimp only
  split
  · exact blames_error (by simp [refusal, Fault.failure])
  · split
    · unfold forDocument
      dsimp only
      split
      · exact blames_finish ws [] _ _
      · exact blames_error (Fault.cls_ofFile_ne _ _)
    · unfold forDirectory
      split
      · exact blames_inDirectory rules ws [] _
      · dsimp only
        split
        · exact blames_inDirectory rules _ _ _
        · split
          · exact blames_error (Fault.cls_ofFile_ne _ _)
          · exact blames_error (by simp [refusal, Fault.failure])

/-! ## Null characters -/

section Null

variable {null : Prop} {rules : TargetRules} {ws : Workspace} {log : List Text}

theorem meetsNull_refusal (message : Text) (cause : Option Fault) :
    Resolution.MeetsNullOnlyIf null ⟨ws, log, .error (refusal message cause)⟩ := by
  constructor
  · intro f hf
    obtain rfl := Except.error.inj hf
    exact .inl rfl
  · intro t ht
    exact absurd ht (by simp)

theorem meetsNull_of_reason {e : FileError} (he : e.reason = .nullCharacter) (h : null) :
    Resolution.MeetsNullOnlyIf null ⟨ws, log, .error (.ofFile e)⟩ := by
  constructor
  · intro f hf
    obtain rfl := Except.error.inj hf
    exact .inr ⟨ofFile_eq_nullFault he, h⟩
  · intro t ht
    exact absurd ht (by simp)

theorem meetsNull_finish {directory : Path} {name : Text}
    (hdirectory : ∀ n ∈ directory.names, Char.ofNat 0 ∈ n → null) (hname : Char.ofNat 0 ∈ name → null) :
    (finish ws log directory name).MeetsNullOnlyIf null := by
  unfold finish
  dsimp only
  split
  · constructor
    · intro f hf
      exact absurd hf (by simp)
    · intro t ht hnull
      obtain rfl := Except.ok.inj ht
      obtain ⟨n, hn, hnull⟩ := Path.null_of_text hnull
      dsimp only at hn
      unfold Path.append at hn
      split at hn
      · rcases List.mem_append.mp hn with hn | hn
        · exact hdirectory n hn hnull
        · exact hname (Path.null_of_mem_names hn hnull)
      · exact hname (Path.null_of_mem_names hn hnull)
  · next hstat =>
      apply meetsNull_of_reason rfl
      have hnull := stat_eq_nullCharacter_iff.mp hstat
      obtain ⟨n, hn, hnull⟩ := Path.null_of_text hnull
      exact hdirectory n hn hnull
  · exact meetsNull_refusal _ _

section RealPath

variable {t : Text} (ht : Char.ofNat 0 ∈ t → null) (hws : ¬ ws.NullFree → null)
include ht hws

theorem meetsNull_of_realPath_error {r : Reason} (h : ws.realPath t = .error r) (path : Text) :
    Resolution.MeetsNullOnlyIf null ⟨ws, log, .error (.ofFile ⟨r, path⟩)⟩ := by
  obtain ⟨rfl, hnull⟩ := null_of_realPath h
  apply meetsNull_of_reason rfl
  rcases hnull with hnull | ⟨l, target, hlink, hnull⟩
  · exact ht hnull
  · exact hws fun hfree => hfree.links l target hlink hnull

theorem meetsNull_finish_realPath {directory : Path} (h : ws.realPath t = .ok directory)
    {name : Text} (hname : Char.ofNat 0 ∈ name → null) :
    (finish ws log directory name).MeetsNullOnlyIf null := by
  apply meetsNull_finish
  · intro n hn hnull
    exact (null_of_mem_realPath h hn hnull).elim ht hws
  · exact hname

end RealPath

theorem meetsNull_inDirectory {path : Text} (hpath : Char.ofNat 0 ∈ path → null)
    (hws : ¬ ws.NullFree → null) (hname : Char.ofNat 0 ∈ rules.filename → null) :
    (rules.inDirectory ws log path).MeetsNullOnlyIf null := by
  unfold inDirectory
  split
  · split
    · next hreal => exact meetsNull_finish_realPath hpath hws hreal hname
    · next hreal => exact meetsNull_of_realPath_error hpath hws hreal path
  · exact meetsNull_refusal _ _

theorem meetsNull_forDirectory {path : Text} (hpath : Char.ofNat 0 ∈ path → null)
    (hws : ¬ ws.NullFree → null) (hname : Char.ofNat 0 ∈ rules.filename → null) :
    (rules.forDirectory ws path).MeetsNullOnlyIf null := by
  have hmade : GainsDirectories ws (ws.makePath path).1 := gainsDirectories_makeDirectories ws _ _
  unfold forDirectory
  split
  · exact meetsNull_inDirectory hpath hws hname
  · dsimp only
    split
    · next ws' hmake =>
        rw [hmake] at hmade
        apply meetsNull_inDirectory hpath _ hname
        intro hfree'
        exact hws fun hfree => hfree' (hfree.gainsDirectories hmade)
    · next ws' e hmake =>
        split
        · next hreason => exact meetsNull_of_reason hreason (hpath (null_of_makePath hmake hreason))
        · exact meetsNull_refusal _ _

theorem meetsNull_forDocument {path : Text} (hpath : Char.ofNat 0 ∈ path → null)
    (hws : ¬ ws.NullFree → null) : (forDocument ws path).MeetsNullOnlyIf null := by
  have hhead : Char.ofNat 0 ∈ (if (splitPath path).1 = [] then ['.'] else (splitPath path).1) →
      null := by
    intro hnull
    split at hnull
    · exact absurd hnull (by decide)
    · exact hpath (splitPath_fst_subset path hnull)
  unfold forDocument
  dsimp only
  split
  · next hreal =>
      apply meetsNull_finish_realPath hhead hws hreal
      intro hnull
      exact hpath (splitPath_snd_subset path hnull)
  · next hreal => exact meetsNull_of_realPath_error hhead hws hreal path

/-- Resolving meets a null character only if the request, the name of documents in directories or the
workspace has one. -/
theorem meetsNull_resolve (rules : TargetRules) (ws : Workspace) (request : Text) :
    (rules.resolve ws request).MeetsNullOnlyIf
      (Char.ofNat 0 ∈ trim request ∨ Char.ofNat 0 ∈ rules.filename ∨ ¬ ws.NullFree) := by
  unfold resolve
  dsimp only
  split
  · exact meetsNull_refusal _ _
  · split
    · apply meetsNull_forDocument
      · exact .inl
      · exact fun h => .inr (.inr h)
    · apply meetsNull_forDirectory
      · exact .inl
      · exact fun h => .inr (.inr h)
      · exact fun h => .inr (.inl h)

end Null

end TargetRules

end SourceAtlas
