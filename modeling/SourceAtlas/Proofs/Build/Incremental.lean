import SourceAtlas.Proofs.Build.Standard
import SourceAtlas.Proofs.Collecting
import SourceAtlas.Proofs.Document.Incremental
import SourceAtlas.Proofs.Targets

/-!
# Incremental builds

A document that only builds write, in any order of builds and edits of other files, is at every time
one that was made anew.  So a build that takes over what it can leaves the same document as one that
makes everything anew, or fails in the same way.  The two differ only where the name of the document is
too long: then the first cannot ask for the document, and the second cannot write it.
-/

namespace SourceAtlas

open Text Xml Describer

namespace TargetRules

open Workspace

/-- Resolving a target makes directories at most. -/
theorem noNewFiles_resolve (rules : TargetRules) (ws : Workspace) (request : Text) :
    NoNewFiles ws (rules.resolve ws request).workspace :=
  (rules.gainsDirectories_resolve ws request).noNewFiles

end TargetRules

/-! ## Histories -/

section Histories

variable (place : Location) (contents : Bytes → Prop) (lines : Text → Prop)

/-- A build whose document is at a place, and whose files and settings are among those that occur. -/
structure BuildsAt (rules : TargetRules) (ws : Workspace) (o : BuildOptions) : Prop where
  separable : o.description.Separable
  line : lines (o.description.settingsLine o.description.includeSource)
  target : ∀ target, (rules.resolve ws o.target).outcome = .ok target →
    (rules.resolve ws o.target).workspace.LeadsTo target.document.text place
  files : ∀ files, (o.selection.collect (rules.resolve ws o.target).workspace).outcome = .ok files →
    ∀ file ∈ files, ∀ bytes, (rules.resolve ws o.target).workspace.read file.text = .ok bytes →
      contents bytes

/-- The workspaces that builds and edits reach from one without a document: builds of any options, on
any equipment, and edits of anything but the document, which may go away but is not written. -/
inductive Reached : Workspace → Prop
  | start {ws : Workspace} (directory : FileSystem.Segments ws.workingDirectory)
    (absent : ∀ bytes, ws.files.get? place ≠ some (.file bytes)) : Reached ws
  | edit {ws ws' : Workspace} (before : Reached ws)
    (directory : FileSystem.Segments ws'.workingDirectory)
    (document : ∀ bytes, ws'.files.get? place = some (.file bytes) →
      ws.files.get? place = some (.file bytes)) : Reached ws'
  | build {ws : Workspace} (before : Reached ws) (rules : TargetRules) (colored : Bool)
    (equipment : Equipment) (o : BuildOptions) (run : BuildsAt place contents lines rules ws o) :
    Reached (build .standard rules colored ws equipment o).1.workspace

/-- What every reached workspace keeps: the document is one that was made anew. -/
structure KeepsDocument (ws : Workspace) : Prop where
  directory : FileSystem.Segments ws.workingDirectory
  document : ∀ bytes, ws.files.get? place = some (.file bytes) → IsMade contents lines bytes

end Histories

/-! ## One build -/

/-- The options with everything described anew, or not. -/
def BuildOptions.forced (o : BuildOptions) (force : Bool) : BuildOptions :=
  { o with description := { o.description with force } }

theorem separable_forced {o : BuildOptions} (h : o.description.Separable) (force : Bool) :
    (o.forced force).description.Separable :=
  ⟨h.packageName, h.markers⟩

/-- A build with files to describe cannot ask for its document, since the name is too long, and no
file fails in the same way before. -/
def AsksInVain (rules : TargetRules) (ws : Workspace) (o : BuildOptions) : Prop :=
  ∃ target files, (rules.resolve ws o.target).outcome = .ok target ∧
    (o.selection.collect (rules.resolve ws o.target).workspace).outcome = .ok files ∧ files ≠ [] ∧
    (rules.resolve ws o.target).workspace.stat target.document.text = .error .nameTooLong ∧
    ∀ e, (rules.resolve ws o.target).workspace.firstFailure files = some e →
      Fault.ofFile e ≠ .ofFile ⟨.nameTooLong, target.document.text⟩

section OneBuild

variable {place : Location} {contents : Bytes → Prop} {lines : Text → Prop} {ws : Workspace}
  {rules : TargetRules} {o : BuildOptions}

theorem KeepsDocument.of_noNewFiles {ws' : Workspace} (h : KeepsDocument place contents lines ws)
    (hfiles : Workspace.NoNewFiles ws ws') : KeepsDocument place contents lines ws' := by
  constructor
  · rw [hfiles.directory]
    exact h.directory
  · intro bytes hbytes
    apply h.document bytes
    exact hfiles.files place bytes hbytes

/-- The failure of a file is one of the collaborators. -/
theorem failureToParse_ofFile (e : FileError) :
    failureToParse (.ofFile e) = Run.collaboratorFailure (.ofFile e) := by
  obtain ⟨reason, path⟩ := e
  cases reason <;> rfl

theorem describe_nil (d : Describer) (includeSource : Bool) :
    (d.describe ws includeSource []).outcome = .error Describer.noFiles := rfl

section Describing

variable {target : Target} {files : List Path} (hno : NoCollisions contents lines)
  (hkeeps : KeepsDocument place contents lines ws) (hseparable : o.description.Separable)
  (hline : lines (o.description.settingsLine o.description.includeSource))
  (htarget : ws.LeadsTo target.document.text place)

include hkeeps htarget in
theorem isMade_earlier : ∀ path bytes, (preparedDescriber o target ws files).earlier = some path →
    ws.read path.text = .ok bytes → IsMade contents lines bytes := by
  intro path bytes hpath hread
  obtain rfl := Option.some.inj hpath
  exact hkeeps.document bytes (Workspace.get?_of_read htarget hread)

variable (hcollect : (o.selection.collect ws).outcome = .ok files)
  (hcontents : ∀ file ∈ files, ∀ bytes, ws.read file.text = .ok bytes → contents bytes)
  (hfiles : files ≠ [])

include hno hkeeps hseparable hline htarget hcollect hcontents hfiles

/-- What becomes of describing files, when the document can be asked for. -/
theorem describe_prepared (hask : (preparedDescriber o target ws files).CanAsk ws) :
    ((∀ file ∈ files, ws.read file.text = .ok (ws.contentOf file)) →
      ((preparedDescriber o target ws files).describe ws o.description.includeSource
        files).outcome = .ok (((preparedDescriber o target ws files).freshProject
          o.description.includeSource ws.contentOf files).write ++ ['\n'])) ∧
    ∀ f, (∀ (d : Describer) includeSource previous,
        (d.itemsOf ws includeSource previous files).outcome = .error f) →
      ((preparedDescriber o target ws files).describe ws o.description.includeSource
        files).outcome = .error f := by
  have hearlier : ∀ path bytes, (preparedDescriber o target ws files).earlier = some path →
      ws.read path.text = .ok bytes → IsMade contents lines bytes := isMade_earlier hkeeps htarget
  constructor
  · intro hread
    exact Describer.describe_of_readable hno hseparable hline hearlier hcontents
      (Describer.nodup_shownPath hkeeps.directory hcollect rfl) hask hfiles hread
  · intro f herror
    apply Describer.describe_of_unreadable hno hseparable hline hearlier hask hfiles
    intro previous
    exact herror _ _ previous

/-- A document that is described was made anew. -/
theorem isMade_of_describe {content : Text}
    (h : ((preparedDescriber o target ws files).describe ws o.description.includeSource
      files).outcome = .ok content) : IsMade contents lines (Utf8.encode content) := by
  have hask : (preparedDescriber o target ws files).CanAsk ws := by
    cases hforce : o.description.force with
    | true => exact .inl hforce
    | false =>
        right
        intro path hpath hstat
        rw [Describer.describe_of_nameTooLong hpath hforce hstat hfiles] at h
        exact absurd h (by simp)
  obtain ⟨hreadable, hunreadable⟩ := describe_prepared hno hkeeps hseparable hline htarget hcollect
    hcontents hfiles hask
  rcases Describer.readable_or_error ws files with ⟨-, hread⟩ | ⟨e, -, herror⟩
  · rw [hreadable hread] at h
    obtain rfl := Except.ok.inj h
    exact ⟨_, _, _, files, rfl, hseparable, hline,
      fun file hfile => hcontents file hfile _ (hread file hfile)⟩
  · rw [hunreadable _ herror] at h
    exact absurd h (by simp)

/-- Whether everything is to be described anew makes no difference when the document can be asked
for. -/
theorem describe_forced (hask : ws.stat target.document.text ≠ .error .nameTooLong) (force : Bool) :
    ((preparedDescriber (o.forced force) target ws files).describe ws o.description.includeSource
      files).outcome =
      ((preparedDescriber o target ws files).describe ws o.description.includeSource
        files).outcome := by
  have hcan : ∀ o' : BuildOptions, (preparedDescriber o' target ws files).CanAsk ws := by
    intro o'
    right
    intro path hpath
    obtain rfl := Option.some.inj hpath
    exact hask
  obtain ⟨hreadable, hunreadable⟩ := describe_prepared hno hkeeps hseparable hline htarget hcollect
    hcontents hfiles (hcan o)
  obtain ⟨hreadable', hunreadable'⟩ := describe_prepared hno hkeeps
    (separable_forced hseparable force) hline htarget hcollect hcontents hfiles
    (hcan (o.forced force))
  rcases Describer.readable_or_error ws files with ⟨-, hread⟩ | ⟨e, -, herror⟩
  · rw [hreadable hread]
    exact hreadable' hread
  · rw [hunreadable _ herror]
    exact hunreadable' _ herror

end Describing

/-! ## Every build of a history -/

/-- A build keeps the document one that was made anew. -/
theorem KeepsDocument.resultOf (hno : NoCollisions contents lines)
    (hkeeps : KeepsDocument place contents lines ws)
    (hbuild : BuildsAt place contents lines rules ws o) :
    KeepsDocument place contents lines (resultOf rules ws o).1 := by
  have hresolved := hkeeps.of_noNewFiles (rules.noNewFiles_resolve ws o.target)
  rcases workspace_resultOf rules ws o with
    hsame | ⟨target, files, content, htarget, hcollect, hdescribe, hwrite⟩
  · rw [hsame]
    exact hresolved
  · have hfiles : files ≠ [] := by
      rintro rfl
      exact absurd hdescribe (by simp [describe_nil])
    have hmade := isMade_of_describe hno hresolved hbuild.separable hbuild.line
      (hbuild.target target htarget) hcollect (hbuild.files files hcollect) hfiles hdescribe
    obtain ⟨hdirectory, hafter⟩ := Workspace.of_write hwrite
    constructor
    · rw [hdirectory]
      exact hresolved.directory
    · intro bytes hbytes
      rcases hafter place bytes hbytes with rfl | hbefore
      · exact hmade
      · exact hresolved.document bytes hbefore

/-- In every reached workspace the document is one that was made anew. -/
theorem Reached.keepsDocument (hno : NoCollisions contents lines)
    (h : Reached place contents lines ws) : KeepsDocument place contents lines ws := by
  induction h with
  | start directory absent =>
      constructor
      · exact directory
      · intro bytes hbytes
        exact absurd hbytes (absent bytes)
  | edit _ directory document ih =>
      constructor
      · exact directory
      · intro bytes hbytes
        apply ih.document bytes
        exact document bytes hbytes
  | @build ws _ rules colored equipment o run ih =>
      have hresult := build_standard rules colored ws equipment o
      rw [show (SourceAtlas.build .standard rules colored ws equipment o).1.workspace =
        (SourceAtlas.resultOf rules ws o).1 from congrArg Prod.fst hresult]
      exact ih.resultOf hno run

/-- A build that can ask for its document comes to the same, whether everything is to be described
anew or not. -/
theorem resultOf_forced (hno : NoCollisions contents lines)
    (hkeeps : KeepsDocument place contents lines ws)
    (hbuild : BuildsAt place contents lines rules ws o)
    (hask : ∀ target files, (rules.resolve ws o.target).outcome = .ok target →
      (o.selection.collect (rules.resolve ws o.target).workspace).outcome = .ok files → files ≠ [] →
      (rules.resolve ws o.target).workspace.stat target.document.text ≠ .error .nameTooLong)
    (force : Bool) : resultOf rules ws (o.forced force) = resultOf rules ws o := by
  have hresolved := hkeeps.of_noNewFiles (rules.noNewFiles_resolve ws o.target)
  have hparsed : ∀ target, (rules.resolve ws o.target).outcome = .ok target →
      parsedIn (o.forced force) target (rules.resolve ws o.target).workspace =
        parsedIn o target (rules.resolve ws o.target).workspace := by
    intro target htarget
    unfold parsedIn
    rw [show (o.forced force).selection = o.selection from rfl,
      show (o.forced force).description.includeSource = o.description.includeSource from rfl]
    cases hcollect : (o.selection.collect (rules.resolve ws o.target).workspace).outcome with
    | error f => rfl
    | ok files =>
        by_cases hfiles : files = []
        · simp only [hfiles, describe_nil]
        · simp only [describe_forced hno hresolved hbuild.separable hbuild.line
            (hbuild.target target htarget) hcollect (hbuild.files files hcollect) hfiles
            (hask target files htarget hcollect hfiles) force]
  unfold SourceAtlas.resultOf
  rw [show (o.forced force).target = o.target from rfl]
  cases htarget : (rules.resolve ws o.target).outcome with
  | error f => simp only [htarget]
  | ok target => simp only [htarget, hparsed target htarget]

/-! ## Documents of too long a name -/

/-- The failures of collaborators are told apart as the faults that they stem from. -/
theorem collaboratorFailure_inj {f f' : Fault} :
    Run.collaboratorFailure f = Run.collaboratorFailure f' ↔ f = f' := by
  constructor
  · intro h
    exact Option.some.inj (congrArg Fault.cause h)
  · exact congrArg _

theorem failureToWrite_ne (target : Target) (f : Fault) :
    failureToWrite target ⟨.nameTooLong, target.document.text⟩ ≠ Run.collaboratorFailure f := by
  intro h
  have hclass : FaultClass.own .notWritten = .own .collaborator := congrArg Fault.cls h
  exact absurd hclass (by decide)

section TooLong

variable {target : Target} {files : List Path}
  (htarget : (rules.resolve ws o.target).outcome = .ok target)
  (hcollect : (o.selection.collect (rules.resolve ws o.target).workspace).outcome = .ok files)

include htarget hcollect

/-- What a build comes to, by what becomes of describing its files. -/
theorem resultOf_eq_describe (force : Bool) : resultOf rules ws (o.forced force) =
    match ((preparedDescriber (o.forced force) target (rules.resolve ws o.target).workspace
        files).describe (rules.resolve ws o.target).workspace o.description.includeSource
        files).outcome with
    | .error f => ((rules.resolve ws o.target).workspace, .error (failureToParse f))
    | .ok content =>
        persistedIn (rules.resolve ws o.target).workspace target files.length content := by
  have hselection : ((o.forced force).selection.collect
      (rules.resolve ws o.target).workspace).outcome = .ok files := hcollect
  unfold resultOf
  rw [show (o.forced force).target = o.target from rfl]
  simp only [htarget, parsedIn, hselection,
    show (o.forced force).description.includeSource = o.description.includeSource from rfl]
  cases ((preparedDescriber (o.forced force) target (rules.resolve ws o.target).workspace
    files).describe (rules.resolve ws o.target).workspace o.description.includeSource
    files).outcome <;> rfl

variable (hfiles : files ≠ [])
  (hstat : (rules.resolve ws o.target).workspace.stat target.document.text = .error .nameTooLong)

include hfiles hstat

/-- An incremental build that cannot ask for its document fails for that. -/
theorem resultOf_incremental_of_nameTooLong : resultOf rules ws (o.forced false) =
    ((rules.resolve ws o.target).workspace,
      .error (Run.collaboratorFailure (.ofFile ⟨.nameTooLong, target.document.text⟩))) := by
  rw [resultOf_eq_describe htarget hcollect,
    Describer.describe_of_nameTooLong rfl rfl hstat hfiles]
  simp only [failureToParse_ofFile]

/-- A build that makes a document of too long a name anew fails since a file cannot be read, or since
the document cannot be written. -/
theorem resultOf_full_of_nameTooLong : resultOf rules ws (o.forced true) =
    ((rules.resolve ws o.target).workspace,
      .error (match (rules.resolve ws o.target).workspace.firstFailure files with
        | some e => Run.collaboratorFailure (.ofFile e)
        | none => failureToWrite target ⟨.nameTooLong, target.document.text⟩)) := by
  have hload : (preparedDescriber (o.forced true) target (rules.resolve ws o.target).workspace
      files).StartsAnew (rules.resolve ws o.target).workspace := .inl rfl
  rw [resultOf_eq_describe htarget hcollect]
  rcases Describer.readable_or_error (rules.resolve ws o.target).workspace files with
    ⟨hnone, hread⟩ | ⟨e, he, herror⟩
  · rw [hnone, Describer.describe_outcome, Describer.project_anew hload hread,
      if_neg (by simpa using hfiles)]
    simp only [Except.map, persistedIn, Workspace.write_of_stat_error hstat]
  · rw [he, Describer.describe_outcome, Describer.project, hload.load,
      if_neg (by simpa using hfiles)]
    simp only [herror, Except.map, failureToParse_ofFile]

/-- The two fail in the same way exactly if a file fails in that way before. -/
theorem outcome_forced_iff_of_nameTooLong :
    (resultOf rules ws (o.forced false)).2 = (resultOf rules ws (o.forced true)).2 ↔
      ¬ AsksInVain rules ws o := by
  rw [resultOf_incremental_of_nameTooLong htarget hcollect hfiles hstat,
    resultOf_full_of_nameTooLong htarget hcollect hfiles hstat]
  constructor
  · rintro hsame ⟨target', files', htarget', hcollect', -, -, hother⟩
    obtain rfl := Except.ok.inj (htarget.symm.trans htarget')
    obtain rfl := Except.ok.inj (hcollect.symm.trans hcollect')
    have hfault := Except.error.inj hsame
    cases hfirst : (rules.resolve ws o.target).workspace.firstFailure files with
    | none =>
        rw [hfirst] at hfault
        exact failureToWrite_ne target _ hfault.symm
    | some e =>
        rw [hfirst] at hfault
        apply hother e hfirst
        exact (collaboratorFailure_inj.mp hfault).symm
  · intro hvain
    by_contra hdiffer
    apply hvain
    refine ⟨target, files, htarget, hcollect, hfiles, hstat, ?_⟩
    intro e hfirst hsame
    rw [hfirst] at hdiffer
    apply hdiffer
    exact congrArg Except.error (collaboratorFailure_inj.mpr hsame).symm

end TooLong

end OneBuild

/-! ## A history of one file -/

/-- The one content of the one file. -/
def OneContent (bytes : Bytes) : Prop := bytes = Utf8.encode "# TODO tidy".toList

/-- The one line of settings. -/
def OneLine (line : Text) : Prop := line = selectOneFile.description.settingsLine false

theorem noCollisions_oneFile : NoCollisions OneContent OneLine := by
  constructor
  · intro a b ha hb _
    exact ha.trans hb.symm
  · intro s t hs ht _
    exact hs.trans ht.symm

theorem reached_oneFile (place : Location) (h : oneFile.files.get? place = none) :
    Reached place OneContent OneLine oneFile :=
  .start (by simp [FileSystem.Segments, oneFile]) (by simp [h])

theorem separable_oneFile : selectOneFile.description.Separable := ⟨by decide, by decide⟩

theorem buildsAt_oneFile {place : Location} {entries : List (Location × Entry)}
    (hplace : (oneFileAnd entries).LeadsTo "/w/structure.xml".toList place) :
    BuildsAt place OneContent OneLine {} (oneFileAnd entries) selectOneFile where
  separable := separable_oneFile
  line := rfl
  target := by
    intro target htarget
    rw [(resolve_oneFileAnd entries).2] at htarget
    obtain rfl := Except.ok.inj htarget
    exact hplace
  files := by
    intro files hfiles file hfile bytes hread
    rw [(resolve_oneFileAnd entries).1] at hfiles hread
    rw [collect_oneFileAnd] at hfiles
    obtain rfl := Except.ok.inj hfiles
    obtain rfl := List.mem_singleton.mp hfile
    exact (Except.ok.inj hread).symm

/-- The options of a build of the one file, to a document of too long a name. -/
def longName : BuildOptions :=
  { selectOneFile with target := "/w/".toList ++ List.replicate 300 'x' ++ ".xml".toList }

theorem resolve_longName :
    (TargetRules.resolve {} oneFile longName.target).workspace = oneFile ∧
      (TargetRules.resolve {} oneFile longName.target).outcome =
        .ok ⟨.ofText longName.target, .ofText "/w".toList⟩ := by
  constructor <;> decide +kernel

theorem stat_longName :
    oneFile.stat (Path.ofText longName.target).text = .error .nameTooLong := by
  decide +kernel

theorem buildsAt_longName (place : Location) :
    BuildsAt place OneContent OneLine {} oneFile longName where
  separable := separable_oneFile
  line := rfl
  target := by
    intro target htarget
    rw [resolve_longName.2] at htarget
    obtain rfl := Except.ok.inj htarget
    have hnowhere : oneFile.lookup true (endsWith (Path.ofText longName.target).text ['/'])
        (Path.ofText longName.target).text = .error .nameTooLong := by
      decide +kernel
    rw [resolve_longName.1, Workspace.LeadsTo, hnowhere]
    trivial
  files := by
    intro files hfiles file hfile bytes hread
    rw [resolve_longName.1] at hfiles hread
    obtain rfl := Except.ok.inj (collect_oneFile.symm.trans hfiles)
    obtain rfl := List.mem_singleton.mp hfile
    exact (Except.ok.inj hread).symm

/-! ## Incremental and full builds -/

/-- From every workspace that builds and edits reach, an incremental build and one that makes
everything anew leave the same workspace, and they come to the same exactly if the first does not ask
in vain for its document.  If it does, both fail, the first since it cannot ask. -/
theorem incremental_build_eq_full_build {place : Location} {contents : Bytes → Prop}
    {lines : Text → Prop} (hno : NoCollisions contents lines) {ws : Workspace}
    (hreached : Reached place contents lines ws) {rules : TargetRules} {o : BuildOptions}
    (hbuild : BuildsAt place contents lines rules ws o) (colored colored' : Bool)
    (equipment equipment' : Equipment) :
    (build .standard rules colored ws equipment (o.forced false)).1.workspace =
        (build .standard rules colored' ws equipment' (o.forced true)).1.workspace ∧
      ((build .standard rules colored ws equipment (o.forced false)).2 =
          (build .standard rules colored' ws equipment' (o.forced true)).2 ↔
        ¬ AsksInVain rules ws o) ∧
      (AsksInVain rules ws o → ∃ target f,
        (rules.resolve ws o.target).outcome = .ok target ∧
        (build .standard rules colored ws equipment (o.forced false)).2 =
          .error (Run.collaboratorFailure (.ofFile ⟨.nameTooLong, target.document.text⟩)) ∧
        (build .standard rules colored' ws equipment' (o.forced true)).2 = .error f) := by
  have hincremental := build_standard rules colored ws equipment (o.forced false)
  have hfull := build_standard rules colored' ws equipment' (o.forced true)
  by_cases hask : ∃ target files, (rules.resolve ws o.target).outcome = .ok target ∧
      (o.selection.collect (rules.resolve ws o.target).workspace).outcome = .ok files ∧
      files ≠ [] ∧
      (rules.resolve ws o.target).workspace.stat target.document.text = .error .nameTooLong
  · obtain ⟨target, files, htarget, hcollect, hfiles, hstat⟩ := hask
    have hiff := outcome_forced_iff_of_nameTooLong htarget hcollect hfiles hstat
    rw [← hincremental, ← hfull] at hiff
    rw [resultOf_incremental_of_nameTooLong htarget hcollect hfiles hstat] at hincremental
    rw [resultOf_full_of_nameTooLong htarget hcollect hfiles hstat] at hfull
    obtain ⟨hworkspace, houtcome⟩ := Prod.mk.inj hincremental
    obtain ⟨hworkspace', houtcome'⟩ := Prod.mk.inj hfull
    refine ⟨hworkspace.trans hworkspace'.symm, hiff, ?_⟩
    intro _
    exact ⟨target, _, htarget, houtcome, houtcome'⟩
  · have hkeeps := hreached.keepsDocument hno
    have hasks : ∀ target files, (rules.resolve ws o.target).outcome = .ok target →
        (o.selection.collect (rules.resolve ws o.target).workspace).outcome = .ok files →
        files ≠ [] →
        (rules.resolve ws o.target).workspace.stat target.document.text ≠ .error .nameTooLong := by
      intro target files htarget hcollect hfiles hstat
      apply hask
      exact ⟨target, files, htarget, hcollect, hfiles, hstat⟩
    have hvain : ¬ AsksInVain rules ws o := by
      rintro ⟨target, files, htarget, hcollect, hfiles, hstat, -⟩
      apply hask
      exact ⟨target, files, htarget, hcollect, hfiles, hstat⟩
    have hsame : resultOf rules ws (o.forced false) = resultOf rules ws (o.forced true) := by
      calc
        resultOf rules ws (o.forced false) = resultOf rules ws o :=
          resultOf_forced hno hkeeps hbuild hasks false
        _ = resultOf rules ws (o.forced true) :=
          (resultOf_forced hno hkeeps hbuild hasks true).symm
    rw [← hincremental, ← hfull] at hsame
    obtain ⟨hworkspace, houtcome⟩ := Prod.mk.inj hsame
    exact ⟨hworkspace, iff_of_true houtcome hvain, fun h => absurd h hvain⟩

theorem one_file_built_again :
    ∃ document, Reached ["w".toList, "structure.xml".toList] OneContent OneLine
        (oneFileAnd [(["w".toList, "structure.xml".toList], .file document)]) ∧
      (build .standard {} false (oneFileAnd [(["w".toList, "structure.xml".toList], .file document)])
          (.new oneFile) (selectOneFile.forced false)).2 =
        (build .standard {} false
          (oneFileAnd [(["w".toList, "structure.xml".toList], .file document)])
          (.new oneFile) (selectOneFile.forced true)).2 := by
  have hbuild : BuildsAt ["w".toList, "structure.xml".toList] OneContent OneLine {} oneFile
      selectOneFile := @buildsAt_oneFile _ [] rfl
  have hreached : Reached ["w".toList, "structure.xml".toList] OneContent OneLine oneFile :=
    reached_oneFile _ (by decide)
  -- The first build leaves the workspace with the document.
  obtain ⟨product, hproduct⟩ := exists_eq_ok_of_isOk isOk_resultOf_oneFile
  obtain ⟨files, content, htarget, -, -, hwrite, -⟩ := resultOf_eq_ok (Prod.ext rfl hproduct)
  rw [resolve_oneFile.2] at htarget
  rw [resolve_oneFile.1, ← Except.ok.inj htarget] at hwrite
  have hfirst : (build .standard {} false oneFile (.new oneFile) selectOneFile).1.workspace =
      oneFileAnd [(["w".toList, "structure.xml".toList], .file (Utf8.encode content))] :=
    (congrArg Prod.fst (build_standard {} false oneFile (.new oneFile) selectOneFile)).trans
      (Except.ok.inj hwrite).symm
  have hagain := hreached.build {} false (.new oneFile) selectOneFile hbuild
  rw [hfirst] at hagain
  refine ⟨_, hagain, (incremental_build_eq_full_build noCollisions_oneFile hagain
    (buildsAt_oneFile rfl) false false (.new oneFile) (.new oneFile)).2.1.mpr ?_⟩
  rintro ⟨target, files', htarget', -, -, hstat, -⟩
  rw [(resolve_oneFileAnd _).2] at htarget'
  rw [(resolve_oneFileAnd _).1, ← Except.ok.inj htarget'] at hstat
  have hasked : (oneFileAnd [(["w".toList, "structure.xml".toList],
      .file (Utf8.encode content))]).stat (Path.ofText "/w/structure.xml".toList).text =
        .ok (.file (Utf8.encode content)) := by
    rfl
  exact absurd (hasked.symm.trans hstat) (by simp)

/-- Where the name of the document is too long, the two builds fail differently. -/
theorem incremental_build_ne_full_build :
    NoCollisions OneContent OneLine ∧
      Reached ["w".toList, List.replicate 300 'x' ++ ".xml".toList] OneContent OneLine oneFile ∧
      BuildsAt ["w".toList, List.replicate 300 'x' ++ ".xml".toList] OneContent OneLine {} oneFile
        longName ∧
      (build .standard {} false oneFile (.new oneFile) (longName.forced false)).2 ≠
        (build .standard {} false oneFile (.new oneFile) (longName.forced true)).2 := by
  refine ⟨noCollisions_oneFile, reached_oneFile _ (by decide), buildsAt_longName _, ?_⟩
  have hincremental := build_standard {} false oneFile (.new oneFile) (longName.forced false)
  have hfull := build_standard {} false oneFile (.new oneFile) (longName.forced true)
  obtain ⟨hresolved, htarget⟩ := resolve_longName
  have hcollect : (longName.selection.collect
      (TargetRules.resolve {} oneFile longName.target).workspace).outcome =
        .ok [.ofText "/w/a.php".toList] := by
    rw [hresolved]
    exact collect_oneFile
  have hstat : (TargetRules.resolve {} oneFile longName.target).workspace.stat
      (Path.ofText longName.target).text = .error .nameTooLong := by
    rw [hresolved]
    exact stat_longName
  have hreadable : (TargetRules.resolve {} oneFile longName.target).workspace.firstFailure
      [.ofText "/w/a.php".toList] = none := by
    rw [hresolved]
    rfl
  rw [resultOf_incremental_of_nameTooLong htarget hcollect (by simp) hstat] at hincremental
  rw [resultOf_full_of_nameTooLong htarget hcollect (by simp) hstat, hreadable] at hfull
  rw [(Prod.mk.inj hincremental).2, (Prod.mk.inj hfull).2]
  intro hsame
  exact failureToWrite_ne _ _ (Except.error.inj hsame).symm

end SourceAtlas
