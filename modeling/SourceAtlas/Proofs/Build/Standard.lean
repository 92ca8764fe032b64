import SourceAtlas.Proofs.Build.Endings
import SourceAtlas.Proofs.Collecting
import SourceAtlas.Proofs.Document.Describing

/-!
# What a run with the standard collaborators does

The standard collaborators keep a state, log and signal, but none of that decides what a run comes
to: the workspace it leaves and its outcome are a function of the workspace and the options alone.
-/

namespace SourceAtlas

open Text

/-- The describer that a run prepares for the files it found. -/
def preparedDescriber (o : BuildOptions) (target : Target) (ws : Workspace) (files : List Path) :
    Describer :=
  ⟨o.description, some target.document, Collection.commonDirectory ws files⟩

/-- The files of a run in a workspace, and their document. -/
def parsedIn (o : BuildOptions) (target : Target) (ws : Workspace) :
    Except Fault (List Path × Text) :=
  match (o.selection.collect ws).outcome with
  | .error f => .error (failureToConfigure f)
  | .ok files =>
    match ((preparedDescriber o target ws files).describe ws o.description.includeSource
        files).outcome with
    | .error f => .error (failureToParse f)
    | .ok content => .ok (files, content)

/-- Writes the document of a number of files. -/
def persistedIn (ws : Workspace) (target : Target) (files : Nat) (content : Text) :
    Workspace × Except Fault Product :=
  match ws.write target.document.text (Utf8.encode content) with
  | .ok ws => (ws, .ok ⟨target, files, (Utf8.encode content).length⟩)
  | .error e => (ws, .error (failureToWrite target e))

/-- What a run comes to. -/
def resultOf (rules : TargetRules) (ws : Workspace) (o : BuildOptions) :
    Workspace × Except Fault Product :=
  let resolution := rules.resolve ws o.target
  match resolution.outcome with
  | .error f => (resolution.workspace, .error f)
  | .ok target =>
    match parsedIn o target resolution.workspace with
    | .error f => (resolution.workspace, .error f)
    | .ok (files, content) => persistedIn resolution.workspace target files.length content

/-! ## The calls of the standard collaborators -/

section Calls

variable {e : Equipment} {ws : Workspace} {o : BuildOptions} {target : Target} {p : Phase}
  {f : Fault} {files : List Path}

theorem collected_standard :
    (Collaborators.standard.collected e ws o).outcome = (o.selection.collect ws).outcome := by
  change ((e.collection.configure o.selection).files ws).2.outcome = _
  rw [files_configure]

/-- The files are collected once: what comes later finds them. -/
theorem collection_collected (h : (o.selection.collect ws).outcome = .ok files) :
    (Collaborators.standard.collected e ws o).state.collection = ⟨o.selection, some files⟩ := by
  change ((e.collection.configure o.selection).files ws).1 = _
  rw [files_configure, h]

theorem rooted_standard (h : (o.selection.collect ws).outcome = .ok files) :
    (Collaborators.standard.rooted e ws o).outcome = .ok (Collection.commonDirectory ws files) ∧
      (Collaborators.standard.rooted e ws o).state.collection = ⟨o.selection, some files⟩ := by
  have hroot : Collection.root (Collaborators.standard.collected e ws o).state.collection ws =
      (⟨o.selection, some files⟩, [], .ok (Collection.commonDirectory ws files)) := by
    rw [collection_collected h, Collection.root, files_found]
    rfl
  exact ⟨congrArg (·.2.2) hroot, congrArg (·.1) hroot⟩

theorem described_standard (h : (o.selection.collect ws).outcome = .ok files) :
    (Collaborators.standard.described e ws o target.document
        (Collection.commonDirectory ws files)).outcome =
      ((preparedDescriber o target ws files).describe ws o.description.includeSource
        files).outcome := by
  change (Equipment.describe ⟨(Collaborators.standard.rooted e ws o).state.collection,
    preparedDescriber o target ws files⟩ ws o.description.includeSource).outcome = _
  rw [(rooted_standard h).2]
  rfl

/-- What the standard collaborators collect, and the root that they find for it. -/
theorem collect_of_rooted {root : Path}
    (hcollected : (Collaborators.standard.collected e ws o).outcome = .ok files)
    (hrooted : (Collaborators.standard.rooted e ws o).outcome = .ok root) :
    (o.selection.collect ws).outcome = .ok files ∧ root = Collection.commonDirectory ws files := by
  rw [collected_standard] at hcollected
  rw [(rooted_standard hcollected).1] at hrooted
  exact ⟨hcollected, (Except.ok.inj hrooted).symm⟩

/-- What keeps the standard collaborators from a document: the files cannot be collected, or those that
were collected cannot be described. -/
inductive Hinders (o : BuildOptions) (target : Target) (ws : Workspace) : Phase → Fault → Prop
  | collect {f : Fault} (h : (o.selection.collect ws).outcome = .error f) :
      Hinders o target ws .configuring f
  | describe {files : List Path} {f : Fault} (hfiles : (o.selection.collect ws).outcome = .ok files)
      (h : ((preparedDescriber o target ws files).describe ws o.description.includeSource
        files).outcome = .error f) : Hinders o target ws .parsing f

/-- The standard collaborators raise nothing else. -/
theorem hinders_of_raises (h : Raises .standard e ws o target.document p f) :
    Hinders o target ws p f := by
  cases h with
  | select h =>
      have hselected : (Collaborators.standard.selected e ws o).outcome = .ok () := rfl
      exact absurd (h.symm.trans hselected) (by simp)
  | files _ h =>
      rw [collected_standard] at h
      exact .collect h
  | root _ hcollected h =>
      rw [collected_standard] at hcollected
      rw [(rooted_standard hcollected).1] at h
      exact absurd h (by simp)
  | prepare _ _ _ h =>
      have hprepared : ∀ root, (Collaborators.standard.prepared e ws o target.document root).outcome =
          .ok () := fun _ => rfl
      exact absurd (h.symm.trans (hprepared _)) (by simp)
  | describe configures h =>
      obtain ⟨hcollect, rfl⟩ := collect_of_rooted configures.collected configures.rooted
      rw [described_standard hcollect] at h
      exact .describe hcollect h

/-- What the standard collaborators raise is what their run cannot collect or describe. -/
theorem parsedIn_of_raises (h : Raises .standard e ws o target.document p f) :
    parsedIn o target ws = .error (failureIn p f) := by
  unfold parsedIn
  cases hinders_of_raises h with
  | collect h =>
      rw [h]
      rfl
  | describe hfiles h =>
      simp only [hfiles, h]
      rfl

/-- What the standard collaborators describe is what their run parses. -/
theorem parsedIn_of_describes {root : Path} {content : Text}
    (h : Describes .standard e ws o target.document files root content) :
    parsedIn o target ws = .ok (files, content) := by
  obtain ⟨hcollect, rfl⟩ := collect_of_rooted h.collected h.rooted
  have hdescribe := h.described
  rw [described_standard hcollect] at hdescribe
  simp only [parsedIn, hcollect, hdescribe]

end Calls

/-- What a run with the standard collaborators comes to depends neither on their state nor on the
way it reports. -/
theorem build_standard (rules : TargetRules) (colored : Bool) (ws : Workspace)
    (equipment : Equipment) (o : BuildOptions) :
    ((build .standard rules colored ws equipment o).1.workspace,
      (build .standard rules colored ws equipment o).2) = resultOf rules ws o := by
  have hends := ends_build .standard rules colored ws equipment o
  generalize hremains : Remains.of (build .standard rules colored ws equipment o) = remains at hends
  have hresult : ((build .standard rules colored ws equipment o).1.workspace,
      (build .standard rules colored ws equipment o).2) = (remains.workspace, remains.outcome) := by
    rw [← hremains]
    rfl
  rw [hresult]
  unfold resultOf
  cases hends with
  | unresolved h => simp only [h]
  | raised resolved h => simp only [resolved, parsedIn_of_raises h]
  | unwritten resolved describes h =>
      simp only [resolved, parsedIn_of_describes describes, persistedIn, h]
  | written resolved describes h =>
      simp only [resolved, parsedIn_of_describes describes, persistedIn, h]

/-! ## What becomes of the document -/

theorem parsedIn_eq_ok {o : BuildOptions} {target : Target} {ws : Workspace} {files : List Path}
    {content : Text} :
    parsedIn o target ws = .ok (files, content) ↔
      (o.selection.collect ws).outcome = .ok files ∧
        ((preparedDescriber o target ws files).describe ws o.description.includeSource
          files).outcome = .ok content := by
  unfold parsedIn
  cases hcollect : (o.selection.collect ws).outcome with
  | error f => simp
  | ok found =>
      constructor
      · intro h
        simp only at h
        split at h
        · exact absurd h (by simp)
        · next hdescribe =>
            obtain ⟨rfl, rfl⟩ := Prod.mk.inj (Except.ok.inj h)
            exact ⟨rfl, hdescribe⟩
      · rintro ⟨hfound, hdescribe⟩
        obtain rfl := Except.ok.inj hfound
        simp only [hdescribe]

/-- A run that succeeds describes the files that it collected and writes their document. -/
theorem resultOf_eq_ok {rules : TargetRules} {ws ws' : Workspace} {o : BuildOptions}
    {product : Product} (h : resultOf rules ws o = (ws', .ok product)) :
    ∃ files content, (rules.resolve ws o.target).outcome = .ok product.target ∧
      (o.selection.collect (rules.resolve ws o.target).workspace).outcome = .ok files ∧
      ((preparedDescriber o product.target (rules.resolve ws o.target).workspace files).describe
        (rules.resolve ws o.target).workspace o.description.includeSource files).outcome =
          .ok content ∧
      (rules.resolve ws o.target).workspace.write product.target.document.text
        (Utf8.encode content) = .ok ws' ∧
      product.files = files.length := by
  unfold resultOf at h
  cases hresolve : (rules.resolve ws o.target).outcome with
  | error f => simp [hresolve] at h
  | ok target =>
      simp only [hresolve] at h
      cases hparsed : parsedIn o target (rules.resolve ws o.target).workspace with
      | error f => simp [hparsed] at h
      | ok parsed =>
          obtain ⟨files, content⟩ := parsed
          obtain ⟨hcollect, hdescribe⟩ := parsedIn_eq_ok.mp hparsed
          simp only [hparsed, persistedIn] at h
          cases hwrite : (rules.resolve ws o.target).workspace.write target.document.text
              (Utf8.encode content) with
          | error e => simp [hwrite] at h
          | ok written =>
              simp only [hwrite, Prod.mk.injEq, Except.ok.injEq] at h
              obtain ⟨rfl, rfl⟩ := h
              exact ⟨files, content, rfl, hcollect, hdescribe, hwrite, rfl⟩

/-- Once the target is resolved, a run leaves the workspace as it is or writes a document. -/
theorem workspace_resultOf (rules : TargetRules) (ws : Workspace) (o : BuildOptions) :
    (resultOf rules ws o).1 = (rules.resolve ws o.target).workspace ∨
      ∃ target files content, (rules.resolve ws o.target).outcome = .ok target ∧
        (o.selection.collect (rules.resolve ws o.target).workspace).outcome = .ok files ∧
        ((preparedDescriber o target (rules.resolve ws o.target).workspace files).describe
          (rules.resolve ws o.target).workspace o.description.includeSource files).outcome =
            .ok content ∧
        (rules.resolve ws o.target).workspace.write target.document.text (Utf8.encode content) =
          .ok (resultOf rules ws o).1 := by
  unfold resultOf
  cases hresolve : (rules.resolve ws o.target).outcome with
  | error f => exact .inl (by simp only [hresolve])
  | ok target =>
      cases hparsed : parsedIn o target (rules.resolve ws o.target).workspace with
      | error f => exact .inl (by simp only [hresolve, hparsed])
      | ok parsed =>
          obtain ⟨files, content⟩ := parsed
          obtain ⟨hcollect, hdescribe⟩ := parsedIn_eq_ok.mp hparsed
          simp only [hresolve, hparsed, persistedIn]
          cases hwrite : (rules.resolve ws o.target).workspace.write target.document.text
              (Utf8.encode content) with
          | error e => exact .inl rfl
          | ok written => exact .inr ⟨target, files, content, rfl, hcollect, hdescribe, hwrite⟩

/-! ## A build of one file -/

section OneFile

open Describer

/-- The options of a build that selects the one file. -/
def selectOneFile : BuildOptions :=
  { target := "/w".toList, selection := { files := ["/w/a.php".toList] } }

/-- The workspace of the one file with further entries. -/
def oneFileAnd (entries : List (Location × Entry)) : Workspace :=
  { oneFile with files := ⟨oneFile.files.entries ++ entries⟩ }

variable (entries : List (Location × Entry))

theorem collect_oneFileAnd : (selectOneFile.selection.collect (oneFileAnd entries)).outcome =
    .ok [.ofText "/w/a.php".toList] := by
  have hpicked : selectOneFile.selection.filesOfPatterns (oneFileAnd entries)
      selectOneFile.selection.files = .ok [.ofText "/w/a.php".toList] := by
    rfl
  have hdirectories : selectOneFile.selection.directories = [] := rfl
  have hdistinct : [Path.ofText "/w/a.php".toList].eraseDups = [.ofText "/w/a.php".toList] := by
    decide
  simp only [Selection.collect, hpicked, hdirectories, Selection.filesOfDirectories,
    List.append_nil, hdistinct, List.mergeSort_singleton]

theorem collect_oneFile : (selectOneFile.selection.collect oneFile).outcome =
    .ok [.ofText "/w/a.php".toList] :=
  collect_oneFileAnd []

theorem resolve_oneFileAnd :
    (TargetRules.resolve {} (oneFileAnd entries) selectOneFile.target).workspace =
        oneFileAnd entries ∧
      (TargetRules.resolve {} (oneFileAnd entries) selectOneFile.target).outcome =
        .ok ⟨.ofText "/w/structure.xml".toList, .ofText "/w".toList⟩ := by
  constructor <;> rfl

theorem resolve_oneFile :
    (TargetRules.resolve {} oneFile selectOneFile.target).workspace = oneFile ∧
      (TargetRules.resolve {} oneFile selectOneFile.target).outcome =
        .ok ⟨.ofText "/w/structure.xml".toList, .ofText "/w".toList⟩ :=
  resolve_oneFileAnd []

theorem isOk_resultOf_oneFile : (resultOf {} oneFile selectOneFile).2.isOk = true := by
  obtain ⟨hworkspace, htarget⟩ := resolve_oneFile
  simp only [resultOf, hworkspace, htarget, parsedIn, collect_oneFile]
  decide

end OneFile

end SourceAtlas
