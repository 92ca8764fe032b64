import SourceAtlas.Discovery
import SourceAtlas.Document.Describe
import SourceAtlas.Proofs.Paths

/-!
# Collected files and their paths

The files that are collected are real paths, each once.  Below the directory that holds all of them
they still have different paths: so the document tells its files apart.
-/

namespace SourceAtlas

open Text

/-! ## Lists of different elements -/

theorem nodup_eraseDups {α : Type} [BEq α] [LawfulBEq α] (as : List α) : as.eraseDups.Nodup := by
  match as with
  | [] => simp
  | a :: as =>
      rw [List.eraseDups_cons, List.nodup_cons]
      exact ⟨by simp [List.mem_eraseDups], nodup_eraseDups _⟩
termination_by as.length
decreasing_by
  have := List.length_filter_le (fun b => !b == a) as
  simp only [List.length_cons]
  omega

/-! ## What is selected -/

namespace Selection

variable {s : Selection} {ws : Workspace}

/-- A pattern picks a path: it matches, and leads to a file that is not ignored. -/
structure Picks (s : Selection) (ws : Workspace) (pattern : Text) (p : Path) : Prop where
  found : ∃ matched, Glob.find ws (ws.expandHome pattern) = .ok matched ∧ p ∈ matched.map Path.ofText
  file : ws.isKind Entry.isFile p.text = .ok true
  kept : Glob.ignores s.ignorePatterns p p.parent = false

/-- The walk of a directory gathers a path: it comes upon it and collects it. -/
inductive Gathers (s : Selection) (ws : Workspace) (directory : Text) (p : Path) : Prop
  | intro {root : Path} (hroot : ws.expandHomePath? (.ofText directory) = some root)
      (hdirectory : ws.isKind Entry.isDirectory root.text = .ok true)
      (hwalk : p ∈ s.walk ws root (depthLimit ws) root)
      (hcollects : s.collects ws root p = .ok true) : Gathers s ws directory p

/-- A path is selected, by a pattern or in a directory. -/
inductive Selects (s : Selection) (ws : Workspace) (p : Path) : Prop
  | picked {pattern : Text} (hpattern : pattern ∈ s.files) (h : s.Picks ws pattern p) : Selects s ws p
  | gathered {directory : Text} (hdirectory : directory ∈ s.directories)
      (h : s.Gathers ws directory p) : Selects s ws p

theorem filesOfPatterns_eq (patterns : List Text) :
    s.filesOfPatterns ws patterns = concatM (s.filesOfPattern ws) patterns := by
  induction patterns with
  | nil => rfl
  | cons pattern patterns ih => rw [filesOfPatterns, concatM, ih]

theorem outcome_filesOfDirectories (directories : List Text) :
    (s.filesOfDirectories ws directories).outcome =
      concatM (fun directory => (s.filesOfDirectory ws directory).outcome) directories := by
  induction directories with
  | nil => rfl
  | cons directory directories ih =>
      rw [filesOfDirectories, concatM, ← ih]
      split
      · next hfirst =>
          rw [hfirst]
          rfl
      · next hfirst =>
          rw [hfirst]
          split
          · next hrest =>
              rw [hrest]
              rfl
          · next hrest =>
              rw [hrest]
              rfl

theorem outcome_collect (ws : Workspace) :
    (s.collect ws).outcome = (concatM (s.filesOfPattern ws) s.files >>= fun picked =>
      concatM (fun directory => (s.filesOfDirectory ws directory).outcome) s.directories >>=
        fun walked => pure (picked ++ walked)).map fun files =>
          files.eraseDups.mergeSort Path.le := by
  rw [collect, ← filesOfPatterns_eq, ← outcome_filesOfDirectories]
  split
  · next hpicked =>
      rw [hpicked]
      rfl
  · next hpicked =>
      rw [hpicked]
      split
      · next hwalked =>
          rw [hwalked]
          rfl
      · next hwalked =>
          rw [hwalked]
          rfl

/-- Files that are found in ascending order are collected as they are found. -/
theorem outcome_collect_of_ascending {files : List Path}
    (hfound : (concatM (s.filesOfPattern ws) s.files >>= fun picked =>
      concatM (fun directory => (s.filesOfDirectory ws directory).outcome) s.directories >>=
        fun walked => pure (picked ++ walked)) = .ok files)
    (hdistinct : files.eraseDups = files) (hordered : files.Pairwise fun p q => p.le q = true) :
    (s.collect ws).outcome = .ok files := by
  rw [outcome_collect, hfound]
  change Except.ok (files.eraseDups.mergeSort Path.le) = .ok files
  rw [hdistinct, List.mergeSort_of_pairwise hordered]

theorem lists_filesOfPattern {pattern : Text} {files : List Path}
    (h : s.filesOfPattern ws pattern = .ok files) : Lists ws.realFile (s.Picks ws pattern) files := by
  obtain ⟨matched, hmatched, h⟩ := bind_eq_ok.mp h
  obtain ⟨picked, hpicked, h⟩ := bind_eq_ok.mp h
  refine (lists_mapM h).congr fun p => ?_
  rw [mem_filterM hpicked]
  constructor
  · rintro ⟨⟨found, hfound, hp⟩, hfile, hkept⟩
    obtain rfl := Except.ok.inj (hfound.symm.trans (mapError_eq_ok.mp hmatched))
    refine ⟨hp, ?_⟩
    rw [hfile, hkept]
    rfl
  · rintro ⟨hp, hpick⟩
    obtain ⟨isFile, hfile, hpick⟩ := bind_eq_ok.mp hpick
    have hboth := pure_eq_ok.mp hpick
    rw [Bool.and_eq_true, Bool.not_eq_true'] at hboth
    obtain ⟨rfl, hkept⟩ := hboth
    exact ⟨⟨matched, mapError_eq_ok.mp hmatched, hp⟩, mapError_eq_ok.mp hfile, hkept⟩

theorem lists_filesOfDirectory {directory : Text} {files : List Path}
    (h : (s.filesOfDirectory ws directory).outcome = .ok files) :
    Lists ws.realFile (s.Gathers ws directory) files := by
  unfold filesOfDirectory at h
  split at h
  · cases h
  · next root hroot =>
      split at h
      · cases h
      · next hdirectory =>
          obtain rfl := Except.ok.inj h
          apply lists_nil
          rintro p ⟨hroot', hdirectory', -, -⟩
          obtain rfl := Option.some.inj (hroot.symm.trans hroot')
          cases hdirectory.symm.trans hdirectory'
      · next hdirectory =>
          obtain ⟨picked, hpicked, h⟩ := bind_eq_ok.mp h
          refine (lists_mapM h).congr fun p => ?_
          rw [mem_filterM hpicked]
          constructor
          · rintro ⟨hroot', -, hwalk, hcollects⟩
            obtain rfl := Option.some.inj (hroot.symm.trans hroot')
            exact ⟨hwalk, hcollects⟩
          · exact fun ⟨hwalk, hcollects⟩ => .intro hroot hdirectory hwalk hcollects

/-- The collected files are the real paths of what is selected, each once. -/
theorem lists_collect {files : List Path} (h : (s.collect ws).outcome = .ok files) :
    files.Nodup ∧ Lists ws.realFile (s.Selects ws) files := by
  rw [outcome_collect] at h
  obtain ⟨found, hfound, rfl⟩ := map_eq_ok.mp h
  obtain ⟨picked, hpicked, hfound⟩ := bind_eq_ok.mp hfound
  obtain ⟨walked, hwalked, hfound⟩ := bind_eq_ok.mp hfound
  obtain rfl := pure_eq_ok.mp hfound
  have hlists := (lists_concatM (fun _ _ => lists_filesOfPattern) hpicked).append
    (lists_concatM (fun _ _ => lists_filesOfDirectory) hwalked)
  have hselects : ∀ p, s.Selects ws p ↔ (∃ pattern ∈ s.files, s.Picks ws pattern p) ∨
      ∃ directory ∈ s.directories, s.Gathers ws directory p := by
    intro p
    constructor
    · rintro (⟨hpattern, hpick⟩ | ⟨hdirectory, hgather⟩)
      · exact .inl ⟨_, hpattern, hpick⟩
      · exact .inr ⟨_, hdirectory, hgather⟩
    · rintro (⟨_, hpattern, hpick⟩ | ⟨_, hdirectory, hgather⟩)
      · exact .picked hpattern hpick
      · exact .gathered hdirectory hgather
  have hmem : ∀ file, file ∈ (picked ++ walked).eraseDups.mergeSort Path.le ↔
      file ∈ picked ++ walked := by
    intro file
    rw [List.mem_mergeSort, List.mem_eraseDups]
  refine ⟨(List.mergeSort_perm _ _).nodup_iff.mpr (nodup_eraseDups _), ?_, ?_⟩
  · intro file hfile
    obtain ⟨p, hp, hreal⟩ := hlists.only file ((hmem file).mp hfile)
    exact ⟨p, (hselects p).mpr hp, hreal⟩
  · intro p hp
    obtain ⟨file, hfile, hreal⟩ := hlists.all p ((hselects p).mp hp)
    exact ⟨file, (hmem file).mpr hfile, hreal⟩

end Selection

/-- A collection that is configured looks for what is selected. -/
theorem files_configure (c : Collection) (s : Selection) (ws : Workspace) :
    (c.configure s).files ws =
      (match (s.collect ws).outcome with
        | .ok files => ⟨s, some files⟩
        | .error _ => ⟨s, none⟩, s.collect ws) := by
  unfold Collection.configure Collection.files
  obtain ⟨log, outcome⟩ := s.collect ws
  cases outcome <;> rfl

theorem files_found (s : Selection) (files : List Path) (ws : Workspace) :
    Collection.files ⟨s, some files⟩ ws = (⟨s, some files⟩, ⟨[], .ok files⟩) := rfl

/-! ## Real files -/

/-- A path as the real path of a file is: absolute and of proper names. -/
def IsRealFile (file : Path) : Prop := file.anchor ≠ .relative ∧ ∀ n ∈ file.names, IsProperName n

theorem isRealFile_of_realFile {ws : Workspace}
    (hdirectory : FileSystem.Segments ws.workingDirectory) {p file : Path}
    (h : ws.realFile p = .ok file) : IsRealFile file := by
  unfold Workspace.realFile at h
  cases hreal : ws.realPath p.text with
  | error r =>
      rw [hreal] at h
      exact absurd h (by simp)
  | ok real =>
      rw [hreal] at h
      simp only at h
      split at h
      · exact absurd h (by simp)
      · obtain rfl := Except.ok.inj h
        exact ⟨ws.anchor_ne_of_realPath hreal, ws.isProperName_of_realPath hdirectory hreal⟩

/-- The collected files are real paths, each once. -/
theorem Selection.collect_eq_ok {s : Selection} {ws : Workspace}
    (hdirectory : FileSystem.Segments ws.workingDirectory) {files : List Path}
    (h : (s.collect ws).outcome = .ok files) : files.Nodup ∧ ∀ file ∈ files, IsRealFile file := by
  obtain ⟨hnodup, hlists⟩ := lists_collect h
  refine ⟨hnodup, fun file hfile => ?_⟩
  obtain ⟨p, -, hreal⟩ := hlists.only file hfile
  exact isRealFile_of_realFile hdirectory hreal

/-! ## The directory that holds all files -/

namespace Collection

theorem prefix_commonLead_iff {ns as bs : List Text} :
    ns <+: commonLead as bs ↔ ns <+: as ∧ ns <+: bs := by
  fun_induction commonLead as bs generalizing ns with
  | case1 a as bs ih =>
      cases ns with
      | nil => simp
      | cons n ns =>
          rw [List.cons_prefix_cons, List.cons_prefix_cons, List.cons_prefix_cons, ih]
          exact and_and_left
  | case2 a as b bs hne =>
      cases ns with
      | nil => simp
      | cons n ns =>
          rw [List.cons_prefix_cons, List.cons_prefix_cons]
          refine iff_of_false (by simp) ?_
          rintro ⟨⟨rfl, -⟩, rfl, -⟩
          exact hne rfl
  | case3 as bs hnot =>
      rw [List.prefix_nil]
      constructor
      · rintro rfl
        exact ⟨List.nil_prefix, List.nil_prefix⟩
      · rintro ⟨⟨as', rfl⟩, bs', rfl⟩
        cases ns with
        | nil => rfl
        | cons n ns => exact (hnot n (ns ++ as') n (ns ++ bs') rfl rfl).elim

theorem prefix_foldl_commonLead_iff {ns start : List Text} {lists : List (List Text)} :
    ns <+: lists.foldl commonLead start ↔ ns <+: start ∧ ∀ l ∈ lists, ns <+: l := by
  induction lists generalizing start with
  | nil => simp
  | cons l ls ih =>
      rw [List.foldl_cons, ih, prefix_commonLead_iff, List.forall_mem_cons]
      exact and_assoc

/-- The names of the common directory are those with which the directories of all files begin. -/
theorem prefix_commonDirectory_iff (ws : Workspace) {files : List Path} (hfiles : files ≠ [])
    {ns : List Text} :
    ns <+: (commonDirectory ws files).names ↔ ∀ file ∈ files, ns <+: file.parent.names := by
  cases files with
  | nil => exact absurd rfl hfiles
  | cons first rest =>
      rw [List.forall_mem_cons, ← List.forall_mem_map (P := fun names => ns <+: names)]
      exact prefix_foldl_commonLead_iff

theorem anchor_commonDirectory (ws : Workspace) (files : List Path) :
    (commonDirectory ws files).anchor = .root := by
  cases files <;> rfl

/-- The common directory leads to every file. -/
theorem commonDirectory_leads (ws : Workspace) {files : List Path} {file : Path}
    (h : file ∈ files) : (commonDirectory ws files).names <+: file.names := by
  have hparent := (prefix_commonDirectory_iff ws (List.ne_nil_of_mem h)).mp (List.prefix_refl _) file h
  exact hparent.trans (List.dropLast_prefix _)

end Collection

/-! ## Paths in the document -/

namespace Describer

theorem shownPath_below {d : Describer} {file : Path} (hanchor : d.root.anchor = file.anchor)
    (h : d.root.names <+: file.names) :
    d.shownPath file = Path.text ⟨.relative, file.names.drop d.root.names.length⟩ := by
  have hlead : d.root.names.isPrefixOf file.names = true := List.isPrefixOf_iff_prefix.mpr h
  rw [shownPath, Path.relativeTo?, hanchor, hlead]
  simp

/-- A path that begins elsewhere than the root is shown as it is. -/
theorem shownPath_of_anchor_ne {d : Describer} {file : Path} (h : file.anchor ≠ d.root.anchor) :
    d.shownPath file = file.text := by
  rw [shownPath, Path.relativeTo?, if_neg (by simp [h])]
  rfl

/-- Different files have different paths in the document, if the root leads to all that begin with
it. -/
theorem eq_of_shownPath_eq {d : Describer} {file other : Path} (hfile : IsRealFile file)
    (hother : IsRealFile other) (hbelow : d.root.names <+: file.names)
    (hbelow' : d.root.names <+: other.names) (h : d.shownPath file = d.shownPath other) :
    file = other := by
  have hdrop : ∀ {p : Path}, IsRealFile p →
      ∀ n ∈ (⟨.relative, p.names.drop d.root.names.length⟩ : Path).names, IsProperName n :=
    fun hp n hn => hp.2 n (List.mem_of_mem_drop hn)
  by_cases hanchor : d.root.anchor = file.anchor
  · rw [shownPath_below hanchor hbelow] at h
    by_cases hanchor' : d.root.anchor = other.anchor
    · rw [shownPath_below hanchor' hbelow'] at h
      have hsame := congrArg Path.names (Path.text_injective (hdrop hfile) (hdrop hother) h)
      dsimp only at hsame
      have hnames : file.names = other.names := by
        calc file.names = d.root.names ++ file.names.drop d.root.names.length :=
              (List.prefix_iff_eq_append.mp hbelow).symm
          _ = d.root.names ++ other.names.drop d.root.names.length := by rw [hsame]
          _ = other.names := List.prefix_iff_eq_append.mp hbelow'
      obtain ⟨anchor, names⟩ := file
      obtain ⟨anchor', names'⟩ := other
      exact congrArg₂ Path.mk (hanchor.symm.trans hanchor') hnames
    · rw [shownPath_of_anchor_ne (Ne.symm hanchor')] at h
      exact absurd (congrArg Path.anchor (Path.text_injective (hdrop hfile) hother.2 h)).symm hother.1
  · rw [shownPath_of_anchor_ne (Ne.symm hanchor)] at h
    by_cases hanchor' : d.root.anchor = other.anchor
    · rw [shownPath_below hanchor' hbelow'] at h
      exact absurd (congrArg Path.anchor (Path.text_injective hfile.2 (hdrop hother) h)) hfile.1
    · rw [shownPath_of_anchor_ne (Ne.symm hanchor')] at h
      exact Path.text_injective hfile.2 hother.2 h

/-- The paths that a document gives to collected files differ. -/
theorem nodup_shownPath {d : Describer} {s : Selection} {ws : Workspace} {files : List Path}
    (hdirectory : FileSystem.Segments ws.workingDirectory)
    (hcollect : (s.collect ws).outcome = .ok files)
    (hroot : d.root = Collection.commonDirectory ws files) : (files.map d.shownPath).Nodup := by
  obtain ⟨hnodup, hreal⟩ := Selection.collect_eq_ok hdirectory hcollect
  rw [List.Nodup, List.pairwise_map]
  refine List.Pairwise.imp_of_mem (fun hfile hother hne heq => hne ?_) hnodup
  have hbelow := Collection.commonDirectory_leads ws hfile
  have hbelow' := Collection.commonDirectory_leads ws hother
  rw [← hroot] at hbelow hbelow'
  exact eq_of_shownPath_eq (hreal _ hfile) (hreal _ hother) hbelow hbelow' heq

end Describer

end SourceAtlas
