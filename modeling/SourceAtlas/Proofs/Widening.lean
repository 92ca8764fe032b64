import SourceAtlas.Proofs.Descending

/-!
# Wider selections

A selection may leave out less than another one: it ignores less, takes more kinds of files, shows what
is hidden, or follows links.  In every directory its walk then comes upon the same entries and enters no
fewer directories, so that it loses nothing on the way down.
-/

namespace SourceAtlas

open Text Workspace

namespace Selection

variable {s t : Selection} {ws : Workspace} {root directory p : Path}

/-- A selection narrows another one: it begins at the same entries, and leaves out whatever the other
one does. -/
structure Narrows (s t : Selection) : Prop where
  files : s.files = t.files
  directories : s.directories = t.directories
  ignored : ∀ pattern ∈ t.ignorePatterns, pattern ∈ s.ignorePatterns
  extensions : ∀ extension ∈ s.extensions, extension ∈ t.extensions
  hidden : s.includeHidden = true → t.includeHidden = true
  followed : s.followLinks = true → t.followLinks = true

/-- What a walk comes upon in a directory does not depend on the selection. -/
theorem visit_files_eq (s t : Selection) (ws : Workspace) (root directory : Path) :
    (s.visit ws root directory).1 = (t.visit ws root directory).1 := by
  rw [visit, visit]
  split <;> rfl

namespace Narrows

variable (h : s.Narrows t)
include h

/-! ## One path -/

theorem not_ignores (hkept : Glob.ignores s.ignorePatterns p root = false) :
    Glob.ignores t.ignorePatterns p root = false := by
  rw [Glob.ignores, List.any_eq_false] at hkept ⊢
  exact fun pattern hpattern => hkept pattern (h.ignored pattern hpattern)

theorem kinds_contains {kind : Text} (hkind : s.kinds.contains kind = true) :
    t.kinds.contains kind = true := by
  rw [List.contains_iff_mem] at hkind ⊢
  exact List.map_subset _ h.extensions hkind

theorem enters (henters : s.enters root directory = true) : t.enters root directory = true := by
  simp only [Selection.enters, Bool.and_eq_true, Bool.or_eq_true, Bool.not_eq_true'] at henters ⊢
  exact ⟨henters.1.imp_left h.hidden, h.not_ignores henters.2⟩

theorem collects (hcollects : s.collects ws root p = .ok true) : t.collects ws root p = .ok true := by
  obtain ⟨hlink, hkind, henters⟩ := collects_eq_true_iff.mp hcollects
  exact collects_eq_true_iff.mpr
    ⟨hlink.imp_left h.followed, h.kinds_contains hkind, h.enters henters⟩

/-! ## Walks -/

theorem mem_visit_directories (hp : p ∈ (s.visit ws root directory).2) :
    p ∈ (t.visit ws root directory).2 := by
  rw [visit] at hp ⊢
  split at hp
  · next l hentry =>
      obtain ⟨hmem, hlink⟩ := List.mem_filter.mp hp
      obtain ⟨hinner, henters⟩ := List.mem_filter.mp (List.mem_mergeSort.mp hmem)
      refine List.mem_filter.mpr ⟨?_, ?_⟩
      · exact List.mem_mergeSort.mpr (List.mem_filter.mpr ⟨hinner, h.enters henters⟩)
      · rw [Bool.or_eq_true] at hlink ⊢
        exact hlink.imp_left h.followed
  · cases hp

/-- A walk comes upon whatever the narrower one does, level by level. -/
theorem mem_walk {depth : Nat} (hp : p ∈ s.walk ws root depth directory) :
    p ∈ t.walk ws root depth directory := by
  induction depth generalizing directory with
  | zero =>
      rw [walk, visit_files_eq t s]
      exact hp
  | succ depth ih =>
      rw [walk] at hp ⊢
      dsimp only at hp ⊢
      obtain hp | hp := List.mem_append.mp hp
      · rw [visit_files_eq s t] at hp
        exact List.mem_append_left _ hp
      · obtain ⟨inner, hinner, hp⟩ := List.mem_flatMap.mp hp
        exact List.mem_append_right _
          (List.mem_flatMap.mpr ⟨inner, h.mem_visit_directories hinner, ih hp⟩)

/-! ## What is selected -/

theorem picks {pattern : Text} (hpicks : s.Picks ws pattern p) : t.Picks ws pattern p :=
  ⟨hpicks.found, hpicks.file, h.not_ignores hpicks.kept⟩

theorem gathers {start : Text} (hgathers : s.Gathers ws start p) : t.Gathers ws start p := by
  obtain ⟨hroot, hdirectory, hwalk, hcollects⟩ := hgathers
  exact ⟨hroot, hdirectory, h.mem_walk hwalk, h.collects hcollects⟩

theorem selects (hselects : s.Selects ws p) : t.Selects ws p := by
  cases hselects with
  | picked hpattern hpicks => exact .picked (h.files ▸ hpattern) (h.picks hpicks)
  | gathered hdirectory hgathers => exact .gathered (h.directories ▸ hdirectory) (h.gathers hgathers)

end Narrows

/-- A selection that leaves out less comes to no fewer files: every file of a narrower selection is one
of it, whenever both can be looked for. -/
theorem narrower_files_are_among_wider_ones {s t : Selection} (h : s.Narrows t) {ws : Workspace}
    {xs ys : List Path} (c c' : Collection)
    (hxs : ((c.configure s).files ws).2.outcome = .ok xs)
    (hys : ((c'.configure t).files ws).2.outcome = .ok ys) : ∀ file ∈ xs, file ∈ ys := by
  rw [files_configure] at hxs hys
  intro file hfile
  obtain ⟨p, hselects, hreal⟩ := (lists_collect hxs).2.only file hfile
  obtain ⟨file', hfile', hreal'⟩ := (lists_collect hys).2.all p (h.selects hselects)
  obtain rfl := Except.ok.inj (hreal.symm.trans hreal')
  exact hfile'

/-- A directory with a file, a hidden one, one of another kind, and a directory with one more file and a
link to a directory elsewhere. -/
def varied : Workspace :=
  { files := ⟨[(["w".toList], .directory), (["w".toList, "z".toList], .directory),
      (["w".toList, "z".toList, "f.php".toList], .file [63]),
      (["w".toList, "src".toList], .directory),
      (["w".toList, "src".toList, ".h.php".toList], .file [63]),
      (["w".toList, "src".toList, "a.php".toList], .file [63]),
      (["w".toList, "src".toList, "e.txt".toList], .file [63]),
      (["w".toList, "src".toList, "libs".toList], .directory),
      (["w".toList, "src".toList, "libs".toList, "b.php".toList], .file [63]),
      (["w".toList, "src".toList, "libs".toList, "link".toList], .link "../../z".toList)]⟩
    workingDirectory := ["w".toList]
    homes := [] }

/-- A selection that leaves out whatever one can. -/
def narrow : Selection :=
  { directories := ["src".toList], extensions := ["php".toList], ignorePatterns := ["libs".toList],
    followLinks := false }

/-- The same one, but wider in every way. -/
def wide : Selection :=
  { directories := ["src".toList], extensions := ["php".toList, "txt".toList], includeHidden := true }

/-- What the wider one comes to. -/
def variedFiles : List Path :=
  [.ofText "/w/src/.h.php".toList, .ofText "/w/src/a.php".toList, .ofText "/w/src/e.txt".toList,
    .ofText "/w/src/libs/b.php".toList, .ofText "/w/z/f.php".toList]

/-- The file that is collected alone is collected among others when more is asked for in every way. -/
theorem wider_selection_keeps_file : ∃ xs ys,
    ((({} : Collection).configure narrow).files varied).2.outcome = .ok xs ∧
      ((({} : Collection).configure wide).files varied).2.outcome = .ok ys ∧
      xs = [.ofText "/w/src/a.php".toList] ∧ ys = variedFiles ∧ ∀ file ∈ xs, file ∈ ys := by
  have hxs : ((({} : Collection).configure narrow).files varied).2.outcome =
      .ok [.ofText "/w/src/a.php".toList] := by decide +kernel
  have hys : ((({} : Collection).configure wide).files varied).2.outcome = .ok variedFiles := by
    rw [files_configure]
    exact outcome_collect_of_ascending (by decide +kernel) (by decide +kernel) (by decide +kernel)
  refine ⟨_, _, hxs, hys, rfl, rfl, narrower_files_are_among_wider_ones ?_ {} {} hxs hys⟩
  exact ⟨rfl, rfl, by simp [wide], by simp [narrow, wide], by simp [narrow], by simp [narrow]⟩

end Selection

end SourceAtlas
