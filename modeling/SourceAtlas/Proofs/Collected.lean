import SourceAtlas.Proofs.Ordering

/-!
# What a collection comes to

A collection succeeds if every entry of its selection can be looked for.  Its files are then those that
the entries give, in strictly ascending order: so they depend neither on the order of the entries nor on
how often one is given.
-/

namespace SourceAtlas

open Text

/-! ## Strictly ascending paths -/

theorem lt_of_lexLe {α : Type} [DecidableEq α] [LT α] {r : α → α → Bool}
    (hr : ∀ {a b}, r a b = true → a ≠ b → a < b) {as bs : List α} (h : lexLe r as bs = true)
    (hne : as ≠ bs) : as < bs := by
  induction as generalizing bs with
  | nil =>
      obtain ⟨b, bs, rfl⟩ := List.exists_cons_of_ne_nil (Ne.symm hne)
      exact List.nil_lt_cons b bs
  | cons a as ih =>
      cases bs with
      | nil => cases h
      | cons b bs =>
          rw [List.cons_lt_cons_iff]
          obtain ⟨rfl, hrest⟩ | ⟨hab, hle⟩ := lexLe_cons_iff.mp h
          · exact .inr ⟨rfl, ih hrest fun heq => hne (congrArg _ heq)⟩
          · exact .inl (hr hle hab)

theorem Text.lt_of_le {s t : Text} (h : le s t = true) (hne : s ≠ t) : s < t := by
  rw [le_eq] at h
  refine lt_of_lexLe (fun {c d} hle hcd => ?_) h hne
  have hnat : c.toNat ≠ d.toNat := fun heq => hcd (Char.toNat_inj.mp heq)
  exact Nat.lt_of_le_of_ne (Nat.ble_eq.mp hle) hnat

namespace Path

/-- Paths in strictly ascending order of their names, the anchor first. -/
def Ascending (paths : List Path) : Prop := paths.Pairwise fun p q => p.key < q.key

theorem Ascending.nodup {paths : List Path} (h : Ascending paths) : paths.Nodup := by
  refine h.imp fun hlt heq => ?_
  rw [heq] at hlt
  exact List.lt_irrefl _ hlt

/-- Ascending paths are told by which they are. -/
theorem Ascending.eq_of_mem_iff {paths paths' : List Path} (h : Ascending paths)
    (h' : Ascending paths') (hmem : ∀ p, p ∈ paths ↔ p ∈ paths') : paths = paths' := by
  have hperm : paths.Perm paths' :=
    (List.perm_ext_iff_of_nodup h.nodup h'.nodup).mpr hmem
  exact hperm.eq_of_pairwise (fun _ _ _ _ hlt hgt => absurd hgt (List.lt_asymm hlt)) h h'

/-- Real files are put in strictly ascending order, each once. -/
theorem ascending_mergeSort {files : List Path}
    (hreal : ∀ file ∈ files.eraseDups.mergeSort Path.le, IsRealFile file) :
    Ascending (files.eraseDups.mergeSort Path.le) := by
  have hnodup : (files.eraseDups.mergeSort Path.le).Nodup :=
    (List.mergeSort_perm _ _).nodup_iff.mpr (nodup_eraseDups _)
  refine ((pairwise_mergeSort_le _).and hnodup).imp_of_mem fun {p q} hp hq ⟨hle, hne⟩ => ?_
  have hkey : lexLe Text.le p.key q.key = true := by
    rw [← listLe_eq]
    exact hle
  exact lt_of_lexLe Text.lt_of_le hkey fun heq =>
    hne (key_injective (hreal p hp).1 (hreal q hq).1 heq)

end Path

/-! ## The files that are found -/

namespace Selection

variable {s : Selection} {ws : Workspace} {file : Path} {files : List Path}

/-- Every entry of a selection can be looked for. -/
structure CanSearch (s : Selection) (ws : Workspace) : Prop where
  patterns : ∀ pattern ∈ s.files, ∃ found, s.filesOfPattern ws pattern = .ok found
  directories : ∀ directory ∈ s.directories, ∃ found,
    (s.filesOfDirectory ws directory).outcome = .ok found

/-- An entry of a selection gives a file. -/
inductive Finds (s : Selection) (ws : Workspace) (file : Path) : Prop
  | picked {pattern : Text} {found : List Path} (hpattern : pattern ∈ s.files)
      (h : s.filesOfPattern ws pattern = .ok found) (hfile : file ∈ found) : Finds s ws file
  | walked {directory : Text} {found : List Path} (hdirectory : directory ∈ s.directories)
      (h : (s.filesOfDirectory ws directory).outcome = .ok found) (hfile : file ∈ found) :
      Finds s ws file

theorem finds_iff : s.Finds ws file ↔
    (∃ pattern ∈ s.files, ∃ found, s.filesOfPattern ws pattern = .ok found ∧ file ∈ found) ∨
      ∃ directory ∈ s.directories, ∃ found,
        (s.filesOfDirectory ws directory).outcome = .ok found ∧ file ∈ found := by
  constructor
  · rintro (⟨hpattern, h, hfile⟩ | ⟨hdirectory, h, hfile⟩)
    · exact .inl ⟨_, hpattern, _, h, hfile⟩
    · exact .inr ⟨_, hdirectory, _, h, hfile⟩
  · rintro (⟨_, hpattern, _, h, hfile⟩ | ⟨_, hdirectory, _, h, hfile⟩)
    · exact .picked hpattern h hfile
    · exact .walked hdirectory h hfile

theorem exists_collect_of_canSearch (h : s.CanSearch ws) :
    ∃ files, (s.collect ws).outcome = .ok files := by
  obtain ⟨picked, hpicked⟩ := exists_concatM_iff.mpr h.patterns
  obtain ⟨walked, hwalked⟩ := exists_concatM_iff.mpr h.directories
  refine ⟨(picked ++ walked).eraseDups.mergeSort Path.le, ?_⟩
  rw [outcome_collect, hpicked, hwalked]
  rfl

/-- A collection comes to a list exactly if all entries can be looked for, and the list holds what they
give in strictly ascending order. -/
theorem collect_eq_ok_iff (hdirectory : FileSystem.Segments ws.workingDirectory) :
    (s.collect ws).outcome = .ok files ↔
      s.CanSearch ws ∧ Path.Ascending files ∧ ∀ file, file ∈ files ↔ s.Finds ws file := by
  -- whatever is collected is right, so a right list is the one that is collected
  have hright : ∀ {files}, (s.collect ws).outcome = .ok files →
      s.CanSearch ws ∧ Path.Ascending files ∧ ∀ file, file ∈ files ↔ s.Finds ws file := by
    intro files hfiles
    have hreal := (collect_eq_ok hdirectory hfiles).2
    rw [outcome_collect] at hfiles
    obtain ⟨all, hall, rfl⟩ := map_eq_ok.mp hfiles
    obtain ⟨picked, hpicked, hall⟩ := bind_eq_ok.mp hall
    obtain ⟨walked, hwalked, hall⟩ := bind_eq_ok.mp hall
    obtain rfl := pure_eq_ok.mp hall
    refine ⟨⟨exists_concatM_iff.mp ⟨picked, hpicked⟩, exists_concatM_iff.mp ⟨walked, hwalked⟩⟩,
      Path.ascending_mergeSort hreal, fun file => ?_⟩
    rw [List.mem_mergeSort, List.mem_eraseDups, List.mem_append, mem_concatM hpicked,
      mem_concatM hwalked, finds_iff]
  refine ⟨hright, fun ⟨hsearch, hascending, hmem⟩ => ?_⟩
  obtain ⟨files', hfiles⟩ := exists_collect_of_canSearch hsearch
  obtain ⟨-, hascending', hmem'⟩ := hright hfiles
  rw [hfiles, hascending'.eq_of_mem_iff hascending fun file => (hmem' file).trans (hmem file).symm]

/-! ## The rules of a selection -/

section Rules

variable (s : Selection) (ws : Workspace) (files directories : List Text)

/-- A walk depends on the rules of a selection, not on where it begins. -/
theorem walk_with (root : Path) (depth : Nat) :
    walk { s with files := files, directories := directories } ws root depth = s.walk ws root depth := by
  induction depth with
  | zero => rfl
  | succ depth ih =>
      funext directory
      rw [walk, walk, ih]
      rfl

theorem filesOfDirectory_with (directory : Text) :
    filesOfDirectory { s with files := files, directories := directories } ws directory =
      s.filesOfDirectory ws directory := by
  rw [filesOfDirectory, filesOfDirectory]
  simp only [walk_with]
  rfl

end Rules

/-! ## Putting selections together -/

section Entries

variable {patterns patterns' directories directories' : List Text}

theorem canSearch_with_iff :
    CanSearch { s with files := patterns, directories := directories } ws ↔
      (∀ pattern ∈ patterns, ∃ found, s.filesOfPattern ws pattern = .ok found) ∧
        ∀ directory ∈ directories, ∃ found,
          (s.filesOfDirectory ws directory).outcome = .ok found := by
  constructor
  · rintro ⟨hpatterns, hdirectories⟩
    simp only [filesOfDirectory_with] at hdirectories
    exact ⟨hpatterns, hdirectories⟩
  · rintro ⟨hpatterns, hdirectories⟩
    refine ⟨hpatterns, ?_⟩
    simp only [filesOfDirectory_with]
    exact hdirectories

theorem finds_with_iff :
    Finds { s with files := patterns, directories := directories } ws file ↔
      (∃ pattern ∈ patterns, ∃ found, s.filesOfPattern ws pattern = .ok found ∧ file ∈ found) ∨
        ∃ directory ∈ directories, ∃ found,
          (s.filesOfDirectory ws directory).outcome = .ok found ∧ file ∈ found := by
  rw [finds_iff]
  simp only [filesOfDirectory_with]
  exact .rfl

theorem canSearch_append_iff :
    CanSearch { s with files := patterns ++ patterns', directories := directories ++ directories' } ws ↔
      CanSearch { s with files := patterns, directories := directories } ws ∧
        CanSearch { s with files := patterns', directories := directories' } ws := by
  simp only [canSearch_with_iff, List.forall_mem_append]
  exact and_and_and_comm

theorem finds_append_iff :
    Finds { s with files := patterns ++ patterns', directories := directories ++ directories' } ws
        file ↔
      Finds { s with files := patterns, directories := directories } ws file ∨
        Finds { s with files := patterns', directories := directories' } ws file := by
  simp only [finds_with_iff, List.mem_append, or_and_right, exists_or]
  exact or_or_or_comm

variable (hpatterns : ∀ t, t ∈ patterns' ↔ t ∈ patterns)
  (hdirectories : ∀ t, t ∈ directories' ↔ t ∈ directories)
include hpatterns hdirectories

theorem canSearch_congr :
    CanSearch { s with files := patterns', directories := directories' } ws ↔
      CanSearch { s with files := patterns, directories := directories } ws := by
  simp only [canSearch_with_iff, hpatterns, hdirectories]

theorem finds_congr :
    Finds { s with files := patterns', directories := directories' } ws file ↔
      Finds { s with files := patterns, directories := directories } ws file := by
  simp only [finds_with_iff, hpatterns, hdirectories]

end Entries

end Selection

end SourceAtlas
