import SourceAtlas.Proofs.Uniting

/-!
# The directory of all files

The root of a collection lies above the directories of all its files, and below every other one that does.
A document gives its files by what is left of their paths below the root, which with the root gives them
back.  This fails of files whose paths begin with two slashes, as a path that leads nowhere can have one.
-/

namespace SourceAtlas

open Text Workspace Collection

/-! ## Directories above paths -/

namespace Path

/-- A path leads to another one: it is that one or lies above it. -/
structure LeadsTo (d p : Path) : Prop where
  anchor : d.anchor = p.anchor
  names : d.names <+: p.names

/-- A directory leads to those of all files, and all that do so lead to it. -/
structure IsDeepest (root : Path) (files : List Path) : Prop where
  leads : ∀ file ∈ files, root.LeadsTo file.parent
  deepest : ∀ d : Path, (∀ file ∈ files, d.LeadsTo file.parent) → d.LeadsTo root

end Path

/-- The common directory of some files is the deepest one exactly if all of them begin at the root. -/
theorem Collection.isDeepest_commonDirectory_iff (ws : Workspace) {files : List Path}
    (hfiles : files ≠ []) :
    (commonDirectory ws files).IsDeepest files ↔ ∀ file ∈ files, file.anchor = .root := by
  constructor
  · intro h file hfile
    rw [← anchor_commonDirectory ws files]
    exact (h.leads file hfile).anchor.symm
  · intro hroot
    refine ⟨fun file hfile => ⟨?_, ?_⟩, fun d hd => ⟨?_, ?_⟩⟩
    · rw [anchor_commonDirectory]
      exact (hroot file hfile).symm
    · exact (prefix_commonDirectory_iff ws hfiles).mp (List.prefix_refl _) file hfile
    · obtain ⟨file, hfile⟩ := List.exists_mem_of_ne_nil files hfiles
      rw [anchor_commonDirectory]
      exact (hd file hfile).anchor.trans (hroot file hfile)
    · exact (prefix_commonDirectory_iff ws hfiles).mpr fun file hfile => (hd file hfile).names

/-! ## Paths below the root -/

namespace Describer

variable {d : Describer} {file : Path} (hfile : IsRealFile file) (hbelow : d.root.names <+: file.names)
include hfile hbelow

/-- What a document gives for a file is relative if the file begins where the root does. -/
theorem anchor_shownPath_iff :
    Anchor.ofText (d.shownPath file) = .relative ↔ file.anchor = d.root.anchor := by
  constructor
  · intro hrelative
    by_contra hne
    rw [shownPath_of_anchor_ne hne, Path.anchor_ofText_text hfile.2] at hrelative
    exact hfile.1 hrelative
  · intro hanchor
    rw [shownPath_below hanchor.symm hbelow]
    exact Path.anchor_ofText_text fun n hn => hfile.2 n (List.mem_of_mem_drop hn)

/-- Below the root, what a document gives for a file is the file. -/
theorem append_shownPath : d.root.append (.ofText (d.shownPath file)) = file := by
  by_cases hanchor : file.anchor = d.root.anchor
  · have hnames : ∀ n ∈ (⟨.relative, file.names.drop d.root.names.length⟩ : Path).names,
        IsProperName n := fun n hn => hfile.2 n (List.mem_of_mem_drop hn)
    rw [shownPath_below hanchor.symm hbelow, Path.ofText_text hnames]
    change Path.mk d.root.anchor (d.root.names ++ file.names.drop d.root.names.length) = file
    rw [List.prefix_iff_eq_append.mp hbelow, ← hanchor]
  · rw [shownPath_of_anchor_ne hanchor, Path.ofText_text hfile.2, Path.append]
    split
    · next hrelative => exact absurd hrelative hfile.1
    · rfl

end Describer

/-! ## The root of a collection -/

/-- Whenever a selection comes to any files, the names of its root are all those with which the directories
of the files begin, and the document gives the files different paths that lead from the root to them.  The
root is the deepest directory of the files, and these paths are relative, as far as the files begin at the
root.  All do, except real paths of paths that stray and whose search breaks off at a circle of links. -/
theorem root_is_deepest_common_directory {ws : Workspace} (hsound : ws.Sound) {s : Selection}
    {files : List Path} (c : Collection)
    (hfiles : ((c.configure s).files ws).2.outcome = .ok files) (hne : files ≠ []) :
    ∃ root, ((c.configure s).root ws).2.2 = .ok root ∧
      (∀ names, names <+: root.names ↔ ∀ file ∈ files, names <+: file.parent.names) ∧
      (root.IsDeepest files ↔ ∀ file ∈ files, file.anchor = .root) ∧
      (∀ d : Describer, d.root = root →
        (files.map d.shownPath).Nodup ∧ ∀ file ∈ files,
          root.append (.ofText (d.shownPath file)) = file ∧
            (Anchor.ofText (d.shownPath file) = .relative ↔ file.anchor = .root)) ∧
      ∀ file ∈ files, file.anchor = .root ∨
        ∃ p, s.Strays ws p ∧ ws.BreaksOff p.text ∧ ws.realFile p = .ok file := by
  have hcollect : (s.collect ws).outcome = .ok files := by
    rw [files_configure] at hfiles
    exact hfiles
  have hroot : ((c.configure s).root ws).2.2 = .ok (commonDirectory ws files) :=
    congrArg (Except.map (commonDirectory ws)) hfiles
  obtain ⟨-, hreal⟩ := Selection.collect_eq_ok hsound.segments hcollect
  refine ⟨_, hroot, fun names => prefix_commonDirectory_iff ws hne,
    isDeepest_commonDirectory_iff ws hne, fun d hd => ⟨?_, fun file hfile => ?_⟩,
    fun file hfile => ?_⟩
  · exact Describer.nodup_shownPath hsound.segments hcollect hd
  · have hbelow : d.root.names <+: file.names := by
      rw [hd]
      exact commonDirectory_leads ws hfile
    rw [← anchor_commonDirectory ws files, ← hd]
    exact ⟨Describer.append_shownPath (hreal file hfile) hbelow,
      Describer.anchor_shownPath_iff (hreal file hfile) hbelow⟩
  · obtain ⟨p, hselects, hplace⟩ := (Selection.lists_collect hcollect).2.only file hfile
    exact (hselects.realFile_or hsound hplace).imp And.left
      fun ⟨hstrays, hbroken⟩ => ⟨p, hstrays, hbroken, hplace⟩

/-- Two files in directories whose names begin alike. -/
def neighbours : Workspace :=
  { files := ⟨[(["w".toList], .directory), (["w".toList, "ab".toList], .directory),
      (["w".toList, "ab".toList, "x.php".toList], .file [63]),
      (["w".toList, "abc".toList], .directory),
      (["w".toList, "abc".toList, "y.php".toList], .file [63])]⟩
    workingDirectory := ["w".toList]
    homes := [] }

theorem sound_neighbours : neighbours.Sound :=
  ⟨FileSystem.sound_of_stands (by decide), rfl⟩

/-- The directory of both files is the one that holds both directories. -/
theorem neighbours_have_common_directory :
    ((({} : Collection).configure { files := ["ab/x.php".toList, "abc/y.php".toList] }).root
      neighbours).2.2 = .ok (.ofText "/w".toList) ∧
    (Path.ofText "/w".toList).IsDeepest
      [.ofText "/w/ab/x.php".toList, .ofText "/w/abc/y.php".toList] := by
  have hfiles : ((({} : Collection).configure
      { files := ["ab/x.php".toList, "abc/y.php".toList] }).files neighbours).2.outcome =
        .ok [.ofText "/w/ab/x.php".toList, .ofText "/w/abc/y.php".toList] := by
    rw [files_configure]
    exact Selection.outcome_collect_of_ascending (by decide +kernel) (by decide +kernel)
      (by decide +kernel)
  have hroot : ((({} : Collection).configure
      { files := ["ab/x.php".toList, "abc/y.php".toList] }).root neighbours).2.2 =
        .ok (.ofText "/w".toList) :=
    (congrArg (Except.map (commonDirectory neighbours)) hfiles).trans (by decide +kernel)
  obtain ⟨root, hroot', -, hdeepest, -⟩ :=
    root_is_deepest_common_directory sound_neighbours {} hfiles (by simp)
  obtain rfl := Except.ok.inj (hroot'.symm.trans hroot)
  exact ⟨hroot, hdeepest.mpr (by decide)⟩

/-- A link behind a circle of links, with two slashes after the circle. -/
def doubling : Workspace :=
  { files := ⟨[(["w".toList], .directory), (["w".toList, "loop".toList], .link "loop".toList),
      (["w".toList, "src".toList], .directory),
      (["w".toList, "src".toList, "x.php".toList], .link "../loop///w/d/a.php".toList)]⟩
    workingDirectory := ["w".toList]
    homes := [] }

theorem sound_doubling : doubling.Sound :=
  ⟨FileSystem.sound_of_stands (by decide), rfl⟩

/-- The root of a path with two slashes does not lead to it, and it is given as it is. -/
theorem path_with_two_slashes_is_not_below_root :
    doubling.Sound ∧
      ((({} : Collection).configure { directories := ["src".toList] }).files doubling).2.outcome =
        .ok [⟨.doubled, ["w".toList, "d".toList, "a.php".toList]⟩] ∧
      ((({} : Collection).configure { directories := ["src".toList] }).root doubling).2.2 =
        .ok (.ofText "/w/d".toList) ∧
      ¬ (Path.ofText "/w/d".toList).IsDeepest
        [⟨.doubled, ["w".toList, "d".toList, "a.php".toList]⟩] ∧
      Describer.shownPath { root := .ofText "/w/d".toList }
        ⟨.doubled, ["w".toList, "d".toList, "a.php".toList]⟩ = "//w/d/a.php".toList := by
  refine ⟨sound_doubling, by decide +kernel, by decide +kernel, fun h => ?_, by decide +kernel⟩
  exact absurd (h.leads _ List.mem_cons_self).anchor (by decide)

end SourceAtlas
