import SourceAtlas.Proofs.FileSystem.Settling
import SourceAtlas.Proofs.Relisting
import SourceAtlas.Proofs.Selected

/-!
# Selections put together

Two selections by the same rules, put together, come to the files of both.  Each file is its own real
path, unless it comes from a path that leads nowhere and whose search broke off at a circle of links.
-/

namespace SourceAtlas

open Text Workspace

/-- A file that can be read is its own real path. -/
theorem Workspace.HoldsFile.realFile {ws : Workspace} {file : Path} (h : ws.HoldsFile file)
    (hsound : ws.Sound) : ws.realFile file = .ok file := by
  obtain ⟨hfile, -⟩ := h
  have hreach := hsound.reaches_text hfile (by simp)
  exact hsound.realFile_of_realPath (hsound.realPath_of_reaches hreach) hfile (by simp)

namespace Selection

variable {s : Selection} {ws : Workspace} {p file : Path}

/-- The real path of a selected path begins at the root and is its own, unless the path strays and its
search breaks off. -/
theorem Selects.realFile_or (hsound : ws.Sound) (h : s.Selects ws p)
    (hreal : ws.realFile p = .ok file) :
    (file.anchor = .root ∧ ws.realFile file = .ok file) ∨ s.Strays ws p ∧ ws.BreaksOff p.text := by
  have hheld : ws.HoldsFile file → file.anchor = .root ∧ ws.realFile file = .ok file :=
    fun hholds => ⟨by cases hholds; rfl, hholds.realFile hsound⟩
  cases h with
  | picked _ hpicks => exact .inl (hheld (hpicks.holdsFile hsound hreal))
  | gathered hdirectory hgathers =>
      obtain hholds | ⟨hfollow, hnowhere⟩ := hgathers.holdsFile_or hsound hreal
      · exact .inl (hheld hholds)
      · obtain ⟨real, hplace⟩ : ∃ real, ws.realPath p.text = .ok real := by
          rw [Workspace.realFile] at hreal
          split at hreal
          · cases hreal
          · next real hplace => exact ⟨real, hplace⟩
        obtain hbroken | ⟨l, rfl, hsettled⟩ := hsound.settled_realPath hplace
        · exact .inr ⟨⟨hfollow, ⟨_, hdirectory, hgathers⟩, hnowhere⟩, hbroken⟩
        · obtain ⟨rfl, hself⟩ := realFile_of_settled hplace hsettled hreal
          exact .inl ⟨rfl, hself⟩

/-- The files of two selections by the same rules, put together, are those of both, in strictly
ascending order.  So it does not matter in which order the entries of a selection are given and how
often, or in which order the file system lists its entries.  Every file is absolute, and its own real
path unless it comes from a path that strays and whose search breaks off at a circle of links. -/
theorem united_files_are_those_of_both {ws : Workspace} (hsound : ws.Sound) (s : Selection)
    {patterns patterns' directories directories' : List Text} {xs ys : List Path} (c : Collection)
    (hxs : ((c.configure { s with files := patterns, directories := directories }).files
      ws).2.outcome = .ok xs)
    (hys : ((c.configure { s with files := patterns', directories := directories' }).files
      ws).2.outcome = .ok ys) :
    (∃ zs, ((c.configure
        { s with files := patterns ++ patterns', directories := directories ++ directories' }).files
          ws).2.outcome = .ok zs ∧
      Path.Ascending zs ∧ ∀ file, file ∈ zs ↔ file ∈ xs ∨ file ∈ ys) ∧
    (∀ ps ds, (∀ t, t ∈ ps ↔ t ∈ patterns) → (∀ t, t ∈ ds ↔ t ∈ directories) →
      ((c.configure { s with files := ps, directories := ds }).files ws).2.outcome = .ok xs) ∧
    (∀ ws', ws.Relists ws' →
      ((c.configure { s with files := patterns, directories := directories }).files
        ws').2.outcome = .ok xs) ∧
    Path.Ascending xs ∧
    ∀ file ∈ xs, file.anchor ≠ .relative ∧ (ws.realFile file = .ok file ∨
      ∃ p, Strays { s with files := patterns, directories := directories } ws p ∧
        ws.BreaksOff p.text ∧ ws.realFile p = .ok file) := by
  simp only [files_configure] at hxs hys ⊢
  obtain ⟨hsearch, hascending, hmem⟩ := (collect_eq_ok_iff hsound.segments).mp hxs
  obtain ⟨hsearch', -, hmem'⟩ := (collect_eq_ok_iff hsound.segments).mp hys
  refine ⟨?_, fun ps ds hps hds => ?_, fun ws' h => collect_of_relists hsound h hxs, hascending,
    fun file hfile => ⟨((collect_eq_ok hsound.segments hxs).2 file hfile).1, ?_⟩⟩
  · obtain ⟨zs, hzs⟩ := exists_collect_of_canSearch (canSearch_append_iff.mpr ⟨hsearch, hsearch'⟩)
    obtain ⟨-, hascending, hunited⟩ := (collect_eq_ok_iff hsound.segments).mp hzs
    refine ⟨zs, hzs, hascending, fun file => ?_⟩
    rw [hunited, finds_append_iff, hmem, hmem']
  · rw [collect_eq_ok_iff hsound.segments, canSearch_congr hps hds]
    exact ⟨hsearch, hascending, fun file => (hmem file).trans (finds_congr hps hds).symm⟩
  · obtain ⟨p, hselects, hreal⟩ := (lists_collect hxs).2.only file hfile
    exact (hselects.realFile_or hsound hreal).imp And.right
      fun ⟨hstrays, hbroken⟩ => ⟨p, hstrays, hbroken, hreal⟩

/-- A working directory with a file in a directory, a link to that, a link to itself, and another
directory with a link that leads nowhere. -/
def straying : Workspace :=
  { files := ⟨[(["w".toList], .directory), (["w".toList, "d".toList], .directory),
      (["w".toList, "d".toList, "a.php".toList], .file [63]),
      (["w".toList, "link".toList], .link "d".toList),
      (["w".toList, "loop".toList], .link "loop".toList),
      (["w".toList, "src".toList], .directory),
      (["w".toList, "src".toList, "x.php".toList], .link "../loop/../link/a.php".toList)]⟩
    workingDirectory := ["w".toList]
    homes := [] }

theorem sound_straying : straying.Sound :=
  ⟨FileSystem.sound_of_stands (by decide), rfl⟩

/-- A file that is given, and found in its directory too, is collected once, whatever the order in
which the entries are listed. -/
theorem file_given_twice_is_collected_once :
    straying.Sound ∧
      ((({} : Collection).configure
        { files := ["link/a.php".toList], directories := ["d".toList] }).files straying).2.outcome =
          .ok [.ofText "/w/d/a.php".toList] ∧
      ((({} : Collection).configure { files := ["link/a.php".toList] }).files
        { straying with files := ⟨straying.files.entries.reverse⟩ }).2.outcome =
          .ok [.ofText "/w/d/a.php".toList] := by
  have hpattern : ((({} : Collection).configure { files := ["link/a.php".toList] }).files
      straying).2.outcome = .ok [.ofText "/w/d/a.php".toList] := by decide +kernel
  have hdirectory : ((({} : Collection).configure { directories := ["d".toList] }).files
      straying).2.outcome = .ok [.ofText "/w/d/a.php".toList] := by decide +kernel
  obtain ⟨⟨zs, hzs, hascending, hmem⟩, -, hrelisted, hascending', -⟩ :=
    united_files_are_those_of_both sound_straying {} {} hpattern hdirectory
  refine ⟨sound_straying, ?_, hrelisted _ ⟨(List.reverse_perm _).symm, by decide, rfl, rfl⟩⟩
  obtain rfl := hascending.eq_of_mem_iff hascending' fun file => (hmem file).trans or_self_iff
  exact hzs

/-- Behind a circle of links, a path that leads nowhere is collected as one that is not its own real
path, beside the file that is. -/
theorem stray_is_not_its_real_path :
    ((({} : Collection).configure { directories := ["src".toList] }).files straying).2.outcome =
        .ok [.ofText "/w/link/a.php".toList] ∧
      straying.realFile (.ofText "/w/link/a.php".toList) = .ok (.ofText "/w/d/a.php".toList) ∧
      ((({} : Collection).configure { directories := ["d".toList] }).files straying).2.outcome =
        .ok [.ofText "/w/d/a.php".toList] := by
  decide +kernel

end Selection

end SourceAtlas
