import SourceAtlas.Proofs.Descending

/-!
# What the selected paths hold

A pattern picks files only.  A walk asks less: it gathers what a directory does not tell to be one, so
a file, and if it follows links also a link that leads nowhere.  Whatever else is collected is a file
that can be read.
-/

namespace SourceAtlas

open Text Workspace

/-! ## Files that can be read -/

/-- The path of a file as it stands: it can be read, unless it is too long. -/
inductive Workspace.HoldsFile (ws : Workspace) : Path → Prop
  | intro {l : Location} {content : Bytes} (hfile : ws.files.get? l = some (.file content))
      (hread : ws.read l.text = .ok content ∨ ws.read l.text = .error ⟨.nameTooLong, l.text⟩) :
      HoldsFile ws l.path

namespace Workspace.Sound

variable {ws : Workspace} (h : ws.Sound)
include h

theorem holdsFile {l : Location} {content : Bytes} (hfile : ws.files.get? l = some (.file content)) :
    ws.HoldsFile l.path := by
  refine .intro hfile ?_
  rw [read, stat]
  obtain hfound | hlong := h.entryAt_text true hfile (by simp)
  · rw [hfound]
    exact .inl rfl
  · rw [hlong]
    exact .inr rfl

/-- The real path of what reaches a file is that of the file. -/
theorem holdsFile_of_reaches {p file : Path} {l : Location} {content : Bytes}
    (hreach : ws.Reaches p.text l) (hfile : ws.files.get? l = some (.file content))
    (hreal : ws.realFile p = .ok file) : ws.HoldsFile file := by
  have hplace := h.realFile_of_realPath (h.realPath_of_reaches hreach) hfile (by simp)
  obtain rfl := Except.ok.inj (hplace.symm.trans hreal)
  exact h.holdsFile hfile

theorem holdsFile_of_stat {p file : Path} {content : Bytes}
    (hstat : ws.stat p.text = .ok (.file content)) (hreal : ws.realFile p = .ok file) :
    ws.HoldsFile file := by
  obtain ⟨l, hreach, hfile⟩ := h.reaches_of_stat hstat
  exact h.holdsFile_of_reaches hreach hfile hreal

/-- A path that leads to no directory leads to a file or nowhere. -/
theorem holdsFile_or {p file : Path} (hnot : ws.isDirectory p.text = false)
    (hreal : ws.realFile p = .ok file) : ws.HoldsFile file ∨ ws.leadsSomewhere p.text = false := by
  cases hstat : ws.stat p.text with
  | error r =>
      right
      rw [leadsSomewhere, hstat]
      rfl
  | ok e =>
      cases e with
      | directory => exact absurd (isDirectory_iff.mpr hstat) (by simp [hnot])
      | file content => exact .inl (h.holdsFile_of_stat hstat hreal)
      | link target =>
          obtain ⟨⟨l, e⟩, hentry, rfl⟩ := map_eq_ok.mp hstat
          exact absurd rfl (ne_link_of_entryAt hentry target)

end Workspace.Sound

namespace Selection

variable {s : Selection} {ws : Workspace} {root : Path}

/-! ## Patterns -/

theorem Picks.holdsFile (hsound : ws.Sound) {pattern : Text} {p file : Path}
    (h : s.Picks ws pattern p) (hreal : ws.realFile p = .ok file) : ws.HoldsFile file := by
  obtain ⟨content, hstat⟩ := isKind_isFile_iff.mp h.file
  exact hsound.holdsFile_of_stat hstat hreal

/-! ## Walks -/

/-- What a walk gathers is a file, or it follows links and gathers one that leads nowhere. -/
theorem Gathers.holdsFile_or (hsound : ws.Sound) {directory : Text} {p file : Path}
    (h : s.Gathers ws directory p) (hreal : ws.realFile p = .ok file) :
    ws.HoldsFile file ∨ s.followLinks = true ∧ ws.leadsSomewhere p.text = false := by
  obtain ⟨hroot, -, hwalk, hcollects⟩ := h
  have hnames := isProperName_of_expandHomePath?_ofText hroot
  obtain ⟨k, -, d, hdescends, hupon⟩ := (mem_walk_iff_descends hsound).mp hwalk
  have hd := hdescends.isProperName hnames
  obtain @⟨l, n, e, hentry, hn, he, hnot⟩ := hupon
  have hreach := hsound.reaches_of_entryAt (by simp) hentry
  rw [namesDirectory, he] at hnot
  cases e with
  | directory => cases hnot
  | file content =>
      have hchild := Path.isProperName_child hd hn.toIsProperName
      refine .inl (hsound.holdsFile_of_reaches (hreach.child hn he (by simp) ?_ ?_) he hreal)
      · rw [Path.startOf_text hchild, Path.startOf_text hd]
        rfl
      · rw [Path.namesOf_text hchild, Path.namesOf_text hd]
        rfl
  | link target =>
      cases hfollow : s.followLinks with
      | true => exact (hsound.holdsFile_or hnot hreal).imp_right fun hnowhere => ⟨rfl, hnowhere⟩
      | false =>
          -- the directory tells of a link, so the path that was asked for denotes it
          have hasked := denotesLink_of_collects hfollow hcollects
          rw [denotesLink, linkStat] at hasked
          obtain hfound | hlong := hsound.entryAt_child false hd hreach hn he (by simp)
          · rw [hfound] at hasked
            cases hasked
          · rw [hlong] at hasked
            cases hasked

end Selection

/-! ## The collected files -/

/-- A walk that follows links gathers a path that leads nowhere. -/
structure Selection.Strays (s : Selection) (ws : Workspace) (p : Path) : Prop where
  follows : s.followLinks = true
  gathered : ∃ directory ∈ s.directories, s.Gathers ws directory p
  nowhere : ws.leadsSomewhere p.text = false

/-- Every file of a collection is a file that can be read unless its path is too long, or the real path
of a path that leads nowhere and was gathered by a walk that follows links.  Every such path gives a
file of the collection; where links are not followed, there are none. -/
theorem collected_files_can_be_read_or_stray {s : Selection} {ws : Workspace} {files : List Path}
    (hsound : ws.Sound) (c : Collection)
    (hfiles : ((c.configure s).files ws).2.outcome = .ok files) :
    (∀ file ∈ files, ws.HoldsFile file ∨ ∃ p, s.Strays ws p ∧ ws.realFile p = .ok file) ∧
      (∀ p, s.Strays ws p → ∃ file ∈ files, ws.realFile p = .ok file) ∧
      (s.followLinks = false → ∀ file ∈ files, ws.HoldsFile file) := by
  rw [files_configure] at hfiles
  obtain ⟨-, hlists⟩ := Selection.lists_collect hfiles
  have hholds : ∀ file ∈ files,
      ws.HoldsFile file ∨ ∃ p, s.Strays ws p ∧ ws.realFile p = .ok file := by
    intro file hfile
    obtain ⟨p, hselects, hreal⟩ := hlists.only file hfile
    cases hselects with
    | picked _ hpicks => exact .inl (hpicks.holdsFile hsound hreal)
    | gathered hdirectory hgathers =>
        refine (hgathers.holdsFile_or hsound hreal).imp_right fun ⟨hfollow, hnowhere⟩ => ?_
        exact ⟨p, ⟨hfollow, ⟨_, hdirectory, hgathers⟩, hnowhere⟩, hreal⟩
  refine ⟨hholds, fun p hstrays => ?_, fun hfollow file hfile => ?_⟩
  · obtain ⟨directory, hdirectory, hgathers⟩ := hstrays.gathered
    exact hlists.all p (.gathered hdirectory hgathers)
  · refine (hholds file hfile).resolve_right fun ⟨_, hstrays, _⟩ => ?_
    exact absurd (hfollow.symm.trans hstrays.follows) (by simp)

/-- A working directory with a file, and a directory in it with a link that leads nowhere. -/
def dangling : Workspace :=
  { files := ⟨[(["w".toList], .directory), (["w".toList, "a.php".toList], .file [63]),
      (["w".toList, "src".toList], .directory),
      (["w".toList, "src".toList, "b.php".toList], .link "nowhere".toList)]⟩
    workingDirectory := ["w".toList]
    homes := [] }

theorem sound_dangling : dangling.Sound :=
  ⟨FileSystem.sound_of_stands (by decide), rfl⟩

/-- Where links are not followed, the file alone is collected, and can be read. -/
theorem file_beside_dangling_link_can_be_read :
    dangling.Sound ∧ ∃ files,
      ((({} : Collection).configure { directories := ["/w".toList], followLinks := false }).files
        dangling).2.outcome = .ok files ∧ files = [.ofText "/w/a.php".toList] ∧
      ∀ file ∈ files, dangling.HoldsFile file := by
  have hfiles : ((({} : Collection).configure
      { directories := ["/w".toList], followLinks := false }).files dangling).2.outcome =
        .ok [.ofText "/w/a.php".toList] := by decide +kernel
  exact ⟨sound_dangling, _, hfiles, rfl,
    (collected_files_can_be_read_or_stray sound_dangling {} hfiles).2.2 rfl⟩

/-- Where links are followed, what a link does not lead to is collected too. -/
theorem dangling_link_is_collected :
    ((({} : Collection).configure { directories := ["src".toList] }).files dangling).2.outcome =
        .ok [.ofText "/w/src/nowhere".toList] ∧
      dangling.files.get? ["w".toList, "src".toList, "nowhere".toList] = none ∧
      dangling.read "/w/src/nowhere".toList = .error ⟨.missing, "/w/src/nowhere".toList⟩ := by
  decide +kernel

end SourceAtlas
