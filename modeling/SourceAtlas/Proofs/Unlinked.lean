import SourceAtlas.Proofs.Walking

/-!
# Files that are selected without a link

A walk that does not follow links gathers regular files, and only directories lead to them from its root.
A pattern does not ask: it also picks a link that leads to a file.  So every file of a collection that
does not follow links is selected without one exactly if the same holds of the links that its patterns
pick.
-/

namespace SourceAtlas

open Text Workspace

namespace Selection

variable {s : Selection} {ws : Workspace} {directory : Text} {p : Path}

/-- A path is selected that does not denote a link. -/
structure SelectsUnlinked (s : Selection) (ws : Workspace) (p : Path) : Prop where
  selects : s.Selects ws p
  unlinked : ws.isLink p.text = false

/-- A file below a root: its names lead from there over directories that are no links. -/
inductive LiesBelow (ws : Workspace) (root : Path) : Path → Prop
  | intro {l : Location} {ns : List Text} {content : Bytes}
      (hleads : ws.entryAt true root.text = .ok (l, .directory))
      (hway : ∀ ms, ms <+: ns → ms ≠ ns → ws.files.get? (l ++ ms) = some .directory)
      (hfile : ws.files.get? (l ++ ns) = some (.file content)) : LiesBelow ws root (below root ns)

theorem Gathers.unlinked (hfollow : s.followLinks = false) (h : s.Gathers ws directory p) :
    ws.isLink p.text = false := by
  obtain ⟨-, -, -, hcollects⟩ := h
  have hasked := denotesLink_of_collects hfollow hcollects
  rw [isLink]
  split
  · next target hstat =>
      rw [denotesLink, hstat] at hasked
      cases hasked
  · rfl

/-- What a walk gathers that does not follow links is a file below its root. -/
theorem Gathers.exists_liesBelow (hsound : ws.Sound) (hfollow : s.followLinks = false)
    (h : s.Gathers ws directory p) :
    ∃ root, ws.expandHomePath? (.ofText directory) = some root ∧ LiesBelow ws root p := by
  obtain @⟨root, hroot, hdirectory, hwalk, hcollects⟩ := h
  refine ⟨root, hroot, ?_⟩
  have hnames := isProperName_of_expandHomePath?_ofText hroot
  have hisDirectory : ws.isDirectory root.text = true := by
    obtain ⟨e, hstat, he⟩ := kindFound_eq_ok_true.mp hdirectory
    cases e with
    | directory => exact isDirectory_iff.mpr hstat
    | file content => cases he
    | link target => cases he
  obtain ⟨⟨l, e⟩, hleads, rfl⟩ := map_eq_ok.mp (isDirectory_iff.mp hisDirectory)
  obtain ⟨ns, n, e, rfl, he, hnot, -⟩ :=
    (mem_whole_walk_iff hsound hnames hleads (.inl hfollow)).mp hwalk
  obtain ⟨content, rfl⟩ :=
    exists_file_of_collects hsound hnames hleads (.inl hfollow) he hnot hcollects
  refine .intro hleads ?_ he
  rintro ms ⟨rest, hrest⟩ hne
  rw [← hrest, ← List.append_assoc] at he
  refine hsound.files.ancestor he fun hnil => hne ?_
  rw [← hrest, hnil, List.append_nil]

/-- Where links are not followed, whatever is selected without a pattern is no link: a walk gathers files
to which directories lead.  Every link that a pattern picks gives a file all the same, so every file is
selected without a link exactly if each of these files is. -/
theorem selected_without_links_iff (hsound : ws.Sound) (hfollow : s.followLinks = false)
    {files : List Path} (c : Collection) (hfiles : ((c.configure s).files ws).2.outcome = .ok files) :
    ((∀ file ∈ files, ∃ p, s.SelectsUnlinked ws p ∧ ws.realFile p = .ok file) ↔
      ∀ pattern ∈ s.files, ∀ p, s.Picks ws pattern p → ws.isLink p.text = true →
        ∃ q, s.SelectsUnlinked ws q ∧ ws.realFile q = ws.realFile p) ∧
    (∀ pattern ∈ s.files, ∀ p, s.Picks ws pattern p → ∃ file ∈ files, ws.realFile p = .ok file) ∧
    ∀ d ∈ s.directories, ∀ p, s.Gathers ws d p → ws.isLink p.text = false ∧
      ∃ root, ws.expandHomePath? (.ofText d) = some root ∧ LiesBelow ws root p := by
  rw [files_configure] at hfiles
  obtain ⟨-, hlists⟩ := lists_collect hfiles
  refine ⟨⟨fun hall pattern hpattern p hpicks _ => ?_, fun hlinks file hfile => ?_⟩,
    fun pattern hpattern p hpicks => hlists.all p (.picked hpattern hpicks),
    fun d _ p hgathers => ⟨hgathers.unlinked hfollow, hgathers.exists_liesBelow hsound hfollow⟩⟩
  · obtain ⟨file, hfile, hreal⟩ := hlists.all p (.picked hpattern hpicks)
    obtain ⟨q, hq, hreal'⟩ := hall file hfile
    exact ⟨q, hq, hreal'.trans hreal.symm⟩
  · obtain ⟨p, hselects, hreal⟩ := hlists.only file hfile
    cases hlink : ws.isLink p.text with
    | false => exact ⟨p, ⟨hselects, hlink⟩, hreal⟩
    | true =>
        cases hselects with
        | picked hpattern hpicks =>
            obtain ⟨q, hq, hsame⟩ := hlinks _ hpattern p hpicks hlink
            exact ⟨q, hq, hsame.trans hreal⟩
        | gathered _ hgathers => cases hlink.symm.trans (hgathers.unlinked hfollow)

/-- A working directory with a file in a directory, and links to both. -/
def doubled : Workspace :=
  { files := ⟨[(["w".toList], .directory), (["w".toList, "src".toList], .directory),
      (["w".toList, "src".toList, "a.php".toList], .file [63]),
      (["w".toList, "src".toList, "b.php".toList], .link "a.php".toList),
      (["w".toList, "src".toList, "again".toList], .link ".".toList),
      (["w".toList, "link.php".toList], .link "src/a.php".toList)]⟩
    workingDirectory := ["w".toList]
    homes := [] }

theorem sound_doubled : doubled.Sound :=
  ⟨FileSystem.sound_of_stands (by decide), rfl⟩

/-- A walk that does not follow links passes by those beside the file, which is selected without one. -/
theorem file_beside_links_is_selected_without :
    doubled.Sound ∧ ∃ files,
      ((({} : Collection).configure { directories := ["src".toList], followLinks := false }).files
        doubled).2.outcome = .ok files ∧ files = [.ofText "/w/src/a.php".toList] ∧
      ∀ file ∈ files, ∃ p,
        SelectsUnlinked { directories := ["src".toList], followLinks := false } doubled p ∧
          doubled.realFile p = .ok file := by
  have hfiles : ((({} : Collection).configure
      { directories := ["src".toList], followLinks := false }).files doubled).2.outcome =
        .ok [.ofText "/w/src/a.php".toList] := by decide +kernel
  refine ⟨sound_doubled, _, hfiles, rfl, ?_⟩
  exact (selected_without_links_iff sound_doubled rfl {} hfiles).1.mpr (by simp)

/-- A link that is given as a file is selected, although links are not to be followed, and the file to
which it leads is selected in no other way. -/
theorem link_given_as_file_is_selected :
    ((({} : Collection).configure { files := ["link.php".toList], followLinks := false }).files
        doubled).2.outcome = .ok [.ofText "/w/src/a.php".toList] ∧
      ¬ ∃ p, SelectsUnlinked { files := ["link.php".toList], followLinks := false } doubled p ∧
        doubled.realFile p = .ok (.ofText "/w/src/a.php".toList) := by
  refine ⟨by decide +kernel, ?_⟩
  rintro ⟨p, ⟨hselects, hunlinked⟩, -⟩
  cases hselects with
  | picked hpattern hpicks =>
      obtain rfl := List.mem_singleton.mp hpattern
      obtain ⟨⟨matched, hfind, hp⟩, -, -⟩ := hpicks
      have hfound : Glob.find doubled (doubled.expandHome "link.php".toList) =
          .ok ["link.php".toList] := by decide +kernel
      obtain rfl := Except.ok.inj (hfound.symm.trans hfind)
      obtain rfl := List.mem_singleton.mp hp
      exact absurd hunlinked (by decide +kernel)
  | gathered hdirectory => cases hdirectory

end Selection

end SourceAtlas
