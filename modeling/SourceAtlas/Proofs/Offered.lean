import SourceAtlas.Proofs.Collected
import SourceAtlas.Proofs.Walking

/-!
# The files that a directory offers

A directory offers the files below it that no name on the way leaves out.  A walk that does not follow
links comes to these files and to no others.  One that follows links comes to more, and in a circle of
links to the same file on many paths; yet it visits finitely many.  Neither goes on where a path is too
long to be looked up.
-/

namespace SourceAtlas

open Text Workspace

/-- A relative path whose first name begins with a tilde. -/
def Path.BeginsWithTilde (p : Path) : Prop :=
  p.anchor = .relative ∧ p.names.head?.bind List.head? = some '~'

instance (p : Path) : Decidable p.BeginsWithTilde := inferInstanceAs (Decidable (_ ∧ _))

theorem Workspace.expandHomePath?_of_not_tilde {p : Path} (h : ¬ p.BeginsWithTilde) (ws : Workspace) :
    ws.expandHomePath? p = some p := by
  rw [expandHomePath?]
  split
  · next first rest hanchor hnames =>
      have hfirst : first.head? ≠ some '~' := fun hhead =>
        h ⟨hanchor, by rw [hnames]; exact hhead⟩
      rw [if_neg hfirst]
  · rfl

namespace Selection

variable {s : Selection} {ws : Workspace} {root : Path} {l : Location} {ns : List Text} {n : Text}

/-! ## Offers -/

/-- None of the names on the way from a root leaves out what stands there: none of them is hidden, and
no path on the way is ignored. -/
structure LetsThrough (s : Selection) (root : Path) (ns : List Text) : Prop where
  shown : s.includeHidden = false → ∀ n ∈ ns, Glob.isHidden n = false
  kept : ∀ ms, ms ≠ [] → ms <+: ns → Glob.ignores s.ignorePatterns (below root ms) root = false

/-- A root whose real path is given offers the file with more names below it: over directories that are
no links, these names lead to a file of a selected kind that they do not leave out. -/
structure Offers (s : Selection) (ws : Workspace) (root : Path) (l : Location) (ns : List Text) :
    Prop where
  directory : ws.isDirectory root.text = true
  real : ws.realPath root.text = .ok l.path
  way : ∀ ms, ms <+: ns → ms ≠ ns → ws.files.get? (l ++ ms) = some .directory
  file : ∃ content, ws.files.get? (l ++ ns) = some (.file content)
  through : s.LetsThrough root ns
  kind : kindOf (below root ns) ∈ s.kinds

/-- A walk that does not follow links stumbles over a path that is too long to be looked up: that of its
root, or that of an entry about which it has to ask whether it is a link. -/
inductive Stumbles (s : Selection) (ws : Workspace) (root : Path) : Prop
  | atRoot (hlong : ws.stat root.text = .error .nameTooLong) : Stumbles s ws root
  | atEntry {l : Location} {ns : List Text} {n : Text} {e : Entry}
      (hdirectory : ws.isDirectory root.text = true) (hreal : ws.realPath root.text = .ok l.path)
      (he : ws.files.get? (l ++ (ns ++ [n])) = some e) (hnot : e ≠ .directory)
      (hthrough : s.LetsThrough root ns) (hlist : ws.CanList root ns)
      (hshown : s.includeHidden = false → Glob.isHidden n = false)
      (hlong : ws.linkStat (below root (ns ++ [n])).text = .error .nameTooLong) : Stumbles s ws root

theorem enters_iff : s.enters root (below root (ns ++ [n])) = true ↔
    (s.includeHidden = false → Glob.isHidden n = false) ∧
      Glob.ignores s.ignorePatterns (below root (ns ++ [n])) root = false := by
  rw [enters, name_below]
  cases s.includeHidden <;> simp

theorem letsThrough_concat_iff : s.LetsThrough root (ns ++ [n]) ↔
    s.LetsThrough root ns ∧ s.enters root (below root (ns ++ [n])) = true := by
  rw [enters_iff]
  constructor
  · rintro ⟨hshown, hkept⟩
    refine ⟨⟨fun hhidden m hm => ?_, fun ms hne hms => ?_⟩, fun hhidden => ?_, ?_⟩
    · exact hshown hhidden m (List.mem_append_left _ hm)
    · exact hkept ms hne (hms.trans (List.prefix_append ns [n]))
    · exact hshown hhidden n (by simp)
    · exact hkept _ (by simp) (List.prefix_refl _)
  · rintro ⟨⟨hshown, hkept⟩, hlast, hignored⟩
    refine ⟨fun hhidden => ?_, fun ms hne hms => ?_⟩
    · exact FileSystem.forall_mem_concat (hshown hhidden) (hlast hhidden)
    · obtain rfl | hms := List.prefix_concat_iff.mp hms
      · exact hignored
      · exact hkept ms hne hms

/-- A walk enters the directories on a way that its names let it through. -/
theorem entersAll_iff : s.entersAll root [] ns = true ↔ s.LetsThrough root ns := by
  induction ns using List.reverseRecOn with
  | nil =>
      refine iff_of_true rfl ⟨by simp, fun ms hne hms => ?_⟩
      exact absurd (List.prefix_nil.mp hms) hne
  | append_singleton ns n ih =>
      rw [entersAll_concat, Bool.and_eq_true, ih, List.nil_append, letsThrough_concat_iff]

theorem admits_iff : s.admits root ns = true ↔
    kindOf (below root ns) ∈ s.kinds ∧ s.LetsThrough root ns := by
  rw [admits, Bool.and_eq_true, List.contains_iff_mem, entersAll_iff]

section Offers

variable (hsound : ws.Sound)
include hsound

/-- A path that leads to a directory leads to its real path. -/
theorem entryAt_of_realPath (hdirectory : ws.isDirectory root.text = true)
    (hreal : ws.realPath root.text = .ok l.path) : ws.entryAt true root.text = .ok (l, .directory) := by
  obtain ⟨⟨m, e⟩, hentry, rfl⟩ := map_eq_ok.mp (isDirectory_iff.mp hdirectory)
  have hplace := hsound.realPath_of_reaches (hsound.reaches_of_entryAt (by simp) hentry)
  obtain rfl := Location.path_injective (Except.ok.inj (hreal.symm.trans hplace))
  exact hentry

theorem offers_iff : s.Offers ws root l ns ↔ ws.entryAt true root.text = .ok (l, .directory) ∧
    (∃ content, ws.files.get? (l ++ ns) = some (.file content)) ∧ s.admits root ns = true := by
  rw [admits_iff]
  constructor
  · rintro ⟨hdirectory, hreal, -, hfile, hthrough, hkind⟩
    exact ⟨entryAt_of_realPath hsound hdirectory hreal, hfile, hkind, hthrough⟩
  · rintro ⟨hleads, ⟨content, he⟩, hkind, hthrough⟩
    have hreal := hsound.realPath_of_reaches (hsound.reaches_of_entryAt (by simp) hleads)
    refine ⟨isDirectory_of_entryAt hleads, hreal, ?_, ⟨content, he⟩, hthrough, hkind⟩
    rintro ms ⟨rest, rfl⟩ hne
    rw [← List.append_assoc] at he
    refine hsound.files.ancestor he fun hrest => hne ?_
    rw [hrest, List.append_nil]

end Offers

/-! ## One directory -/

section Directory

variable {directory : Text} (hsound : ws.Sound)
  (hdirectory : ws.expandHomePath? (.ofText directory) = some root)
include hsound hdirectory

/-- The files of a directory hold what its root offers where the walk can list. -/
theorem mem_of_offers {found : List Path}
    (h : (s.filesOfDirectory ws directory).outcome = .ok found) (hoffers : s.Offers ws root l ns)
    (hlist : ws.CanList root ns.dropLast) : Location.path (l ++ ns) ∈ found := by
  have hroot := isProperName_of_expandHomePath?_ofText hdirectory
  obtain ⟨hleads, ⟨content, he⟩, hadmits⟩ := (offers_iff hsound).mp hoffers
  rw [outcome_filesOfDirectory hdirectory hoffers.directory] at h
  obtain ⟨picked, hpicked, hfound⟩ := bind_eq_ok.mp h
  have hcollected := collected_of_admits hsound hroot hleads he hadmits hlist fun p hp =>
    exists_of_filterM hpicked hp
  obtain ⟨file, hfile, hreal⟩ :=
    (lists_mapM hfound).all _ ((mem_filterM hpicked).mpr hcollected)
  rw [realFile_below hsound hroot hleads he] at hreal
  rwa [Except.ok.inj hreal]

variable (hfollow : s.followLinks = false)
include hfollow

/-- Where a walk stumbles, it comes upon an entry about which it cannot ask. -/
theorem Stumbles.exists_not_asked (h : s.Stumbles ws root)
    (hisDirectory : ws.isDirectory root.text = true) :
    ∃ p ∈ s.walk ws root (depthLimit ws) root, ∃ f, s.collects ws root p = .error f := by
  cases h with
  | atRoot hlong => cases (isDirectory_iff.mp hisDirectory).symm.trans hlong
  | @atEntry l ns n e _ hreal he hnot hthrough hlist hshown hlong =>
      have hroot := isProperName_of_expandHomePath?_ofText hdirectory
      have hnames : ws.namesDirectory (l ++ ns) n (below root (ns ++ [n])).text = false := by
        rw [namesDirectory, List.append_assoc, he]
        cases e with
        | directory => exact absurd rfl hnot
        | file content => rfl
        | link target =>
            -- a link that leads to a directory denotes something
            rw [← Bool.not_eq_true]
            intro hto
            have hentry := hasEntry_of_isDirectory hto
            rw [hasEntry, hlong] at hentry
            cases hentry
      have hleads := entryAt_of_realPath hsound hisDirectory hreal
      refine ⟨_, mem_whole_walk_of_get? (s := s) hsound hroot hleads he hnames
        (entersAll_iff.mpr hthrough) hlist, ?_⟩
      rw [exists_collects_error_iff hfollow, name_below]
      exact ⟨hshown, hlong⟩

/-- A walk that stumbles fails. -/
theorem exists_error_of_stumbles (h : s.Stumbles ws root) :
    ∃ f, (s.filesOfDirectory ws directory).outcome = .error f ∧ IsTooLong f := by
  cases hisDirectory : ws.isDirectory root.text with
  | false =>
      cases h with
      | atRoot hlong =>
          refine ⟨.ofFile ⟨.nameTooLong, root.text⟩, ?_, root.text, rfl⟩
          rw [filesOfDirectory, hdirectory]
          dsimp only
          rw [isKind, hlong]
          rfl
      | atEntry hdirectory' => cases hisDirectory.symm.trans hdirectory'
  | true =>
      obtain ⟨p, hp, f, hf⟩ := h.exists_not_asked hsound hdirectory hfollow hisDirectory
      rw [outcome_filesOfDirectory hdirectory hisDirectory]
      cases hpicked : (s.walk ws root (depthLimit ws) root).filterM (s.collects ws root) with
      | error g =>
          refine ⟨g, rfl, ?_⟩
          exact Blames.filterM (fun _ _ => isTooLong_of_collects) _ g hpicked
      | ok picked =>
          obtain ⟨collected, hcollected⟩ := exists_of_filterM hpicked hp
          cases hf.symm.trans hcollected

/-- A walk that does not stumble can ask about all that it comes upon. -/
theorem asks_of_not_stumbles (hleads : ws.entryAt true root.text = .ok (l, .directory))
    (h : ¬ s.Stumbles ws root) {p : Path} (hp : p ∈ s.walk ws root (depthLimit ws) root) :
    ∃ collected, s.collects ws root p = .ok collected := by
  have hroot := isProperName_of_expandHomePath?_ofText hdirectory
  obtain ⟨ns, n, e, rfl, he, hnot, henters, hlist⟩ :=
    (mem_whole_walk_iff hsound hroot hleads (.inl hfollow)).mp hp
  cases hcollects : s.collects ws root (below root (ns ++ [n])) with
  | ok collected => exact ⟨collected, rfl⟩
  | error f =>
      have hreal := hsound.realPath_of_reaches (hsound.reaches_of_entryAt (by simp) hleads)
      obtain ⟨hshown, hlong⟩ := (exists_collects_error_iff hfollow).mp ⟨f, hcollects⟩
      rw [name_below] at hshown
      refine absurd (Stumbles.atEntry (isDirectory_of_entryAt hleads) hreal he ?_
        (entersAll_iff.mp henters) hlist hshown hlong) h
      rintro rfl
      rw [namesDirectory, List.append_assoc, he] at hnot
      cases hnot

/-- A walk that does not stumble comes to the files that its root offers where it can list. -/
theorem exists_files_of_not_stumbles (h : ¬ s.Stumbles ws root) :
    ∃ found, (s.filesOfDirectory ws directory).outcome = .ok found ∧ ∀ file, file ∈ found ↔
      ∃ l ns, s.Offers ws root l ns ∧ ws.CanList root ns.dropLast ∧ file = Location.path (l ++ ns) := by
  cases hisDirectory : ws.isDirectory root.text with
  | false =>
      refine ⟨[], ?_, fun file => iff_of_false List.not_mem_nil ?_⟩
      · rw [filesOfDirectory, hdirectory]
        dsimp only
        split
        · next e hkind =>
            exact absurd (.atRoot ((exists_kindFound_error_iff fun _ => reason_of_stat).mp
              ⟨e, hkind⟩)) h
        · rfl
        · next hkind =>
            obtain ⟨e, hstat, he⟩ := kindFound_eq_ok_true.mp hkind
            cases e with
            | directory => cases (isDirectory_iff.mpr hstat).symm.trans hisDirectory
            | file content => cases he
            | link target => cases he
      · rintro ⟨l, ns, hoffers, -⟩
        cases hisDirectory.symm.trans hoffers.directory
  | true =>
      obtain ⟨⟨l, e⟩, hleads, rfl⟩ := map_eq_ok.mp (isDirectory_iff.mp hisDirectory)
      obtain ⟨files, hfiles, hmem⟩ := exists_files_of_asks hsound hdirectory hleads (.inl hfollow)
        fun p hp => asks_of_not_stumbles hsound hdirectory hfollow hleads h hp
      refine ⟨files, hfiles, fun file => (hmem file).trans ⟨?_, ?_⟩⟩
      · rintro ⟨ns, content, rfl, he, hadmits, hlist⟩
        exact ⟨l, ns, (offers_iff hsound).mpr ⟨hleads, ⟨content, he⟩, hadmits⟩, hlist, rfl⟩
      · rintro ⟨m, ns, hoffers, hlist, rfl⟩
        obtain ⟨hleads', ⟨content, he⟩, hadmits⟩ := (offers_iff hsound).mp hoffers
        obtain ⟨rfl, -⟩ := Prod.mk.inj (Except.ok.inj (hleads.symm.trans hleads'))
        exact ⟨ns, content, rfl, he, hadmits, hlist⟩

end Directory

/-- Walks that do not follow links fail only where a path is too long. -/
theorem blames_collect_of_walks (hsound : ws.Sound) (hfollow : s.followLinks = false)
    (hfiles : s.files = [])
    (hroot : ∀ d ∈ s.directories, ws.expandHomePath? (.ofText d) = some (.ofText d)) :
    Blames (s.collect ws).outcome IsTooLong := by
  rw [outcome_collect, hfiles]
  refine Blames.map ((blames_ok []).bind fun picked => Blames.bind ?_ fun walked => blames_ok _) _
  refine Blames.concatM fun d hd f hf => ?_
  by_cases hstumbles : s.Stumbles ws (.ofText d)
  · obtain ⟨g, hg, hlong⟩ := exists_error_of_stumbles hsound (hroot d hd) hfollow hstumbles
    cases hf.symm.trans hg
    exact hlong
  · obtain ⟨found, hfound, -⟩ := exists_files_of_not_stumbles hsound (hroot d hd) hfollow hstumbles
    cases hf.symm.trans hfound

/-- A working directory with a directory that holds a file, a hidden one and a link to itself. -/
def circling : Workspace :=
  { files := ⟨[(["w".toList], .directory), (["w".toList, "src".toList], .directory),
      (["w".toList, "src".toList, "a.php".toList], .file [63]),
      (["w".toList, "src".toList, ".b.php".toList], .file [63]),
      (["w".toList, "src".toList, "again".toList], .link ".".toList)]⟩
    workingDirectory := ["w".toList]
    homes := [] }

theorem sound_circling : circling.Sound :=
  ⟨FileSystem.sound_of_stands (by decide), rfl⟩

/-- The selection of a directory whose walk does not follow links. -/
def plainly (directory : Text) : Selection := { directories := [directory], followLinks := false }

/-- A working directory with a file two directories down, and a directory whose name begins with a
tilde. -/
def layered : Workspace :=
  { files := ⟨[(["w".toList], .directory), (["w".toList, "src".toList], .directory),
      (["w".toList, "src".toList, "libs".toList], .directory),
      (["w".toList, "src".toList, "libs".toList, "b.php".toList], .file [63]),
      (["w".toList, "~x".toList], .directory),
      (["w".toList, "~x".toList, "a.php".toList], .file [63])]⟩
    workingDirectory := ["w".toList]
    homes := [] }

theorem sound_layered : layered.Sound :=
  ⟨FileSystem.sound_of_stands (by decide), rfl⟩

/-- A spelling of a directory that is just short enough to be looked up. -/
def longSpelling : Text := (List.replicate 584 "src/../".toList).flatten ++ "src".toList

/-- Under its long spelling the directory still offers the file. -/
theorem offers_longSpelling {s : Selection}
    (hadmits : s.admits (.ofText longSpelling) ["libs".toList, "b.php".toList] = true) :
    s.Offers layered (.ofText longSpelling) ["w".toList, "src".toList]
      ["libs".toList, "b.php".toList] := by
  rw [offers_iff sound_layered]
  exact ⟨by decide +kernel, ⟨[63], rfl⟩, hadmits⟩

/-- The selection of a directory whose walk follows links. -/
def following (directory : Text) : Selection := { directories := [directory] }

end Selection

end SourceAtlas
