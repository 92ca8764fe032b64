import SourceAtlas.Proofs.Collected
import SourceAtlas.Proofs.Walking

/-!
# Two spellings of a directory

A directory can be written in several ways.  A walk follows the one that is given, so an ignore pattern
that matches paths as they are written can match under one spelling and not under another.  Apart from
such patterns the spelling does not matter.
-/

namespace SourceAtlas

open Text Workspace

namespace Selection

variable {s : Selection} {ws : Workspace} {root root' : Path} {l : Location}

/-! ## What depends on the spelling -/

theorem relativeTo?_below (root : Path) (ns : List Text) :
    (below root ns).relativeTo? root = some ⟨.relative, ns⟩ := by
  have hlead : root.names.isPrefixOf (root.names ++ ns) = true :=
    List.isPrefixOf_iff_prefix.mpr (List.prefix_append _ _)
  rw [Path.relativeTo?, below, hlead, List.drop_left]
  simp

/-- Of the names that an ignore pattern may match, only the path as it is written depends on how the
root of the walk is spelled. -/
theorem enters_below (s : Selection) (root : Path) (ns : List Text) (n : Text) :
    s.enters root (below root (ns ++ [n])) = ((s.includeHidden || !Glob.isHidden n) &&
      !s.ignorePatterns.any fun p => Glob.matchesText p (below root (ns ++ [n])).text ||
        (Glob.matchesText p n || Glob.matchesText p (Path.text ⟨.relative, ns ++ [n]⟩))) := by
  rw [enters, Glob.ignores, Glob.candidates, relativeTo?_below, name_below]
  simp

/-- To every ignore pattern a path is the same, as it is written, under both spellings of the root. -/
def SameToPatterns (s : Selection) (root root' : Path) (ns : List Text) : Prop :=
  ∀ p ∈ s.ignorePatterns,
    Glob.matchesText p (below root ns).text = Glob.matchesText p (below root' ns).text

theorem enters_congr {ns : List Text} {n : Text} (h : s.SameToPatterns root root' (ns ++ [n])) :
    s.enters root (below root (ns ++ [n])) = s.enters root' (below root' (ns ++ [n])) := by
  have hany : ∀ {f g : Text → Bool}, (∀ p ∈ s.ignorePatterns, f p = g p) →
      s.ignorePatterns.any f = s.ignorePatterns.any g := by
    intro f g hfg
    rw [Bool.eq_iff_iff, List.any_eq_true, List.any_eq_true]
    exact exists_congr fun p => and_congr_right fun hp => by rw [hfg p hp]
  rw [enters_below, enters_below, hany fun p hp => by rw [h p hp]]

theorem entersAll_congr {entered ns : List Text}
    (h : ∀ ms, ms ≠ [] → ms <+: ns → s.SameToPatterns root root' (entered ++ ms)) :
    s.entersAll root entered ns = s.entersAll root' entered ns := by
  induction ns generalizing entered with
  | nil => rfl
  | cons n ns ih =>
      have hfirst := h [n] (by simp) (List.prefix_append [n] ns)
      have hrest : s.entersAll root (entered ++ [n]) ns = s.entersAll root' (entered ++ [n]) ns := by
        apply ih
        intro ms hne hms
        have hmore := h (n :: ms) (by simp) (List.cons_prefix_cons.mpr ⟨rfl, hms⟩)
        rwa [← List.append_cons]
      rw [entersAll, entersAll, enters_congr hfirst, hrest]

/-- A file is admitted under both spellings if no pattern tells its path, or that of a directory on the
way, from the other spelling. -/
theorem admits_congr {ns : List Text} (hne : ns ≠ [])
    (h : ∀ ms, ms ≠ [] → ms <+: ns → s.SameToPatterns root root' ms) :
    s.admits root ns = s.admits root' ns := by
  obtain ⟨ms, n, rfl⟩ := (List.eq_nil_or_concat' ns).resolve_left hne
  have hkind : kindOf (below root (ms ++ [n])) = kindOf (below root' (ms ++ [n])) := by
    rw [kindOf, kindOf, Path.suffix, Path.suffix, name_below, name_below]
  rw [admits, admits, hkind, entersAll_congr h]

/-! ## Exchanging spellings -/

/-- In every selection by these rules, a directory may be given in one spelling or in the other one. -/
def Exchangeable (s : Selection) (ws : Workspace) (d d' : Text) : Prop :=
  ∀ (c : Collection) (files before after : List Text),
    ((c.configure { s with files := files, directories := before ++ d :: after }).files ws).2.outcome =
      ((c.configure { s with files := files, directories := before ++ d' :: after }).files ws).2.outcome

section Spellings

variable {d d' : Text} (hsound : ws.Sound) (hd : ws.expandHomePath? (.ofText d) = some root)
  (h : ws.PlainRoot root l)
include hsound hd h

/-- A directory that is selected alone gives the files that its walk admits. -/
theorem exists_collect_one (s : Selection) : ∃ files,
    (collect { s with files := [], directories := [d] } ws).outcome = .ok files ∧
      ∀ ns content, ws.files.get? (l ++ ns) = some (.file content) →
        (Location.path (l ++ ns) ∈ files ↔ s.admits root ns = true) := by
  obtain ⟨found, hfound, hmem⟩ := exists_filesOfDirectory (s := s) hsound hd h
  have hsearch : CanSearch { s with files := [], directories := [d] } ws := by
    rw [canSearch_with_iff]
    simp [hfound]
  obtain ⟨files, hfiles⟩ := exists_collect_of_canSearch hsearch
  obtain ⟨-, -, hcollected⟩ := (collect_eq_ok_iff hsound.segments).mp hfiles
  refine ⟨files, hfiles, fun ns content he => ?_⟩
  have hfinds : ∀ file, Finds { s with files := [], directories := [d] } ws file ↔ file ∈ found := by
    intro file
    rw [finds_with_iff]
    simp [hfound]
  rw [hcollected, hfinds, hmem]
  constructor
  · rintro ⟨ms, _, hpath, -, hadmits⟩
    obtain rfl : ns = ms := List.append_cancel_left (congrArg Path.names hpath)
    exact hadmits
  · exact fun hadmits => ⟨ns, content, rfl, he, hadmits⟩

variable (hd' : ws.expandHomePath? (.ofText d') = some root') (h' : ws.PlainRoot root' l)
include hd' h'

theorem exchangeable_of_admits (hsame : ∀ ns content, ws.files.get? (l ++ ns) = some (.file content) →
    s.admits root ns = s.admits root' ns) : s.Exchangeable ws d d' := by
  have halike : Alike (s.filesOfDirectory ws d).outcome (s.filesOfDirectory ws d').outcome := by
    obtain ⟨found, hfound, hmem⟩ := exists_filesOfDirectory (s := s) hsound hd h
    obtain ⟨found', hfound', hmem'⟩ := exists_filesOfDirectory (s := s) hsound hd' h'
    rw [hfound, hfound']
    apply Alike.found
    intro file
    rw [hmem, hmem']
    constructor
    · rintro ⟨ns, content, rfl, he, hadmits⟩
      exact ⟨ns, content, rfl, he, hsame ns content he ▸ hadmits⟩
    · rintro ⟨ns, content, rfl, he, hadmits⟩
      exact ⟨ns, content, rfl, he, (hsame ns content he).symm ▸ hadmits⟩
  intro c files before after
  rw [files_configure, files_configure]
  apply outcome_collect_congr hsound.segments
  · rfl
  · simp only [filesOfDirectory_with]
    exact .concatM (fun directory => (s.filesOfDirectory ws directory).outcome) halike before after

/-- Two spellings of a directory without links may be exchanged exactly if a walk admits the same files
under both.  So they may whenever no ignore pattern tells a path below, as it is written, from the same
path in the other spelling. -/
theorem exchangeable_iff :
    (s.Exchangeable ws d d' ↔ ∀ ns content, ws.files.get? (l ++ ns) = some (.file content) →
      s.admits root ns = s.admits root' ns) ∧
    ((∀ ns e, ns ≠ [] → ws.files.get? (l ++ ns) = some e → s.SameToPatterns root root' ns) →
      s.Exchangeable ws d d') := by
  have hexchange := exchangeable_of_admits (s := s) hsound hd h hd' h'
  refine ⟨⟨fun hsame ns content he => ?_, hexchange⟩, fun hpatterns => hexchange ?_⟩
  · obtain ⟨files, hfiles, hmem⟩ := exists_collect_one hsound hd h s
    obtain ⟨files', hfiles', hmem'⟩ := exists_collect_one hsound hd' h' s
    have houtcomes := hsame {} [] [] []
    rw [files_configure, files_configure] at houtcomes
    obtain rfl := Except.ok.inj (hfiles.symm.trans (houtcomes.trans hfiles'))
    rw [Bool.eq_iff_iff, ← hmem ns content he, hmem' ns content he]
  · intro ns content he
    have hne : ns ≠ [] := by
      rintro rfl
      rw [List.append_nil, hsound.get?_of_entryAt h.leads] at he
      cases he
    apply admits_congr hne
    rintro ms hms ⟨rest, rfl⟩
    rw [← List.append_assoc] at he
    by_cases hrest : rest = []
    · subst hrest
      rw [List.append_nil] at he
      exact hpatterns ms _ hms he
    · exact hpatterns ms _ hms (hsound.files.ancestor he hrest)

end Spellings

/-! ## A directory in two spellings -/

/-- What holds of all listed entries below a location holds of all that stands there. -/
theorem forall_below_of_entries {fs : FileSystem} (hl : l ≠ []) {P : List Text → Entry → Prop}
    (h : ∀ entry ∈ fs.entries, l.isPrefixOf entry.1 = true → P (entry.1.drop l.length) entry.2)
    {ns : List Text} {e : Entry} (he : fs.get? (l ++ ns) = some e) : P ns e := by
  have hne : l ++ ns ≠ [] := List.append_ne_nil_of_left_ne_nil hl ns
  have hentry := h _ (FileSystem.mem_of_get? hne he)
    (List.isPrefixOf_iff_prefix.mpr (List.prefix_append l ns))
  rwa [List.drop_left] at hentry

/-- A path that leads to a directory is a plain root if all entries below are as they must be. -/
theorem plainRoot_of_entries (hl : l ≠ []) (hleads : ws.entryAt true root.text = .ok (l, .directory))
    (h : ∀ entry ∈ ws.files.entries, l.isPrefixOf entry.1 = true → entry.2.isLink = false ∧
      ∀ follow, ws.entryAt follow (below root (entry.1.drop l.length)).text ≠ .error .nameTooLong) :
    ws.PlainRoot root l := by
  have hbelow : ∀ {ns e}, ws.files.get? (l ++ ns) = some e → e.isLink = false ∧
      ∀ follow, ws.entryAt follow (below root ns).text ≠ .error .nameTooLong :=
    fun he => forall_below_of_entries (P := fun ns e => e.isLink = false ∧
      ∀ follow, ws.entryAt follow (below root ns).text ≠ .error .nameTooLong) hl h he
  refine ⟨hleads, fun ns target he => ?_, fun ns e he => (hbelow he).2⟩
  cases (hbelow he).1

/-- A working directory with files in a directory and in another one there. -/
def nested : Workspace :=
  { files := ⟨[(["w".toList], .directory), (["w".toList, "src".toList], .directory),
      (["w".toList, "src".toList, "a.php".toList], .file [63]),
      (["w".toList, "src".toList, "lib".toList], .directory),
      (["w".toList, "src".toList, "lib".toList, "b.php".toList], .file [63])]⟩
    workingDirectory := ["w".toList]
    homes := [] }

theorem sound_nested : nested.Sound :=
  ⟨FileSystem.sound_of_stands (by decide), rfl⟩

/-- The selection of a directory with ignore patterns. -/
def ignoring (patterns : List Text) (directory : Text) : Selection :=
  { directories := [directory], ignorePatterns := patterns }

/-- A pattern that matches a name ignores the directory of that name under both spellings. -/
theorem named_directory_is_ignored_in_both_spellings :
    nested.Sound ∧
      Exchangeable { ignorePatterns := ["lib".toList] } nested "src".toList "/w/./src/../src".toList ∧
      ((({} : Collection).configure (ignoring ["lib".toList] "src".toList)).files nested).2.outcome =
        .ok [.ofText "/w/src/a.php".toList] := by
  have hl : ["w".toList, "src".toList] ≠ [] := by simp
  have hd : nested.expandHomePath? (.ofText "src".toList) = some (.ofText "src".toList) := by
    decide
  have hd' : nested.expandHomePath? (.ofText "/w/./src/../src".toList) =
      some (.ofText "/w/./src/../src".toList) := by
    decide
  have h : nested.PlainRoot (.ofText "src".toList) ["w".toList, "src".toList] :=
    plainRoot_of_entries hl (by decide) (by decide)
  have h' : nested.PlainRoot (.ofText "/w/./src/../src".toList) ["w".toList, "src".toList] :=
    plainRoot_of_entries hl (by decide) (by decide)
  have hboth := exchangeable_iff (s := { ignorePatterns := ["lib".toList] }) sound_nested hd h hd' h'
  refine ⟨sound_nested, hboth.2 fun ns e _ he => ?_, by decide +kernel⟩
  exact forall_below_of_entries (P := fun ns _ => ∀ p ∈ ["lib".toList],
    Glob.matchesText p (below (.ofText "src".toList) ns).text =
      Glob.matchesText p (below (.ofText "/w/./src/../src".toList) ns).text) hl (by decide +kernel) he

/-- A pattern that matches the path of a file as it is written ignores the file under one spelling of
its directory and not under the other one. -/
theorem written_path_is_ignored_in_one_spelling :
    nested.realPath "src".toList = nested.realPath "/w/src".toList ∧
      ((({} : Collection).configure (ignoring ["src/a.php".toList, "lib".toList]
        "src".toList)).files nested).2.outcome = .ok [] ∧
      ((({} : Collection).configure (ignoring ["src/a.php".toList, "lib".toList]
        "/w/src".toList)).files nested).2.outcome = .ok [.ofText "/w/src/a.php".toList] := by
  decide +kernel

end Selection

end SourceAtlas
