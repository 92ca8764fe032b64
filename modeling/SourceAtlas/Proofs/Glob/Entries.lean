import SourceAtlas.Proofs.Glob.Searching

/-!
# Files that are named

A file may be selected by its path, which is read as a pattern.  Without wildcards the pattern stands
for itself, and so does a bracket that is not closed.  A bracket class stands for one of its members, so
a path with a class does not match itself.
-/

namespace SourceAtlas

open Text FileSystem

variable {ws : Workspace} {p q : Text} {path : Path} {l : Location} {content : Bytes}

namespace Glob

/-! ## Paths that match a path -/

theorem Matches.ofText_eq (h : Matches p q) (hplain : ∀ part ∈ FileSystem.namesIn p, IsPlain part) :
    Path.ofText q = Path.ofText p := by
  rw [Path.ofText, Path.ofText, h.anchor, Path.namesOf, Path.namesOf, ← filter_namesIn,
    ← filter_namesIn, h.names_eq hplain]

/-- A part that stands for a name is idle if and only if the name is. -/
theorem Stands.isIdle_iff {part n : Text} (h : Stands part n) :
    Path.isIdle part = true ↔ Path.isIdle n = true := by
  obtain ⟨-, rfl⟩ | ⟨hentry, hmatches⟩ := h
  · rfl
  · have hn : ¬ Path.isIdle n = true := by simpa [Path.isIdle] using hentry.not_idle
    refine iff_of_false (fun hidle => ?_) hn
    have hplain : IsPlain part := by
      apply isPlain_of_not_hasWildcard
      simp only [Path.isIdle, Bool.or_eq_true, beq_iff_eq] at hidle
      obtain rfl | rfl := hidle <;> rfl
    rw [(hplain n).mp hmatches] at hn
    exact hn hidle

/-- A path with a class is not among the paths that match it. -/
theorem Matches.ne_of_hasClass (h : Matches p q) (hstar : '*' ∉ p) (hany : '?' ∉ p) {part : Text}
    (hpart : part ∈ FileSystem.namesIn p) (hclass : hasClass part = true) :
    Path.ofText q ≠ Path.ofText p := by
  intro hsame
  have hnames : List.Forall₂ Stands (Path.namesOf p) (Path.namesOf q) := by
    rw [Path.namesOf, Path.namesOf, ← filter_namesIn, ← filter_namesIn]
    apply List.rel_filter _ h.names
    intro part n hstands
    simpa using hstands.isIdle_iff.not
  have hsubset : part ⊆ p := subset_of_mem_splitOn (List.mem_of_mem_filter hpart)
  have hmem : part ∈ Path.namesOf p := by
    rw [Path.namesOf, ← filter_namesIn, List.mem_filter]
    refine ⟨hpart, ?_⟩
    simp only [Path.isIdle, Bool.not_eq_true', Bool.or_eq_false_iff, beq_eq_false_iff_ne]
    constructor <;>
      · rintro rfl
        cases hclass
  rw [show Path.namesOf q = Path.namesOf p from congrArg Path.names hsame] at hnames
  have hself := (List.forall₂_same.mp hnames part hmem).matchesText
  rw [not_matchesText_self (fun hmem => hstar (hsubset hmem)) (fun hmem => hany (hsubset hmem)) hclass]
    at hself
  cases hself

/-- The paths that match the path of a file without classes are spellings of it. -/
theorem exists_find (h : ws.Sound) (hplain : ∀ part ∈ FileSystem.namesIn p, IsPlain part)
    (hentry : ws.entryAt true p = .ok (l, .file content)) :
    ∃ matched, find ws p = .ok matched ∧ matched ≠ [] ∧
      ∀ q ∈ matched, Path.ofText q = Path.ofText p := by
  have hend := Workspace.endsWith_slash_of_file hentry
  have hthere : ws.hasEntry p = true := by
    apply Workspace.hasEntry_of_stat
    rw [Workspace.stat, hentry]
    rfl
  have hany : false = true → ws.isDirectory p = true := by simp
  obtain ⟨matched, hfind, hspelling⟩ :=
    exists_spelling_search h hplain hend hthere hany (Nat.lt_succ_self _)
  obtain ⟨matched', hfind', hmatches⟩ := exists_search h (.inr hend)
    (Workspace.null_of_hasEntry hthere) (p.length + 1) false
  obtain rfl := Except.ok.inj (hfind.symm.trans hfind')
  obtain ⟨q, hq, -⟩ := hspelling
  exact ⟨matched, hfind, List.ne_nil_of_mem hq, fun q hq => (hmatches q hq).ofText_eq hplain⟩

end Glob

/-! ## Selecting one path -/

theorem Workspace.expandHome_of_head (h : p.head? ≠ some '~') : ws.expandHome p = p := by
  unfold expandHome
  split
  · exact absurd rfl h
  · rfl

namespace Selection

variable {s : Selection}

/-- The selection of a single path. -/
def named (s : Selection) (p : Text) : Selection := { s with files := [p], directories := [] }

theorem exists_outcome_collect_named {files : List Path}
    (hfiles : (s.named p).filesOfPattern ws p = .ok files) :
    ∃ files, ((s.named p).collect ws).outcome = .ok files := by
  rw [outcome_collect, show (s.named p).files = [p] from rfl,
    show (s.named p).directories = [] from rfl]
  simp only [concatM, hfiles]
  exact ⟨_, rfl⟩

/-- Only what the pattern picks is selected. -/
theorem selects_named_iff : (s.named p).Selects ws path ↔ (s.named p).Picks ws p path := by
  constructor
  · rintro (⟨hpattern, hpick⟩ | ⟨hdirectory, -⟩)
    · obtain rfl := List.mem_singleton.mp hpattern
      exact hpick
    · cases hdirectory
  · exact .picked (List.mem_singleton_self p)

/-- The files of a pattern are found if what matches can be asked for and has a real path. -/
theorem exists_filesOfPattern {matched : List Text}
    (hfind : Glob.find ws (ws.expandHome p) = .ok matched)
    (hkind : ∀ q ∈ matched, ∃ isFile, ws.isKind Entry.isFile (Path.ofText q).text = .ok isFile)
    (hreal : ∀ q ∈ matched, ∃ file, ws.realFile (.ofText q) = .ok file) :
    ∃ files, s.filesOfPattern ws p = .ok files := by
  rw [filesOfPattern, hfind]
  have hpicked : ∃ picked, (matched.map Path.ofText).filterM (fun path => do
      let isFile ← (ws.isKind Entry.isFile path.text).mapError Fault.ofFile
      return isFile && !Glob.ignores s.ignorePatterns path path.parent) = .ok picked := by
    apply exists_filterM
    intro path hpath
    obtain ⟨q, hq, rfl⟩ := List.mem_map.mp hpath
    obtain ⟨isFile, hisFile⟩ := hkind q hq
    rw [hisFile]
    exact ⟨_, rfl⟩
  obtain ⟨picked, hpicked⟩ := hpicked
  have hfiles : ∃ files, picked.mapM ws.realFile = .ok files := by
    apply exists_mapM
    intro path hpath
    obtain ⟨q, hq, rfl⟩ := List.mem_map.mp ((mem_filterM hpicked).mp hpath).1
    exact hreal q hq
  obtain ⟨files, hfiles⟩ := hfiles
  exact ⟨files, bind_eq_ok.mpr ⟨matched, rfl, bind_eq_ok.mpr ⟨picked, hpicked, hfiles⟩⟩⟩

/-- Where all paths that match are spellings of the path of one file, that file is selected. -/
theorem outcome_collect_of_spellings {matched : List Text} (hignore : s.ignorePatterns = [])
    (hfind : Glob.find ws (ws.expandHome p) = .ok matched) (hne : matched ≠ [])
    (hsame : ∀ q ∈ matched, Path.ofText q = Path.ofText p)
    (hfile : ws.isKind Entry.isFile (Path.ofText p).text = .ok true)
    (hreal : ws.realFile (.ofText p) = .ok l.path) :
    ((s.named p).collect ws).outcome = .ok [l.path] := by
  have hfiles : ∃ files, (s.named p).filesOfPattern ws p = .ok files := by
    apply exists_filesOfPattern hfind
    · exact fun q hq => ⟨true, by rw [hsame q hq, hfile]⟩
    · exact fun q hq => ⟨l.path, by rw [hsame q hq, hreal]⟩
  obtain ⟨_, hfiles⟩ := hfiles
  obtain ⟨files, hcollect⟩ := exists_outcome_collect_named hfiles
  obtain ⟨hnodup, hlists⟩ := lists_collect hcollect
  have hpicks : (s.named p).Picks ws p (.ofText p) := by
    obtain ⟨q, hq⟩ := List.exists_mem_of_ne_nil matched hne
    refine ⟨⟨matched, hfind, hsame q hq ▸ List.mem_map_of_mem hq⟩, hfile, ?_⟩
    rw [show (s.named p).ignorePatterns = [] from hignore]
    rfl
  have hmem : ∀ file, file ∈ files ↔ file ∈ [l.path] := by
    intro file
    rw [List.mem_singleton]
    constructor
    · intro hmem
      obtain ⟨path, hselects, hplace⟩ := hlists.only file hmem
      obtain ⟨⟨matched', hfind', hpath⟩, -, -⟩ := selects_named_iff.mp hselects
      obtain rfl := Except.ok.inj (hfind.symm.trans hfind')
      obtain ⟨q, hq, rfl⟩ := List.mem_map.mp hpath
      rw [hsame q hq, hreal] at hplace
      exact (Except.ok.inj hplace).symm
    · rintro rfl
      obtain ⟨file, hmem, hplace⟩ := hlists.all _ (selects_named_iff.mpr hpicks)
      obtain rfl := Except.ok.inj (hreal.symm.trans hplace)
      exact hmem
  rw [hcollect, List.perm_singleton.mp
    ((List.perm_ext_iff_of_nodup hnodup (List.nodup_singleton _)).mpr hmem)]

/-- A path with a class is not picked by itself. -/
theorem not_picks_of_hasClass (h : ws.Sound) (htilde : p.head? ≠ some '~') (hstar : '*' ∉ p)
    (hany : '?' ∉ p) (hnull : Char.ofNat 0 ∉ p) (hend : endsWith p ['/'] = false) {part : Text}
    (hpart : part ∈ namesIn p) (hclass : Glob.hasClass part = true) :
    ¬ s.Picks ws p (.ofText p) := by
  rintro ⟨⟨matched, hfind, hmem⟩, -, -⟩
  rw [Workspace.expandHome_of_head htilde] at hfind
  obtain ⟨matched', hfind', hmatches⟩ := Glob.exists_search h (.inr hend) hnull (p.length + 1) false
  obtain rfl := Except.ok.inj (hfind.symm.trans hfind')
  obtain ⟨q, hq, hsame⟩ := List.mem_map.mp hmem
  exact (hmatches q hq).ne_of_hasClass hstar hany hpart hclass hsame

end Selection

/-- A file that is named by a path without stars, question marks and a tilde is selected, and nothing
else, unless a part of the path has a bracket class; then the path itself is not picked. -/
theorem named_file_is_selected_without_classes (h : ws.Sound) (c : Collection) {s : Selection}
    (hignore : s.ignorePatterns = []) (hstar : '*' ∉ p) (hany : '?' ∉ p) (htilde : p.head? ≠ some '~')
    (hfile : ws.stat p = .ok (.file content)) :
    ∃ l, ws.realFile (.ofText p) = .ok l.path ∧ ws.files.get? l = some (.file content) ∧
      ((∀ part ∈ namesIn p, Glob.hasClass part = false) →
        ((c.configure (s.named p)).files ws).2.outcome = .ok [l.path]) ∧
      ((∃ part ∈ namesIn p, Glob.hasClass part = true) →
        ¬ (s.named p).Picks ws p (.ofText p)) := by
  obtain ⟨⟨l, e⟩, hentry, rfl⟩ := map_eq_ok.mp hfile
  have hplace := h.get?_of_entryAt hentry
  have hspelled := Workspace.entryAt_text_ofText hentry
  have hreach := h.reaches_of_entryAt (Workspace.ne_link_of_entryAt hspelled) hspelled
  have hreal := h.realFile_of_realPath (h.realPath_of_reaches hreach) hplace (by simp)
  refine ⟨l, hreal, hplace, fun hnone => ?_, fun ⟨part, hpart, hclass⟩ => ?_⟩
  · have hplain : ∀ part ∈ namesIn p, Glob.IsPlain part := by
      intro part hpart
      have hsubset : part ⊆ p := subset_of_mem_splitOn (List.mem_of_mem_filter hpart)
      exact Glob.isPlain_of_not_hasClass (fun hmem => hstar (hsubset hmem))
        (fun hmem => hany (hsubset hmem)) (hnone part hpart)
    obtain ⟨matched, hfind, hne, hsame⟩ := Glob.exists_find h hplain hentry
    have hkind : ws.isKind Entry.isFile (Path.ofText p).text = .ok true := by
      rw [Workspace.isKind_isFile_iff, Workspace.stat, hspelled]
      exact ⟨content, rfl⟩
    rw [files_configure]
    rw [← ws.expandHome_of_head htilde] at hfind
    exact Selection.outcome_collect_of_spellings hignore hfind hne hsame hkind hreal
  · obtain ⟨hpath, -⟩ := Workspace.entryAt_eq_ok_iff.mp hentry
    exact Selection.not_picks_of_hasClass h htilde hstar hany hpath.null
      (Workspace.endsWith_slash_of_file hentry) hpart hclass

/-- Two files with brackets in their names, of which one is closed. -/
def bracketed : Workspace :=
  { files := ⟨[(["w".toList], .directory), (["w".toList, "src".toList], .directory),
      (["w".toList, "src".toList, "a[1].php".toList], .file [63]),
      (["w".toList, "src".toList, "b[.php".toList], .file [63])]⟩
    workingDirectory := ["w".toList]
    homes := [] }

theorem sound_bracketed : bracketed.Sound :=
  ⟨FileSystem.sound_of_stands (by decide), rfl⟩

/-- A bracket that is not closed stands for itself, and a class does not. -/
theorem file_with_open_bracket_is_selected :
    ((({} : Collection).configure (({} : Selection).named "src/b[.php".toList)).files
        bracketed).2.outcome = .ok [.ofText "/w/src/b[.php".toList] ∧
      ¬ (({} : Selection).named "src/a[1].php".toList).Picks bracketed "src/a[1].php".toList
        (.ofText "src/a[1].php".toList) := by
  constructor
  · have hfile : bracketed.stat "src/b[.php".toList = .ok (.file [63]) := by decide +kernel
    obtain ⟨l, hreal, -, hselected, -⟩ := named_file_is_selected_without_classes sound_bracketed {}
      (s := {}) rfl (by decide) (by decide) (by decide) hfile
    have hplace : bracketed.realFile (.ofText "src/b[.php".toList) =
        .ok (.ofText "/w/src/b[.php".toList) := by decide +kernel
    rw [hselected (by decide +kernel), Except.ok.inj (hreal.symm.trans hplace)]
  · have hfile : bracketed.stat "src/a[1].php".toList = .ok (.file [63]) := by decide +kernel
    obtain ⟨-, -, -, -, hnot⟩ := named_file_is_selected_without_classes sound_bracketed {}
      (s := {}) rfl (by decide) (by decide) (by decide) hfile
    exact hnot ⟨"a[1].php".toList, by decide +kernel, by decide +kernel⟩

/-- A file whose path has a class is not selected by its path. -/
theorem file_with_class_is_not_selected :
    bracketed.Sound ∧ bracketed.stat "src/a[1].php".toList = .ok (.file [63]) ∧
      ((({} : Collection).configure { files := ["src/a[1].php".toList] }).files bracketed).2.outcome =
        .ok [] :=
  ⟨sound_bracketed, by decide +kernel, by decide +kernel⟩

end SourceAtlas
