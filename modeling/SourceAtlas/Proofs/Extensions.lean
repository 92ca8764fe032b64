import SourceAtlas.Proofs.LowerCase
import SourceAtlas.Proofs.Offered
import SourceAtlas.Proofs.Params.Items

/-!
# Files by their extension

A walk compares what follows the last dot of a name, in lower case, with the extensions that are asked
for.  So every file is collected whose extension is accepted and holds no dot, and of the others those
whose last part is asked for as well.
-/

namespace SourceAtlas

open Text Workspace

/-! ## Extensions of names -/

namespace Text

/-- What follows the last dot of a text, or the text itself if it holds none. -/
def afterLastDot (t : Text) : Text := (splitOn '.' t).getLast (splitOn_ne_nil '.' t)

theorem afterLastDot_of_not_mem {t : Text} (h : '.' ∉ t) : afterLastDot t = t := by
  simp only [afterLastDot, splitOn_of_not_mem h, List.getLast_singleton]

theorem not_mem_afterLastDot (t : Text) : '.' ∉ afterLastDot t :=
  not_mem_of_mem_splitOn (List.getLast_mem (splitOn_ne_nil '.' t))

theorem afterLastDot_subset (t : Text) : afterLastDot t ⊆ t :=
  subset_of_mem_splitOn (List.getLast_mem (splitOn_ne_nil '.' t))

theorem afterLastDot_lowerAscii (t : Text) : afterLastDot (lowerAscii t) = lowerAscii (afterLastDot t) := by
  simp only [afterLastDot, splitOn_lowerAscii, List.getLast_map]

end Text

/-- A name has an extension, in whatever case the ASCII letters of that are written.  What stands before it
is not empty, and is not what hides a name. -/
inductive HasExtension (e : Text) : Text → Prop
  | intro (n written : Text) (hne : n ≠ []) (hdot : n.head? ≠ some '.')
      (hcase : lowerAscii written = lowerAscii e) : HasExtension e (n ++ '.' :: written)

/-- The suffix of a name goes back to the last dot. -/
theorem Path.suffixOf_append {n : Text} (hne : n ≠ []) (hdot : n.head? ≠ some '.') (e : Text) :
    suffixOf (n ++ '.' :: e) = if afterLastDot e = [] then [] else '.' :: afterLastDot e := by
  obtain ⟨c, cs, rfl⟩ := List.exists_cons_of_ne_nil hne
  have hc : c ≠ '.' := by simpa using hdot
  obtain ⟨first, rest, hsplit, hfirst⟩ : ∃ first rest, splitOn '.' (c :: cs) = first :: rest ∧
      first ≠ [] := by
    rw [splitOn, if_neg hc]
    split
    · exact ⟨_, _, rfl, by simp⟩
    · exact ⟨_, _, rfl, by simp⟩
  have hlast : (rest ++ splitOn '.' e).getLast? = some (afterLastDot e) := by
    rw [afterLastDot, ← List.getLast?_eq_some_getLast (splitOn_ne_nil '.' e)]
    rw [List.getLast?_append_of_ne_nil _ (splitOn_ne_nil '.' e)]
  rw [suffixOf, splitOn_append_cons, hsplit, List.cons_append]
  dsimp only
  rw [hlast]
  cases afterLastDot e with
  | nil => rfl
  | cons d ds => simp [hfirst]

theorem HasExtension.kindOf_eq {e name : Text} (h : HasExtension e name) (hlower : ∀ c ∈ e, IsLower c)
    {p : Path} (hp : p.name = name) : Selection.kindOf p = afterLastDot e := by
  obtain ⟨n, written, hne, hdot, hcase⟩ := h
  rw [lowerAscii_eq_self hlower] at hcase
  have hpart : lowerAscii (afterLastDot written) = afterLastDot e := by
    rw [← afterLastDot_lowerAscii, hcase]
  rw [Selection.kindOf, Path.suffix, hp, Path.suffixOf_append hne hdot]
  split
  · next hnil =>
      rw [← hpart, hnil]
      rfl
  · have hword : lowerAscii ('.' :: afterLastDot written) = '.' :: afterLastDot e := by
      rw [← hpart]
      rfl
    have hletters : ∀ c ∈ '.' :: afterLastDot e, IsLower c :=
      List.forall_mem_cons.mpr ⟨isLower_ascii (by decide) rfl, fun c hc => hlower c (afterLastDot_subset e hc)⟩
    rw [lower_eq_lowerAscii (by rwa [hword]), hword, List.dropWhile_cons_of_pos (by simp)]
    cases hlast : afterLastDot e with
    | nil => rfl
    | cons d ds =>
        have hd : d ≠ '.' := by
          rintro rfl
          exact not_mem_afterLastDot e (by simp [hlast])
        exact List.dropWhile_cons_of_neg (by simpa using hd)

/-! ## Accepted extensions -/

/-- A text that can be an extension: it does not begin with a dot and holds no capital letters. -/
structure IsExtension (e : Text) : Prop where
  ne_nil : e ≠ []
  dot : e.head? ≠ some '.'
  lower : ∀ c ∈ e, IsLower c

namespace Config

variable {params : Params} {c : Config}

theorem isExtension_of_checkExtensions {v : Value} {items : List Text}
    (h : checkExtensions v = .ok items) : ∀ e ∈ items, IsExtension e := by
  obtain ⟨given, -, h⟩ := bind_eq_ok.mp h
  dsimp only at h
  split at h
  · cases h
  · next hempty =>
      obtain rfl := Except.ok.inj h
      intro e he
      obtain ⟨t, -, rfl⟩ := List.mem_map.mp he
      refine ⟨fun hnil => hempty ?_, fun hdot => ?_, fun _ => isLower_of_mem_lower⟩
      · rw [List.contains_iff_mem, ← hnil]
        exact he
      · have hfirst := List.head?_dropWhile_not (· == '.') t
        rw [head?_lower hdot (by decide)] at hfirst
        simp at hfirst

/-- The extensions of an accepted configuration can be extensions. -/
theorem isExtension_of_mem (h : ofParams params = .ok c) : ∀ e ∈ c.extensions, IsExtension e := by
  have hchecked := (checked_of_ofParams h).1
  obtain hdefault | ⟨v, hv⟩ := checked_cases (congrArg Checked.issues hchecked)
  · have hletters : ∀ e ∈ ({} : Config).extensions, e ≠ [] ∧ e.head? ≠ some '.' ∧
        e.all (fun c => c.toNat < 128 && c.toLower == c) := by decide
    rw [hchecked] at hdefault
    rw [show c.extensions = _ from hdefault]
    intro e he
    obtain ⟨hne, hdot, hlower⟩ := hletters e he
    refine ⟨hne, hdot, fun c hc => ?_⟩
    have hascii := List.all_eq_true.mp hlower c hc
    rw [Bool.and_eq_true, decide_eq_true_eq, beq_iff_eq] at hascii
    exact isLower_ascii hascii.1 hascii.2
  · rw [hchecked] at hv
    exact isExtension_of_checkExtensions hv

/-- The kinds of files that a walk collects are the accepted extensions. -/
theorem kinds_toOptions (h : ofParams params = .ok c) : c.toOptions.selection.kinds = c.extensions := by
  have hsame : ∀ e ∈ c.extensions, (Text.lower e).dropWhile (· = '.') = e := by
    intro e he
    obtain ⟨hne, hdot, hlower⟩ := isExtension_of_mem h e he
    rw [lower_eq_self hlower]
    cases e with
    | nil => rfl
    | cons d ds => exact List.dropWhile_cons_of_neg (by simpa using hdot)
  exact (List.map_congr_left hsame).trans (List.map_id' _)

end Config

/-! ## Files directly in a directory -/

/-- A directory that is to be walked leads to a location, and directly there stands a file. -/
inductive Workspace.StandsIn (ws : Workspace) (directory : Text) (l : Location) (name : Text) : Prop
  | intro (root : Path) (content : Bytes)
      (hroot : ws.expandHomePath? (.ofText directory) = some root)
      (hleads : ws.entryAt true root.text = .ok (l, .directory))
      (hfile : ws.files.get? (l ++ [name]) = some (.file content)) : StandsIn ws directory l name

namespace Selection

variable {s : Selection} {ws : Workspace} {directory name : Text} {root p : Path} {l : Location}

theorem Gathers.kindOf_mem (h : s.Gathers ws directory p) : kindOf p ∈ s.kinds := by
  obtain ⟨-, -, -, hcollects⟩ := h
  exact List.contains_iff_mem.mp (collects_eq_true_iff.mp hcollects).2.1

/-- Nothing but its kind keeps a walk from a file in its root that is not hidden, if no pattern ignores
any. -/
theorem admits_of_not_ignored (hignore : s.ignorePatterns = []) (hshown : Glob.isHidden name = false)
    (hkind : kindOf (below root [name]) ∈ s.kinds) : s.admits root [name] = true := by
  refine admits_iff.mpr ⟨hkind, fun _ n hn => ?_, fun ms _ _ => ?_⟩
  · rwa [List.mem_singleton.mp hn]
  · rw [hignore]
    rfl

/-- A file in the root of a walk that does not fail is gathered if it is admitted. -/
theorem gathers_of_admits {content : Bytes} (hsound : ws.Sound)
    (hroot : ws.expandHomePath? (.ofText directory) = some root)
    (hleads : ws.entryAt true root.text = .ok (l, .directory))
    (hfile : ws.files.get? (l ++ [name]) = some (.file content))
    (hadmits : s.admits root [name] = true) {found : List Path}
    (hfound : (s.filesOfDirectory ws directory).outcome = .ok found) :
    s.Gathers ws directory (below root [name]) ∧
      ws.realFile (below root [name]) = .ok (Location.path (l ++ [name])) := by
  have hnames := isProperName_of_expandHomePath?_ofText hroot
  have hisDirectory := isDirectory_of_entryAt hleads
  rw [outcome_filesOfDirectory hroot hisDirectory] at hfound
  obtain ⟨picked, hpicked, -⟩ := bind_eq_ok.mp hfound
  have hlist : ws.CanList root [] := by
    intro ms hms
    rwa [List.prefix_nil.mp hms, below_nil]
  obtain ⟨hwalk, hcollects⟩ := collected_of_admits hsound hnames hleads hfile hadmits hlist
    fun p hp => exists_of_filterM hpicked hp
  refine ⟨.intro hroot ?_ hwalk hcollects, realFile_below hsound hnames hleads hfile⟩
  rw [isKind, isDirectory_iff.mp hisDirectory]
  rfl

end Selection

theorem HasExtension.isHidden {e name : Text} (h : HasExtension e name) :
    Glob.isHidden name = false := by
  obtain ⟨n, written, hne, hdot, -⟩ := h
  rw [Glob.isHidden, List.head?_append_of_ne_nil _ hne]
  simp [hdot]

namespace Config

variable {params : Params} {c : Config}

/-- Without ignore patterns, a walk gathers a file directly in its directory, of which the name has an
accepted extension, exactly if the last part of the extension is accepted.  So it is collected whenever
the collection succeeds, in particular if the extension holds no dot. -/
theorem files_of_accepted_extensions (h : ofParams params = .ok c) (hignore : c.ignore = [])
    {ws : Workspace} (hsound : ws.Sound) (collection : Collection) :
    (c.filename = [] → (∀ d ∈ c.directory, ∃ root l,
        ws.expandHomePath? (.ofText d) = some root ∧ ws.PlainRoot root l) →
      ∃ files, ((collection.configure c.toOptions.selection).files ws).2.outcome = .ok files) ∧
    ∀ files, ((collection.configure c.toOptions.selection).files ws).2.outcome = .ok files →
      ∀ e ∈ c.extensions, ∀ d ∈ c.directory, ∀ l name, HasExtension e name → ws.StandsIn d l name →
        ((∃ p : Path, p.name = name ∧ c.toOptions.selection.Gathers ws d p) ↔
          afterLastDot e ∈ c.extensions) ∧
        (afterLastDot e ∈ c.extensions → Location.path (l ++ [name]) ∈ files) ∧
        ('.' ∉ e → Location.path (l ++ [name]) ∈ files) := by
  rw [files_configure]
  refine ⟨fun hfiles hplain => ?_, fun files hfiles e he d hd l name hname hstands => ?_⟩
  · refine Selection.exists_collect_of_canSearch ⟨fun pattern hpattern => ?_, fun d hd => ?_⟩
    · rw [show c.toOptions.selection.files = [] from hfiles] at hpattern
      cases hpattern
    · obtain ⟨root, l, hroot, hplain⟩ := hplain d hd
      obtain ⟨found, hfound, -⟩ := Selection.exists_filesOfDirectory hsound hroot hplain
      exact ⟨found, hfound⟩
  · obtain ⟨root, content, hroot, hleads, hfile⟩ := hstands
    have hkind : ∀ {p : Path}, p.name = name → Selection.kindOf p = afterLastDot e :=
      fun hp => hname.kindOf_eq (isExtension_of_mem h e he).lower hp
    have hbelow : (Selection.below root [name]).name = name := Selection.name_below root [] name
    obtain ⟨found, hfound⟩ :=
      ((Selection.collect_eq_ok_iff hsound.segments).mp hfiles).1.directories d hd
    obtain ⟨-, hlists⟩ := Selection.lists_collect hfiles
    have hgathers : afterLastDot e ∈ c.extensions →
        c.toOptions.selection.Gathers ws d (Selection.below root [name]) ∧
          ws.realFile (Selection.below root [name]) = .ok (Location.path (l ++ [name])) := by
      intro hlast
      refine Selection.gathers_of_admits hsound hroot hleads hfile ?_ hfound
      refine Selection.admits_of_not_ignored hignore hname.isHidden ?_
      rwa [hkind hbelow, kinds_toOptions h]
    have hreturned : afterLastDot e ∈ c.extensions → Location.path (l ++ [name]) ∈ files := by
      intro hlast
      obtain ⟨hgathered, hreal⟩ := hgathers hlast
      obtain ⟨file, hmem, hreal'⟩ := hlists.all _ (.gathered hd hgathered)
      rwa [Except.ok.inj (hreal.symm.trans hreal')]
    refine ⟨⟨?_, fun hlast => ?_⟩, hreturned, fun hdot => hreturned ?_⟩
    · rintro ⟨p, hp, hgathered⟩
      rw [← hkind hp, ← kinds_toOptions h]
      exact hgathered.kindOf_mem
    · exact ⟨_, hbelow, (hgathers hlast).1⟩
    · rwa [afterLastDot_of_not_mem hdot]

/-- Parameters for a walk of a directory, and for the extensions that it collects. -/
def paramsCollecting (directory extensions : Text) : Params :=
  [("directory".toList, .text directory), ("extensions".toList, .text extensions)]

/-- The configuration that they are. -/
def collecting (directory : Text) (extensions : List Text) : Config :=
  { directory := [directory], extensions := extensions }

/-- A working directory with two files in a directory, one of them of a compound extension. -/
def archived : Workspace :=
  { files := ⟨[(["w".toList], .directory), (["w".toList, "src".toList], .directory),
      (["w".toList, "src".toList, "a.tar.gz".toList], .file [31]),
      (["w".toList, "src".toList, "b.Php".toList], .file [63])]⟩
    workingDirectory := ["w".toList]
    homes := [] }

theorem sound_archived : archived.Sound :=
  ⟨FileSystem.sound_of_stands (by decide), rfl⟩

/-- Whichever case an extension is given and written in, the file that has it is collected. -/
theorem file_in_another_case_is_collected :
    ofParams (paramsCollecting "src".toList ".PHP, inc".toList) =
        .ok (collecting "src".toList ["php".toList, "inc".toList]) ∧
      HasExtension "php".toList "b.Php".toList ∧
      archived.StandsIn "src".toList ["w".toList, "src".toList] "b.Php".toList ∧
      ∃ files, ((({} : Collection).configure (collecting "src".toList
          ["php".toList, "inc".toList]).toOptions.selection).files archived).2.outcome = .ok files ∧
        .ofText "/w/src/b.Php".toList ∈ files := by
  have h : ofParams (paramsCollecting "src".toList ".PHP, inc".toList) =
      .ok (collecting "src".toList ["php".toList, "inc".toList]) :=
    toOption_eq_some.mp (by decide +kernel)
  have hname : HasExtension "php".toList "b.Php".toList :=
    .intro ['b'] ['P', 'h', 'p'] (by decide) (by decide) (by decide)
  have hstands : archived.StandsIn "src".toList ["w".toList, "src".toList] "b.Php".toList :=
    .intro (.ofText "src".toList) [63] rfl (by decide +kernel) rfl
  have hfiles : ((({} : Collection).configure (collecting "src".toList
      ["php".toList, "inc".toList]).toOptions.selection).files archived).2.outcome =
        .ok [.ofText "/w/src/b.Php".toList] := by decide +kernel
  exact ⟨h, hname, hstands, _, hfiles, ((files_of_accepted_extensions h rfl sound_archived {}).2 _
    hfiles _ (by decide) _ (by decide) _ _ hname hstands).2.2 (by decide)⟩

/-- An extension of two parts is accepted, but no file that has it is collected. -/
theorem compound_extension_is_not_collected :
    ofParams (paramsCollecting "src".toList "tar.gz".toList) =
        .ok (collecting "src".toList ["tar.gz".toList]) ∧
      HasExtension "tar.gz".toList "a.tar.gz".toList ∧
      archived.StandsIn "src".toList ["w".toList, "src".toList] "a.tar.gz".toList ∧
      ((({} : Collection).configure (collecting "src".toList
          ["tar.gz".toList]).toOptions.selection).files archived).2.outcome = .ok [] :=
  ⟨toOption_eq_some.mp (by decide +kernel),
    .intro ['a'] ['t', 'a', 'r', '.', 'g', 'z'] (by decide) (by decide) (by decide),
    .intro (.ofText "src".toList) [31] rfl (by decide +kernel) rfl, by decide +kernel⟩

end Config

end SourceAtlas
