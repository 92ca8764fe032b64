import SourceAtlas.Proofs.FileSystem.Written
import SourceAtlas.Proofs.Gaining

/-!
# Paths that match once a file is written

Once a file is written, the paths that match a pattern are those that matched before, in their order,
and between them paths that pass through the file.
-/

namespace SourceAtlas

open Text

namespace Workspace

/-- A path without null characters that passes through a location. -/
structure Crosses (ws : Workspace) (place : Location) (t : Text) : Prop where
  null : Char.ofNat 0 ∉ t
  through : ws.PassesThrough t place

/-- A path with a null character denotes nothing. -/
theorem entryAt_of_null {ws : Workspace} {t : Text} (h : Char.ofNat 0 ∈ t) (follow : Bool) :
    ws.entryAt follow t = .error .nullCharacter := by
  rw [entryAt, lookup_eq_nullCharacter_iff.mpr h]
  rfl

theorem null_of_list {ws : Workspace} {t : Text} (h : ws.list t = .error .nullCharacter) :
    Char.ofNat 0 ∈ t := by
  rw [list] at h
  split at h
  · cases h
  · cases h
  · next r hentry =>
      obtain rfl := Except.error.inj h
      rw [← stat_eq_nullCharacter_iff, stat, hentry]
      rfl

theorem null_of_hasEntry {ws : Workspace} {t : Text} (h : ws.hasEntry t = true) :
    Char.ofNat 0 ∉ t := by
  intro hnull
  rw [hasEntry, linkStat, entryAt_of_null hnull] at h
  cases h

end Workspace

namespace Glob

/-! ## Names below a directory -/

/-- Where a name is put below a directory, its names come last. -/
theorem namesOf_joinText {directory name : Text} (h : '/' ∉ name) :
    Path.namesOf (joinText directory name) = Path.namesOf directory ++ Path.namesOf name := by
  have hhead : name.head? ≠ some '/' := fun hhead => h (List.mem_of_head? hhead)
  rw [joinText, if_neg hhead]
  split
  · next hend =>
      simp only [Bool.or_eq_true, decide_eq_true_eq] at hend
      obtain rfl | hend := hend
      · rfl
      · obtain ⟨front, rfl⟩ := List.isSuffixOf_iff_suffix.mp hend
        have hfront := Path.namesOf_append front []
        have hall := Path.namesOf_append front name
        rw [show front ++ ['/'] ++ name = front ++ '/' :: name by simp, hall, hfront]
        rw [show Path.namesOf ([] : Text) = [] from rfl, List.append_nil]
  · exact Path.namesOf_append directory name

theorem startOf_joinText {directory name : Text} (h : '/' ∉ name) (l : Location) :
    FileSystem.startOf (joinText directory name) l = FileSystem.startOf directory l := by
  have hhead : name.head? ≠ some '/' := fun hhead => h (List.mem_of_head? hhead)
  cases directory with
  | nil =>
      rw [joinText, if_neg hhead]
      exact if_neg hhead
  | cons c cs =>
      have hsame : (joinText (c :: cs) name).head? = some c := by
        rw [joinText, if_neg hhead]
        split <;> rfl
      rw [FileSystem.startOf, FileSystem.startOf, hsame]
      rfl

theorem joinText_nil (name : Text) : joinText [] name = name := by
  rw [joinText]
  split <;> rfl

theorem null_of_joinText {directory name : Text} (hdirectory : Char.ofNat 0 ∉ directory)
    (hname : Char.ofNat 0 ∉ name) : Char.ofNat 0 ∉ joinText directory name := by
  have hslash : Char.ofNat 0 ≠ '/' := by decide
  rw [joinText]
  split
  · exact hname
  · split
    · rw [List.mem_append, not_or]
      exact ⟨hdirectory, hname⟩
    · rw [List.mem_append, List.mem_cons, not_or, not_or]
      exact ⟨hdirectory, hslash, hname⟩

section Crossing

variable {ws : Workspace} {place : Location} {directory name : Text}

/-- What is below a directory beyond the file is beyond the file. -/
theorem crosses_joinText (h : ws.Crosses place directory) (hslash : '/' ∉ name)
    (hnull : Char.ofNat 0 ∉ name) : ws.Crosses place (joinText directory name) := by
  constructor
  · exact null_of_joinText h.null hnull
  · exact h.through.append (startOf_joinText hslash _) (namesOf_joinText hslash)

theorem isEntryName_of_mem_list (h : ws.Sound) {t : Text} {names : List Text}
    (hlist : ws.list t = .ok names) :
    ∀ m ∈ names, IsEntryName m := by
  intro m hm
  rw [Workspace.list] at hlist
  split at hlist
  · next l hentry =>
      obtain rfl := Except.ok.inj hlist
      obtain ⟨e, he⟩ := FileSystem.exists_of_mem_names hm
      exact h.files.names he m (by simp)
  · cases hlist
  · cases hlist

/-- A directory can be listed, or nothing is there to match. -/
theorem exists_namesIn (h : ws.Sound) (hnull : Char.ofNat 0 ∉ directory) :
    ∃ names, namesIn ws directory = .ok names ∧ ∀ m ∈ names, IsEntryName m := by
  rw [namesIn]
  cases hlist : ws.list (if directory = [] then ['.'] else directory) with
  | ok names => exact ⟨names, rfl, isEntryName_of_mem_list h hlist⟩
  | error r =>
      cases r with
      | nullCharacter =>
          have hlisted := Workspace.null_of_list hlist
          split at hlisted
          · exact absurd hlisted (by decide)
          · exact absurd hlisted hnull
      | _ => exact ⟨[], rfl, by simp⟩

/-- All names in a directory beyond the file are beyond the file. -/
theorem crosses_of_matchingNames (h : ws.Sound) (hcross : ws.Crosses place directory)
    (dirOnly : Bool) (part : Text) :
    ∃ names, matchingNames ws dirOnly part directory = .ok names ∧
      ∀ m ∈ names, ws.Crosses place (joinText directory m) := by
  obtain ⟨names, hnames, hentries⟩ := exists_namesIn h hcross.null
  rw [matchingNames, hnames]
  refine ⟨_, rfl, fun m hm => ?_⟩
  have hentry := hentries m (List.mem_of_mem_filter (List.mem_of_mem_filter hm))
  exact crosses_joinText hcross hentry.slash hentry.null

theorem crosses_of_givenName (hcross : ws.Crosses place directory) (hslash : '/' ∉ name) :
    ∀ m ∈ givenName ws name directory, ws.Crosses place (joinText directory m) := by
  intro m hm
  rw [givenName] at hm
  split at hm
  · next hempty =>
      split at hm
      · obtain rfl := List.mem_singleton.mp hm
        exact crosses_joinText hcross hslash (by rw [hempty]; simp)
      · cases hm
  · split at hm
    · next hentry =>
        obtain rfl := List.mem_singleton.mp hm
        constructor
        · exact Workspace.null_of_hasEntry hentry
        · exact hcross.through.append (startOf_joinText hslash _) (namesOf_joinText hslash)
    · cases hm

end Crossing

/-! ## One directory -/

section Written

variable {ws ws' : Workspace} {d : Location} {n : Text} {content : Bytes}
  (h : ws.Writes d n content ws')
include h

/-- A directory has the names it had, and that of the file as its last one if that is new there. -/
theorem namesIn_cases (directory : Text) : namesIn ws' directory = namesIn ws directory ∨
    ∃ names, namesIn ws directory = .ok names ∧ namesIn ws' directory = .ok (names ++ [n]) ∧
      Char.ofNat 0 ∉ directory ∧ ws'.Reaches directory d := by
  rw [namesIn, namesIn]
  have hlist := h.list_cases (if directory = [] then ['.'] else directory)
  obtain ⟨r, r', hbefore, hafter, hnull⟩ | ⟨names, hbefore, hafter | ⟨hafter, hreaches⟩⟩ := hlist
  · left
    rw [hbefore, hafter]
    by_cases hr : r = .nullCharacter
    · rw [hr, hnull.mpr hr]
    · have hr' : r' ≠ .nullCharacter := fun heq => hr (hnull.mp heq)
      cases r <;> cases r' <;> first | rfl | exact absurd rfl hr | exact absurd rfl hr'
  · left
    rw [hbefore, hafter]
  · refine .inr ⟨names, by rw [hbefore], by rw [hafter], ?_, ?_⟩
    · intro hnull
      have hne : directory ≠ [] := List.ne_nil_of_mem hnull
      rw [if_neg hne, Workspace.list, Workspace.entryAt_of_null hnull] at hafter
      cases hafter
    · split at hreaches
      · next hempty =>
          subst hempty
          exact hreaches
      · exact hreaches

theorem regains_matchingNames (dirOnly : Bool) (part directory : Text) :
    Regains (fun _ => False) (fun m => ws'.Crosses (d ++ [n]) (joinText directory m))
      (matchingNames ws dirOnly part directory) (matchingNames ws' dirOnly part directory) := by
  have hsame : ∀ m, ws'.isDirectory (joinText directory m) = ws.isDirectory (joinText directory m) :=
    fun m => h.isDirectory _
  simp only [matchingNames, hsame]
  have hnames : Regains (fun _ : Reason => False)
      (fun m => ws'.Crosses (d ++ [n]) (joinText directory m))
      (namesIn ws directory) (namesIn ws' directory) := by
    obtain hsame | ⟨names, hbefore, hafter, hnull, hreaches⟩ := namesIn_cases h directory
    · rw [hsame]
      exact .refl _
    · rw [hbefore, hafter]
      apply Regains.gains
      apply Gains.concat
      have hchild : ws'.Reaches (joinText directory n) (d ++ [n]) := by
        apply hreaches.child h.name h.get?_place (by simp) (startOf_joinText h.name.slash _)
        rw [namesOf_joinText h.name.slash, Path.namesOf_name h.name.toIsProperName]
      exact ⟨null_of_joinText hnull h.name.null, hchild.passesThrough⟩
  apply hnames.bind
  intro names names' hgains
  exact .gains ((hgains.filter _).filter _)

theorem gains_givenName (name directory : Text) :
    Gains (fun m => ws'.Crosses (d ++ [n]) (joinText directory m)) (givenName ws name directory)
      (givenName ws' name directory) := by
  rw [givenName, givenName, h.isDirectory]
  split
  · exact .refl _
  · obtain hsame | ⟨hbefore, hafter, hreaches⟩ := h.hasEntry_cases (joinText directory name)
    · rw [hsame]
      exact .refl _
    · rw [hbefore, hafter]
      exact .of_extra (by simpa using ⟨Workspace.null_of_hasEntry hafter, hreaches.passesThrough⟩)

/-! ## Several directories -/

omit h in
theorem regains_gather {extra extra' : Text → Prop}
    {look look' : Text → Except Reason (List Text)} {directories directories' : List Text}
    (hgains : Gains extra directories directories')
    (hkept : ∀ directory, Regains (fun _ => False) (fun m => extra' (joinText directory m))
      (look directory) (look' directory))
    (hextra : ∀ directory, extra directory → ∃ names, look' directory = .ok names ∧
      ∀ m ∈ names, extra' (joinText directory m)) :
    Regains (fun _ => False) extra' (gather look directories) (gather look' directories') := by
  induction hgains with
  | nil => exact .refl _
  | kept directory _ ih =>
      rw [gather, gather]
      apply (hkept directory).bind
      intro names names' hnames
      apply ih.bind
      intro rest rest' hrest
      exact .gains ((hnames.map (joinText directory) fun _ hm => hm).append hrest)
  | @gained directory hdirectory _ _ _ ih =>
      obtain ⟨names, hnames, hcross⟩ := hextra directory hdirectory
      rw [gather, hnames]
      apply ih.gain
      intro rest rest' hrest
      have hfound : Gains extra' [] (names.map (joinText directory)) := by
        apply Gains.of_extra
        intro t ht
        obtain ⟨m, hm, rfl⟩ := List.mem_map.mp ht
        exact hcross m hm
      exact hfound.append hrest

/-- What matches the last part of a pattern in directories, if it has wildcards or not. -/
theorem regains_lookIn (dirOnly : Bool) {part : Text} (hslash : '/' ∉ part)
    {directories directories' : List Text}
    (hgains : Gains (ws'.Crosses (d ++ [n])) directories directories') :
    Regains (fun _ => False) (ws'.Crosses (d ++ [n]))
      (if hasWildcard part = true then gather (matchingNames ws dirOnly part) directories
        else gather (fun directory => pure (givenName ws part directory)) directories)
      (if hasWildcard part = true then gather (matchingNames ws' dirOnly part) directories'
        else gather (fun directory => pure (givenName ws' part directory)) directories') := by
  split
  · apply regains_gather hgains
    · exact fun directory => regains_matchingNames h dirOnly part directory
    · exact fun directory hcross => crosses_of_matchingNames h.sound' hcross dirOnly part
  · apply regains_gather hgains
    · exact fun directory => .gains (gains_givenName h part directory)
    · exact fun directory hcross => ⟨_, rfl, crosses_of_givenName hcross hslash⟩

/-- The paths that match are those that matched, and others that pass through the file. -/
theorem regains_search (depth : Nat) (dirOnly : Bool) (pattern : Text) :
    Regains (fun _ => False) (ws'.Crosses (d ++ [n])) (search ws depth dirOnly pattern)
      (search ws' depth dirOnly pattern) := by
  induction depth generalizing dirOnly pattern with
  | zero => exact .refl _
  | succ depth ih =>
      have hslash := Workspace.slash_of_splitPath pattern
      rw [search, search]
      generalize splitPath pattern = parts at hslash ⊢
      obtain ⟨directory, part⟩ := parts
      dsimp only at hslash ⊢
      split
      · -- Without wildcards the pattern is there or not.
        rw [h.isDirectory]
        split
        · exact .refl _
        · obtain hsame | ⟨hbefore, hafter, hreaches⟩ := h.hasEntry_cases pattern
          · rw [hsame]
            exact .refl _
          · rw [hbefore, hafter]
            apply Regains.gains
            apply Gains.of_extra
            simpa using ⟨Workspace.null_of_hasEntry hafter, hreaches.passesThrough⟩
      · split
        · simpa only [joinText_nil] using regains_matchingNames h dirOnly part []
        · split
          · exact (ih true directory).bind fun _ _ => regains_lookIn h dirOnly hslash
          · exact regains_lookIn h dirOnly hslash (.refl _)

theorem regains_find (pattern : Text) :
    Regains (fun _ => False) (ws'.Crosses (d ++ [n])) (find ws pattern) (find ws' pattern) :=
  regains_search h _ _ _

end Written

end Glob

end SourceAtlas
