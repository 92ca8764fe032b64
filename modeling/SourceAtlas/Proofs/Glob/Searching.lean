import SourceAtlas.Proofs.FileSystem.Splitting
import SourceAtlas.Proofs.Glob.Parts
import SourceAtlas.Proofs.Matching
import SourceAtlas.Proofs.Relisting

/-!
# What a search finds

A search gives paths that match its pattern part by part.  A pattern whose parts match nothing but
themselves gives the path that it spells, if something is there.
-/

namespace SourceAtlas.Glob

open Text FileSystem

variable {ws : Workspace} {pattern directory part q n : Text} {dirOnly : Bool} {depth : Nat}

/-! ## Names below a directory -/

/-- A part of a pattern stands for itself, or with wildcards for the names in a directory that it
matches. -/
def Stands (part n : Text) : Prop :=
  hasWildcard part = false ∧ n = part ∨ IsEntryName n ∧ matchesText part n = true

theorem Stands.matchesText (h : Stands part n) : matchesText part n = true := by
  obtain ⟨hplain, rfl⟩ | ⟨-, hmatches⟩ := h
  · exact (isPlain_of_not_hasWildcard hplain n).mpr rfl
  · exact hmatches

/-- A name that is found below a directory for a part of a pattern. -/
structure IsNameFor (part n : Text) : Prop where
  stands : Stands part n
  ne_nil : n ≠ []
  slash : '/' ∉ n
  null : Char.ofNat 0 ∉ n

/-- A name without slashes below a directory is what the directory precedes. -/
theorem splits_joinText (hlead : IsLead directory) (hslash : '/' ∉ n) :
    Splits (joinText directory n) directory n := by
  rw [joinText, if_neg fun hhead => hslash (List.mem_of_head? hhead)]
  by_cases hempty : directory = []
  · rw [hempty]
    exact .name n
  · obtain hslashes | hend := hlead
    · have hends := endsWith_append_slashes [] hempty hslashes
      rw [List.nil_append] at hends
      rw [hends, Bool.or_true, if_pos rfl]
      exact .anchored n hempty hslashes
    · rw [hend, Bool.or_false, if_neg (by simpa using hempty)]
      exact .below [] n hempty hend (by simp)

/-! ## Paths that match -/

/-- A path that matches a pattern: it begins and ends like the pattern, and the parts of the pattern
stand for its names. -/
structure Matches (pattern q : Text) : Prop where
  anchor : Anchor.ofText q = Anchor.ofText pattern
  names : List.Forall₂ Stands (FileSystem.namesIn pattern) (FileSystem.namesIn q)
  ends : endsWith q ['/'] = endsWith pattern ['/']
  null : Char.ofNat 0 ∉ q

namespace Matches

theorem refl_of_hasWildcard (h : hasWildcard pattern = false) (hnull : Char.ofNat 0 ∉ pattern) :
    Matches pattern pattern := by
  refine ⟨rfl, List.forall₂_same.mpr fun n hn => .inl ⟨?_, rfl⟩, rfl, hnull⟩
  rw [hasWildcard, List.any_eq_false] at h ⊢
  exact fun c hc => h c (subset_of_mem_splitOn (List.mem_of_mem_filter hn) hc)

/-- What matches something that precedes a name can precede one. -/
theorem isLead (h : Matches pattern q) (hlead : IsLead pattern) : IsLead q := by
  obtain hslashes | hend := hlead
  · left
    have hnames := h.names
    rw [namesIn_eq_nil_iff.mpr hslashes, List.forall₂_nil_left_iff] at hnames
    exact namesIn_eq_nil_iff.mp hnames
  · exact .inr (h.ends.trans hend)

theorem ne_nil (h : Matches pattern q) (hne : pattern ≠ []) : q ≠ [] := by
  rintro rfl
  have hslashes := namesIn_eq_nil_iff.mp (List.forall₂_nil_right_iff.mp h.names)
  obtain ⟨c, cs, rfl⟩ := List.exists_cons_of_ne_nil hne
  obtain rfl := hslashes c List.mem_cons_self
  exact Path.anchor_ofText_iff.mp h.anchor.symm rfl

theorem eq_nil (h : Matches [] q) : q = [] := by
  by_contra hne
  exact namesIn_ne_nil hne h.ends (List.forall₂_nil_left_iff.mp h.names)

/-- A name for which the last part stands, below a directory that what precedes the part matches. -/
theorem joinText (hpattern : Splits pattern directory part) (hpart : part ≠ [])
    (hslash : '/' ∉ part) (h : Matches directory q) (hn : IsNameFor part n) :
    Matches pattern (joinText q n) := by
  have hjoin := splits_joinText (h.isLead hpattern.isLead) hn.slash
  constructor
  · rw [hjoin.anchor_eq hn.slash, h.anchor, hpattern.anchor_eq hslash]
  · rw [hpattern.namesIn_eq, hjoin.namesIn_eq, namesIn_of_not_mem hpart hslash,
      namesIn_of_not_mem hn.ne_nil hn.slash]
    exact List.rel_append h.names (.cons hn.stands .nil)
  · rw [hjoin.endsWith_eq hn.ne_nil hn.slash, hpattern.endsWith_eq hpart hslash]
  · exact null_of_joinText h.null hn.null

end Matches

/-! ## One step of a search -/

/-- The names below a directory for which a part of a pattern stands. -/
def namesFor (ws : Workspace) (dirOnly : Bool) (part directory : Text) : Except Reason (List Text) :=
  if hasWildcard part then matchingNames ws dirOnly part directory
  else pure (givenName ws part directory)

/-- The directories in which a search looks. -/
def directoriesFor (ws : Workspace) (depth : Nat) (directory : Text) : Except Reason (List Text) :=
  if hasWildcard directory then search ws depth true directory else pure [directory]

theorem ne_nil_of_hasWildcard (h : hasWildcard pattern = true) : pattern ≠ [] := by
  rintro rfl
  cases h

/-- Wildcards are no slashes. -/
theorem endsWith_of_hasWildcard (hlead : IsLead pattern) (h : hasWildcard pattern = true) :
    endsWith pattern ['/'] = false := by
  apply hlead.resolve_left
  intro hslashes
  obtain ⟨c, hc, hcard⟩ := List.any_eq_true.mp h
  rw [hslashes c hc] at hcard
  cases hcard

section Gather

variable {look : Text → Except Reason (List Text)} {directories qs : List Text}

theorem exists_gather (h : ∀ d ∈ directories, ∃ names, look d = .ok names) :
    ∃ qs, gather look directories = .ok qs := by
  rw [gather_eq_concatM, exists_concatM_iff]
  intro d hd
  obtain ⟨names, hnames⟩ := h d hd
  exact ⟨_, by rw [hnames]; rfl⟩

theorem mem_gather (h : gather look directories = .ok qs) :
    q ∈ qs ↔ ∃ d ∈ directories, ∃ names, look d = .ok names ∧ ∃ n ∈ names, joinText d n = q := by
  rw [gather_eq_concatM] at h
  rw [mem_concatM h]
  refine exists_congr fun d => and_congr_right fun _ => ⟨?_, ?_⟩
  · rintro ⟨found, hfound, hq⟩
    obtain ⟨names, hnames, rfl⟩ := map_eq_ok.mp hfound
    exact ⟨names, hnames, List.mem_map.mp hq⟩
  · rintro ⟨names, hnames, hq⟩
    exact ⟨_, map_eq_ok.mpr ⟨names, hnames, rfl⟩, List.mem_map.mpr hq⟩

end Gather

theorem gather_nil (look : Text → Except Reason (List Text)) : gather look [[]] = look [] := by
  rw [gather, gather]
  cases look [] with
  | error r => rfl
  | ok names =>
      have hsame : names.map (joinText []) = names := by
        rw [funext joinText_nil, List.map_id']
      simp [Bind.bind, Except.bind, pure, Except.pure, hsame]

theorem gather_namesFor (dirOnly : Bool) (part : Text) (directories : List Text) :
    gather (namesFor ws dirOnly part) directories =
      if hasWildcard part = true then gather (matchingNames ws dirOnly part) directories
      else gather (fun d => pure (givenName ws part d)) directories := by
  have hlook : namesFor ws dirOnly part = if hasWildcard part = true then matchingNames ws dirOnly part
      else fun d => pure (givenName ws part d) := by
    funext d
    rw [namesFor]
    split <;> rfl
  rw [hlook]
  split <;> rfl

/-- A search for a pattern with wildcards looks for what its last part stands for, in the directories
that precede it. -/
theorem search_of_hasWildcard (h : hasWildcard pattern = true) (hlead : IsLead pattern) :
    search ws (depth + 1) dirOnly pattern =
      directoriesFor ws depth (splitPath pattern).1 >>=
        gather (namesFor ws dirOnly (splitPath pattern).2) := by
  have hsplits := splits_splitPath pattern
  have hlength := hsplits.length_lt
    (hsplits.part_ne_nil (ne_nil_of_hasWildcard h) (endsWith_of_hasWildcard hlead h))
  rw [search, directoriesFor, funext (gather_namesFor dirOnly _)]
  generalize splitPath pattern = parts at hsplits hlength ⊢
  obtain ⟨directory, part⟩ := parts
  have hne : directory ≠ pattern := fun heq => absurd hlength (by simp [heq])
  dsimp only at hsplits ⊢
  rw [h, Bool.not_true, if_neg (by decide)]
  by_cases hempty : directory = []
  · subst hempty
    rw [if_pos rfl, if_neg (by decide)]
    cases hsplits with
    | name =>
        have hstep := gather_nil (matchingNames ws dirOnly pattern)
        simpa only [h, if_true, pure_bind] using hstep.symm
    | anchored _ hnot => exact absurd rfl hnot
    | below _ _ hnot => exact absurd rfl hnot
  · rw [if_neg hempty, decide_eq_true hne, Bool.true_and]
    split <;> rfl

theorem search_of_not_hasWildcard (h : hasWildcard pattern = false) :
    search ws (depth + 1) dirOnly pattern =
      .ok (if (if (splitPath pattern).2 = [] then ws.isDirectory (splitPath pattern).1
        else ws.hasEntry pattern) = true then [pattern] else []) := by
  rw [search]
  simp [h]

/-! ## All that is found matches -/

theorem exists_namesFor (h : ws.Sound) (hpart : part ≠ []) (hslash : '/' ∉ part)
    (hnull : Char.ofNat 0 ∉ part) (dirOnly : Bool) (hdirectory : Char.ofNat 0 ∉ directory) :
    ∃ names, namesFor ws dirOnly part directory = .ok names ∧ ∀ n ∈ names, IsNameFor part n := by
  rw [namesFor]
  split
  · obtain ⟨names, hnames, hentries⟩ := exists_namesIn h hdirectory
    rw [matchingNames, hnames]
    refine ⟨_, rfl, fun n hn => ?_⟩
    obtain ⟨hn, hmatches⟩ := List.mem_filter.mp hn
    have hentry := hentries n (List.mem_of_mem_filter hn)
    exact ⟨.inr ⟨hentry, hmatches⟩, hentry.ne_nil, hentry.slash, hentry.null⟩
  · next hplain =>
      rw [Bool.not_eq_true] at hplain
      refine ⟨_, rfl, fun n hn => ?_⟩
      have hsame : n = part := by
        rw [givenName, if_neg hpart] at hn
        split at hn
        · exact List.mem_singleton.mp hn
        · cases hn
      subst hsame
      exact ⟨.inl ⟨hplain, rfl⟩, hpart, hslash, hnull⟩

/-- Where directories match what precedes the last part of a pattern, what is found in them matches the
pattern. -/
theorem exists_matches_of_directories (h : ws.Sound) (hsplits : Splits pattern directory part)
    (hpart : part ≠ []) (hslash : '/' ∉ part) (hnull : Char.ofNat 0 ∉ pattern) (dirOnly : Bool)
    {directories : List Text} (hmatches : ∀ d ∈ directories, Matches directory d) :
    ∃ qs, gather (namesFor ws dirOnly part) directories = .ok qs ∧ ∀ q ∈ qs, Matches pattern q := by
  have hnames : ∀ d ∈ directories, ∃ names, namesFor ws dirOnly part d = .ok names ∧
      ∀ n ∈ names, IsNameFor part n := fun d hd =>
    exists_namesFor h hpart hslash (fun hmem => hnull (hsplits.part_subset hmem)) dirOnly
      (hmatches d hd).null
  obtain ⟨qs, hqs⟩ : ∃ qs, gather (namesFor ws dirOnly part) directories = .ok qs := by
    apply exists_gather
    intro d hd
    obtain ⟨names, hok, -⟩ := hnames d hd
    exact ⟨names, hok⟩
  refine ⟨qs, hqs, fun q hq => ?_⟩
  obtain ⟨d, hd, names, hok, n, hn, rfl⟩ := (mem_gather hqs).mp hq
  obtain ⟨names', hok', hall⟩ := hnames d hd
  obtain rfl := Except.ok.inj (hok'.symm.trans hok)
  exact (hmatches d hd).joinText hsplits hpart hslash (hall n hn)

/-- A search comes to an end, and all paths that it gives match the pattern. -/
theorem exists_search (h : ws.Sound) (hlead : IsLead pattern) (hnull : Char.ofNat 0 ∉ pattern)
    (depth : Nat) (dirOnly : Bool) :
    ∃ qs, search ws depth dirOnly pattern = .ok qs ∧ ∀ q ∈ qs, Matches pattern q := by
  induction depth generalizing dirOnly pattern with
  | zero => exact ⟨[], rfl, by simp⟩
  | succ depth ih =>
      cases hwild : hasWildcard pattern with
      | false =>
          refine ⟨_, search_of_not_hasWildcard hwild, fun q hq => ?_⟩
          simp only [List.mem_ite_nil_right, List.mem_singleton] at hq
          obtain ⟨-, rfl⟩ := hq
          exact .refl_of_hasWildcard hwild hnull
      | true =>
          have hsplits := splits_splitPath pattern
          have hpart := hsplits.part_ne_nil (ne_nil_of_hasWildcard hwild)
            (endsWith_of_hasWildcard hlead hwild)
          have hnull' : Char.ofNat 0 ∉ (splitPath pattern).1 :=
            fun hmem => hnull (hsplits.subset hmem)
          have hdirectories : ∃ ds, directoriesFor ws depth (splitPath pattern).1 = .ok ds ∧
              ∀ d ∈ ds, Matches (splitPath pattern).1 d := by
            rw [directoriesFor]
            split
            · exact ih hsplits.isLead hnull' true
            · next hplain =>
                rw [Bool.not_eq_true] at hplain
                refine ⟨_, rfl, fun d hd => ?_⟩
                rw [List.mem_singleton.mp hd]
                exact .refl_of_hasWildcard hplain hnull'
          obtain ⟨ds, hds, hmatches⟩ := hdirectories
          rw [search_of_hasWildcard hwild hlead, hds]
          exact exists_matches_of_directories h hsplits hpart (Workspace.slash_of_splitPath pattern)
            hnull dirOnly hmatches

/-! ## What a pattern without wildcards spells is found -/

/-- Of plain parts, the names for which they stand are the parts themselves. -/
theorem Matches.names_eq (h : Matches pattern q)
    (hplain : ∀ part ∈ FileSystem.namesIn pattern, IsPlain part) :
    FileSystem.namesIn q = FileSystem.namesIn pattern := by
  have hnames := h.names
  generalize FileSystem.namesIn pattern = parts at hplain hnames
  generalize FileSystem.namesIn q = names at hnames
  induction hnames with
  | nil => rfl
  | cons hstands _ ih =>
      obtain ⟨hpart, hparts⟩ := List.forall_mem_cons.mp hplain
      rw [(hpart _).mp hstands.matchesText, ih hparts]

/-- A spelling of a path: it matches the path, and is not longer. -/
structure IsSpelling (pattern q : Text) : Prop extends Matches pattern q where
  count : byteCount q ≤ byteCount pattern

theorem IsSpelling.refl_of_hasWildcard (h : hasWildcard pattern = false)
    (hnull : Char.ofNat 0 ∉ pattern) : IsSpelling pattern pattern :=
  ⟨.refl_of_hasWildcard h hnull, Nat.le_refl _⟩

namespace IsSpelling

section Entries

variable (h : IsSpelling pattern q) (hplain : ∀ part ∈ FileSystem.namesIn pattern, IsPlain part)
include h hplain

/-- A spelling of a path denotes what the path does. -/
theorem entryAt {follow : Bool} {l : Location} {e : Entry}
    (hentry : ws.entryAt follow pattern = .ok (l, e)) : ws.entryAt follow q = .ok (l, e) := by
  have hne := h.ne_nil (Workspace.entryAt_eq_ok_iff.mp hentry).1.ne_nil
  exact Workspace.entryAt_congr hentry (h.names_eq hplain) (startOf_eq_of_anchor h.anchor _) h.ends
    h.null hne h.count

theorem hasEntry (hthere : ws.hasEntry pattern = true) : ws.hasEntry q = true := by
  obtain ⟨l, e, hentry⟩ := Workspace.hasEntry_iff.mp hthere
  exact Workspace.hasEntry_iff.mpr ⟨l, e, h.entryAt hplain hentry⟩

theorem isDirectory (hdirectory : ws.isDirectory pattern = true) : ws.isDirectory q = true := by
  obtain ⟨l, hentry⟩ := Workspace.isDirectory_iff_entryAt.mp hdirectory
  exact Workspace.isDirectory_of_entryAt (h.entryAt hplain hentry)

end Entries

/-- The last part, below a spelling of what precedes it. -/
theorem joinText (h : IsSpelling directory q) (hsplits : Splits pattern directory part)
    (hpart : IsNameFor part part) : IsSpelling pattern (joinText q part) := by
  refine ⟨h.toMatches.joinText hsplits hpart.ne_nil hpart.slash hpart, ?_⟩
  have hcount := h.count
  rw [Glob.joinText, if_neg fun hhead => hpart.slash (List.mem_of_head? hhead)]
  split
  · have hparts := hsplits.byteCount_le
    rw [byteCount_append]
    omega
  · next hne =>
      simp only [Bool.or_eq_true, decide_eq_true_eq, not_or, Bool.not_eq_true] at hne
      -- the directory has a name, so a slash follows it in the pattern
      have hnames : FileSystem.namesIn directory ≠ [] := by
        intro hnone
        have hsame := h.names
        rw [hnone, List.forall₂_nil_left_iff] at hsame
        exact namesIn_ne_nil hne.1 hne.2 hsame
      cases hsplits with
      | name => exact absurd rfl hnames
      | anchored _ _ hslashes => exact absurd (namesIn_eq_nil_iff.mpr hslashes) hnames
      | below slashes =>
          simp only [byteCount_append, byteCount]
          omega

end IsSpelling

/-- What a path denotes is found under its last name in the directory that precedes it. -/
theorem exists_parent {follow : Bool} {l : Location} {e : Entry}
    (hsplits : Splits pattern directory part) (hpart : part ≠ []) (hslash : '/' ∉ part)
    (hentry : ws.entryAt follow pattern = .ok (l, e)) :
    ∃ m links, ws.entryAt true (if directory = [] then ['.'] else directory) = .ok (m, .directory) ∧
      ws.files.resolve follow links false m [part] = .ok (.found l e) := by
  have hnames := hsplits.namesIn_eq
  rw [namesIn_of_not_mem hpart hslash] at hnames
  obtain ⟨hpath, hfound⟩ := Workspace.entryAt_eq_ok_iff.mp hentry
  have hend := hsplits.endsWith_eq hpart hslash
  have hstart := startOf_eq_of_anchor (hsplits.anchor_eq hslash) ws.workingDirectory
  split
  · next hempty =>
      subst hempty
      rw [hend, hstart, hnames] at hfound
      exact ⟨_, _, Workspace.entryAt_eq_ok_iff.mpr ⟨⟨by decide, by decide, by decide⟩, rfl⟩, hfound⟩
  · next hne =>
      have hcount := hsplits.byteCount_le
      rw [← hend]
      exact Workspace.exists_directory_of_entryAt hentry hnames (by simp) hstart.symm
        (fun hmem => hpath.null (hsplits.subset hmem)) hne (by omega)

theorem ne_dots_of_hasWildcard (h : hasWildcard part = true) : part ≠ ['.'] ∧ part ≠ ['.', '.'] := by
  constructor <;>
    · rintro rfl
      cases h

/-- A plain part stands for itself. -/
theorem IsNameFor.self (hplain : IsPlain part) (hne : part ≠ []) (hslash : '/' ∉ part)
    (hnull : Char.ofNat 0 ∉ part) : IsNameFor part part := by
  refine ⟨?_, hne, hslash, hnull⟩
  cases hwild : hasWildcard part with
  | false => exact .inl ⟨hwild, rfl⟩
  | true =>
      obtain ⟨hdot, hup⟩ := ne_dots_of_hasWildcard hwild
      exact .inr ⟨⟨⟨hne, hdot, hslash⟩, hup, hnull⟩, (hplain part).mpr rfl⟩

/-- A plain part is found below a directory where it is an entry. -/
theorem exists_mem_namesFor {follow : Bool} {links : Nat} {l m : Location} {e : Entry}
    (hlist : ws.entryAt true (if directory = [] then ['.'] else directory) = .ok (m, .directory))
    (hfound : ws.files.resolve follow links false m [part] = .ok (.found l e)) (hne : part ≠ [])
    (hplain : IsPlain part) (hthere : ws.hasEntry (joinText directory part) = true)
    (hdirectory : dirOnly = true → ws.isDirectory (joinText directory part) = true) :
    ∃ names, namesFor ws dirOnly part directory = .ok names ∧ part ∈ names := by
  rw [namesFor]
  split
  · next hwild =>
      obtain ⟨hdot, hup⟩ := ne_dots_of_hasWildcard hwild
      have hmem := mem_names_iff.mpr (exists_entry_of_resolve hdot hup hfound)
      rw [matchingNames, namesIn, Workspace.list, hlist]
      refine ⟨_, rfl, List.mem_filter.mpr ⟨List.mem_filter.mpr ⟨hmem, ?_⟩, (hplain part).mpr rfl⟩⟩
      rw [Bool.and_eq_true, Bool.or_eq_true, Bool.not_eq_true']
      refine ⟨?_, ?_⟩
      · cases dirOnly with
        | false => exact .inl rfl
        | true => exact .inr (hdirectory rfl)
      · by_cases hhidden : part.head? = some '.' <;> simp [hhidden]
  · exact ⟨_, rfl, by rw [givenName, if_neg hne, if_pos hthere]; exact List.mem_singleton_self part⟩

/-- Where a spelling of what precedes the last part is among the directories, one of the path is
found. -/
theorem exists_spelling_of_directories {directories qs : List Text}
    (hsplits : Splits pattern directory part) (hpart : part ≠ []) (hslash : '/' ∉ part)
    (hplain : ∀ part ∈ FileSystem.namesIn pattern, IsPlain part)
    (hthere : ws.hasEntry pattern = true)
    (hdirectory : dirOnly = true → ws.isDirectory pattern = true)
    (hspelling : ∃ d ∈ directories, IsSpelling directory d)
    (hqs : gather (namesFor ws dirOnly part) directories = .ok qs) :
    ∃ q ∈ qs, IsSpelling pattern q := by
  obtain ⟨d, hd, hspelling⟩ := hspelling
  have hnull := Workspace.null_of_hasEntry hthere
  obtain ⟨l, e, hentry⟩ := Workspace.hasEntry_iff.mp hthere
  have hnames := hsplits.namesIn_eq
  rw [namesIn_of_not_mem hpart hslash] at hnames
  have hlast : IsPlain part := hplain part (by simp [hnames])
  have hlead : ∀ part ∈ FileSystem.namesIn directory, IsPlain part :=
    fun part hmem => hplain part (hnames ▸ List.mem_append_left _ hmem)
  have hname : IsNameFor part part :=
    .self hlast hpart hslash fun hmem => hnull (hsplits.part_subset hmem)
  have hjoin := hspelling.joinText hsplits hname
  -- the spelling leads to the directory in which the last part stands
  obtain ⟨m, links, hparent, hrest⟩ := exists_parent hsplits hpart hslash hentry
  have hlist : ws.entryAt true (if d = [] then ['.'] else d) = .ok (m, .directory) := by
    by_cases hempty : directory = []
    · subst hempty
      rwa [hspelling.eq_nil]
    · rw [if_neg hempty] at hparent
      rw [if_neg (hspelling.ne_nil hempty)]
      exact hspelling.entryAt hlead hparent
  have hfound : ∃ names, namesFor ws dirOnly part d = .ok names ∧ part ∈ names := by
    apply exists_mem_namesFor hlist hrest hpart hlast
    · exact hjoin.hasEntry hplain hthere
    · exact fun honly => hjoin.isDirectory hplain (hdirectory honly)
  obtain ⟨names, hnames, hmem⟩ := hfound
  exact ⟨_, (mem_gather hqs).mpr ⟨d, hd, names, hnames, part, hmem, rfl⟩, hjoin⟩

/-- A search for a path of plain parts gives a spelling of the path, if something is there. -/
theorem exists_spelling_search (h : ws.Sound)
    (hplain : ∀ part ∈ FileSystem.namesIn pattern, IsPlain part)
    (hend : endsWith pattern ['/'] = false) (hthere : ws.hasEntry pattern = true)
    (hdirectory : dirOnly = true → ws.isDirectory pattern = true) (hdepth : pattern.length < depth) :
    ∃ qs, search ws depth dirOnly pattern = .ok qs ∧ ∃ q ∈ qs, IsSpelling pattern q := by
  induction depth generalizing dirOnly pattern with
  | zero => omega
  | succ depth ih =>
      obtain ⟨l, e, hentry⟩ := Workspace.hasEntry_iff.mp hthere
      obtain ⟨⟨hnull, hne, -⟩, -⟩ := Workspace.entryAt_eq_ok_iff.mp hentry
      have hsplits := splits_splitPath pattern
      have hslash := Workspace.slash_of_splitPath pattern
      have hpart := hsplits.part_ne_nil hne hend
      cases hwild : hasWildcard pattern with
      | false =>
          refine ⟨_, search_of_not_hasWildcard hwild, pattern, ?_, .refl_of_hasWildcard hwild hnull⟩
          rw [if_neg hpart, if_pos hthere]
          exact List.mem_singleton_self pattern
      | true =>
          obtain ⟨qs, hqs, -⟩ := exists_search h (.inr hend) hnull (depth + 1) dirOnly
          refine ⟨qs, hqs, ?_⟩
          rw [search_of_hasWildcard hwild (.inr hend)] at hqs
          obtain ⟨ds, hds, hqs⟩ := bind_eq_ok.mp hqs
          refine exists_spelling_of_directories hsplits hpart hslash hplain hthere hdirectory ?_ hqs
          have hnames := hsplits.namesIn_eq
          have hlength := hsplits.length_lt hpart
          have hlead := hsplits.isLead
          have hnull' : Char.ofNat 0 ∉ (splitPath pattern).1 := fun hmem => hnull (hsplits.subset hmem)
          obtain ⟨m, links, hparent, -⟩ := exists_parent hsplits hpart hslash hentry
          generalize (splitPath pattern).1 = directory at hds hnames hlength hparent hlead hnull' ⊢
          rw [directoriesFor] at hds
          split at hds
          · next hwild =>
              -- brackets that are not closed: the directory is searched for in its turn
              have hisDirectory : ws.isDirectory directory = true := by
                rw [if_neg (ne_nil_of_hasWildcard hwild)] at hparent
                exact Workspace.isDirectory_of_entryAt hparent
              obtain ⟨ds', hds', hspelling⟩ := ih
                (fun part hmem => hplain part (hnames ▸ List.mem_append_left _ hmem))
                (endsWith_of_hasWildcard hlead hwild) (Workspace.hasEntry_of_isDirectory hisDirectory)
                (fun _ => hisDirectory) (by omega)
              obtain rfl := Except.ok.inj (hds'.symm.trans hds)
              exact hspelling
          · next hplain =>
              rw [Bool.not_eq_true] at hplain
              obtain rfl := pure_eq_ok.mp hds
              exact ⟨directory, List.mem_singleton_self _, .refl_of_hasWildcard hplain hnull'⟩

end SourceAtlas.Glob
