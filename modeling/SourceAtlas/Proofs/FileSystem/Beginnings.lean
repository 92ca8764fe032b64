import SourceAtlas.Proofs.FileSystem.Reaching

/-!
# The beginning of a path, and other spellings of it

A look-up that comes to something has come to a directory wherever names are left.  So the beginning of a
path leads to a directory, from which the look-up goes on along the rest.  A path may also be written with
fewer slashes and without `.`; that leads a look-up to the same file.
-/

namespace SourceAtlas

open Text

namespace FileSystem

variable {fs : FileSystem} {follow dirOnly : Bool} {l : Location} {ns ms : List Text}

/-! ## Beginnings -/

/-- What becomes of a scan when there are more names: it goes on from the directory to which the first
names lead, or it leaves for a link among the first names, or it fails. -/
inductive Proceeds (fs : FileSystem) (follow dirOnly : Bool) (l : Location) (ns ms : List Text) : Prop
  | through {m : Location} (hfront : ∀ b, scan fs true b l ns = .arrived (.found m .directory))
      (hwhole : scan fs follow dirOnly l (ns ++ ms) = scan fs follow dirOnly m ms) :
      Proceeds fs follow dirOnly l ns ms
  | detour {origin : Location} {target : Text} {rest : List Text}
      (hfront : ∀ b, scan fs true b l ns = .detour origin target rest)
      (hwhole : scan fs follow dirOnly l (ns ++ ms) = .detour origin target (rest ++ ms)) :
      Proceeds fs follow dirOnly l ns ms
  | failed {r : Reason} (hwhole : scan fs follow dirOnly l (ns ++ ms) = .failed r) :
      Proceeds fs follow dirOnly l ns ms

theorem proceeds (fs : FileSystem) (follow dirOnly : Bool) (l : Location) (ns : List Text)
    (hms : ms ≠ []) : Proceeds fs follow dirOnly l ns ms := by
  have hmore : ∀ ns : List Text, ns ++ ms ≠ [] := fun ns => List.append_ne_nil_of_right_ne_nil ns hms
  induction ns generalizing l with
  | nil => exact .through (fun _ => rfl) rfl
  | cons n ns ih =>
      -- the scan of the first name is that of the rest from another directory
      have hstep : ∀ l', (∀ follow b ns', scan fs follow b l (n :: ns') = scan fs follow b l' ns') →
          Proceeds fs follow dirOnly l (n :: ns) ms := by
        intro l' hsame
        cases ih l' with
        | through hfront hwhole =>
            exact .through (fun b => (hsame true b ns).trans (hfront b))
              ((hsame follow dirOnly _).trans hwhole)
        | detour hfront hwhole =>
            exact .detour (fun b => (hsame true b ns).trans (hfront b))
              ((hsame follow dirOnly _).trans hwhole)
        | failed hwhole => exact .failed ((hsame follow dirOnly _).trans hwhole)
      cases firstName fs l n with
      | same => exact hstep l fun _ _ _ => scan_same
      | above => exact hstep l.dropLast fun _ _ _ => scan_above
      | tooLong hlong => exact .failed (scan_tooLong hlong)
      | missing hn hnone => exact .failed ((scan_missing hn hnone).trans (if_neg (hmore ns)))
      | directory hn hdirectory => exact hstep (l ++ [n]) fun _ _ _ => scan_directory hn hdirectory
      | file hn hfile => exact .failed ((scan_file hn hfile).trans (if_neg (hmore ns)))
      | link hn hlink =>
          exact .detour (fun b => (scan_link hn hlink).trans (if_neg (by simp)))
            ((scan_link hn hlink).trans (if_neg (by simp [hms])))

/-- A look-up that succeeds has come to a directory before the names that are left. -/
theorem resolve_append {links : Nat} {p : Place} (hms : ms ≠ [])
    (h : resolve fs follow links dirOnly l (ns ++ ms) = .ok p) :
    ∃ m links', (∀ b, resolve fs true links b l ns = .ok (.found m .directory)) ∧
      resolve fs follow links' dirOnly m ms = .ok p := by
  induction links generalizing l ns with
  | zero =>
      cases proceeds fs follow dirOnly l ns hms with
      | @through m hfront hwhole =>
          rw [resolve_congr hwhole] at h
          exact ⟨m, 0, fun b => resolve_of_arrived (hfront b) _, h⟩
      | detour hfront hwhole =>
          rw [resolve_zero_of_detour hwhole] at h
          cases h
      | failed hwhole =>
          rw [resolve_of_failed hwhole] at h
          cases h
  | succ links ih =>
      cases proceeds fs follow dirOnly l ns hms with
      | @through m hfront hwhole =>
          rw [resolve_congr hwhole] at h
          exact ⟨m, links + 1, fun b => resolve_of_arrived (hfront b) _, h⟩
      | detour hfront hwhole =>
          rw [resolve_succ_of_detour hwhole, if_neg (List.append_ne_nil_of_right_ne_nil _ hms),
            ← List.append_assoc] at h
          obtain ⟨m, links', hdirectory, hrest⟩ := ih h
          refine ⟨m, links', fun b => ?_, hrest⟩
          rw [resolve_succ_of_detour (hfront b)]
          exact hdirectory _
      | failed hwhole =>
          rw [resolve_of_failed hwhole] at h
          cases h

/-- What is found under an ordinary name stands there. -/
theorem exists_entry_of_resolve {links : Nat} {n : Text} {m : Location} {e : Entry}
    (hdot : n ≠ ['.']) (hup : n ≠ ['.', '.'])
    (h : resolve fs follow links dirOnly l [n] = .ok (.found m e)) :
    ∃ e', fs.get? (l ++ [n]) = some e' := by
  cases firstName fs l n with
  | same => exact absurd rfl hdot
  | above => exact absurd rfl hup
  | tooLong hlong => cases (resolve_of_failed (scan_tooLong hlong) links).symm.trans h
  | missing hn hnone =>
      have hplace := (resolve_of_arrived ((scan_missing hn hnone).trans (if_pos rfl)) links).symm.trans h
      cases dirOnly <;> cases hplace
  | directory _ hdirectory => exact ⟨_, hdirectory⟩
  | file _ hfile => exact ⟨_, hfile⟩
  | link _ hlink => exact ⟨_, hlink⟩

/-! ## Spellings -/

/-- Names from which some `.` are dropped. -/
inductive Drops : List Text → List Text → Prop
  | nil : Drops [] []
  | keep (n : Text) {ns ms : List Text} (h : Drops ns ms) : Drops (n :: ns) (n :: ms)
  | drop {ns ms : List Text} (h : Drops ns ms) : Drops (['.'] :: ns) ms

theorem Drops.refl (ns : List Text) : Drops ns ns := by
  induction ns with
  | nil => exact .nil
  | cons n ns ih => exact .keep n ih

theorem Drops.append_left (h : Drops ns ms) (front : List Text) : Drops (front ++ ns) (front ++ ms) := by
  induction front with
  | nil => exact h
  | cons n front ih => exact .keep n ih

/-- Of the names of a text, a path drops those that are `.`. -/
theorem drops_namesOf (t : Text) : Drops (namesIn t) (Path.namesOf t) := by
  rw [Path.namesOf, ← filter_namesIn]
  have hne : ∀ n ∈ namesIn t, n ≠ [] := fun n hn => by simpa using (List.mem_filter.mp hn).2
  generalize namesIn t = names at hne ⊢
  induction names with
  | nil => exact .nil
  | cons n ns ih =>
      have hrest := ih fun m hm => hne m (List.mem_cons_of_mem n hm)
      by_cases hn : n = ['.']
      · rw [List.filter_cons_of_neg (by simp [hn, Path.isIdle]), hn]
        exact .drop hrest
      · rw [List.filter_cons_of_pos (by simp [hn, hne n List.mem_cons_self, Path.isIdle])]
        exact .keep n hrest

/-- Where all names are dropped, a scan stays in its directory. -/
theorem scan_of_drops_nil (h : Drops ns []) (l : Location) :
    scan fs follow dirOnly l ns = .arrived (.found l .directory) := by
  generalize hms : ([] : List Text) = ms at h
  induction h with
  | nil => rfl
  | keep => cases hms
  | drop _ ih =>
      rw [scan_same]
      exact ih hms

theorem Drops.eq_nil (h : Drops [] ms) : ms = [] := by
  cases h
  rfl

/-- What a scan with fewer names is like: it comes to the same file, or leaves for the same link. -/
structure Agrees (s s' : Stage) : Prop where
  file : ∀ m b, s = .arrived (.found m (.file b)) → s' = s
  detour : ∀ origin target rest, s = .detour origin target rest →
    ∃ rest', Drops rest rest' ∧ s' = .detour origin target rest'

theorem Agrees.refl_of_arrived (p : Place) : Agrees (.arrived p) (.arrived p) :=
  ⟨fun _ _ _ => rfl, by simp⟩

theorem agrees_failed (r : Reason) (s : Stage) : Agrees (.failed r) s :=
  ⟨by simp, by simp⟩

/-- A scan that comes to a file, or leaves for a link, does so without the names that are dropped. -/
theorem agrees_scan (h : Drops ns ms) (l : Location) :
    Agrees (scan fs true dirOnly l ns) (scan fs true dirOnly l ms) := by
  induction h generalizing l with
  | nil => exact .refl_of_arrived _
  | drop h ih =>
      rw [scan_same]
      exact ih l
  | @keep n ns ms h ih =>
      cases firstName fs l n with
      | same =>
          rw [scan_same, scan_same]
          exact ih l
      | above =>
          rw [scan_above, scan_above]
          exact ih l.dropLast
      | tooLong hlong =>
          rw [scan_tooLong hlong]
          exact agrees_failed _ _
      | missing hn hnone =>
          rw [scan_missing hn hnone]
          split
          · -- nothing stands there, so no file is found
            refine ⟨fun m b hfile => ?_, by simp⟩
            split at hfile <;> cases hfile
          · exact agrees_failed _ _
      | directory hn hdirectory =>
          rw [scan_directory hn hdirectory, scan_directory hn hdirectory]
          exact ih (l ++ [n])
      | file hn hfile =>
          rw [scan_file hn hfile]
          split
          · next hns =>
              subst hns
              obtain rfl := h.eq_nil
              rw [scan_file hn hfile, if_pos rfl]
              exact .refl_of_arrived _
          · exact agrees_failed _ _
      | link hn hlink =>
          rw [scan_link hn hlink, scan_link hn hlink, if_neg (by simp), if_neg (by simp)]
          refine ⟨by simp, fun origin target' rest hdetour => ?_⟩
          cases hdetour
          exact ⟨ms, h, rfl⟩

/-- A look-up that finds a file finds it without the names that are dropped. -/
theorem resolve_drops {links : Nat} {m : Location} {b : Bytes} (h : Drops ns ms)
    (hfile : resolve fs true links dirOnly l ns = .ok (.found m (.file b))) :
    resolve fs true links dirOnly l ms = .ok (.found m (.file b)) := by
  fun_induction resolve fs true links dirOnly l ns generalizing ms with
  | case1 links dirOnly l ns p hscan =>
      obtain rfl := Except.ok.inj hfile
      exact resolve_of_arrived (((agrees_scan h l).file _ _ hscan).trans hscan) links
  | case2 => cases hfile
  | case3 => cases hfile
  | case4 dirOnly l ns origin target rest hscan links ih =>
      obtain ⟨rest', hrest, hscan'⟩ := (agrees_scan h l).detour _ _ _ hscan
      have hempty : rest' = [] ↔ rest = [] := by
        constructor
        · rintro rfl
          -- only names of the directory itself were left, and it is no file
          by_contra hne
          obtain ⟨m', links', -, hstay⟩ := resolve_append hne hfile
          rw [resolve_of_arrived (scan_of_drops_nil hrest m')] at hstay
          cases hstay
        · rintro rfl
          exact hrest.eq_nil
      rw [resolve_succ_of_detour hscan', if_congr hempty rfl rfl]
      exact ih (hrest.append_left _) hfile

/-- Where only a directory will do, only a directory is found. -/
theorem eq_directory_of_scan {m : Location} {e : Entry}
    (h : scan fs follow true l ns = .arrived (.found m e)) : e = .directory := by
  induction ns generalizing l with
  | nil =>
      cases h
      rfl
  | cons n ns ih =>
      cases firstName fs l n with
      | same => exact ih (scan_same.symm.trans h)
      | above => exact ih (scan_above.symm.trans h)
      | tooLong hlong => cases (scan_tooLong hlong).symm.trans h
      | missing hn hnone =>
          rw [scan_missing hn hnone] at h
          split at h <;> cases h
      | directory hn hdirectory => exact ih ((scan_directory hn hdirectory).symm.trans h)
      | file hn hfile =>
          rw [scan_file hn hfile] at h
          split at h <;> cases h
      | link hn hlink =>
          rw [scan_link hn hlink, if_neg (by simp)] at h
          cases h

theorem eq_directory_of_resolve {links : Nat} {m : Location} {e : Entry} (hdirOnly : dirOnly = true)
    (h : resolve fs follow links dirOnly l ns = .ok (.found m e)) : e = .directory := by
  fun_induction resolve fs follow links dirOnly l ns with
  | case1 links dirOnly l ns p hscan =>
      subst hdirOnly
      obtain rfl := Except.ok.inj h
      exact eq_directory_of_scan hscan
  | case2 => cases h
  | case3 => cases h
  | case4 dirOnly l ns origin target rest hscan links ih =>
      subst hdirOnly
      exact ih (by simp) h

end FileSystem

namespace Workspace

open FileSystem

variable {ws : Workspace} {follow : Bool} {t t' : Text} {l : Location} {e : Entry}

/-- The beginning of a path that denotes something leads to a directory, from which the look-up goes on
along the rest. -/
theorem exists_directory_of_entryAt {ms : List Text} (hentry : ws.entryAt follow t = .ok (l, e))
    (hnames : namesIn t = namesIn t' ++ ms) (hms : ms ≠ [])
    (hstart : startOf t' ws.workingDirectory = startOf t ws.workingDirectory)
    (hnull : Char.ofNat 0 ∉ t') (hne : t' ≠ []) (hcount : byteCount t' ≤ byteCount t) :
    ∃ m links, ws.entryAt true t' = .ok (m, .directory) ∧
      ws.files.resolve follow links (endsWith t ['/']) m ms = .ok (.found l e) := by
  obtain ⟨ht, hfound⟩ := entryAt_eq_ok_iff.mp hentry
  rw [hnames] at hfound
  obtain ⟨m, links, hdirectory, hrest⟩ := resolve_append hms hfound
  refine ⟨m, links, entryAt_eq_ok_iff.mpr ⟨⟨hnull, hne, Nat.lt_of_le_of_lt hcount ht.short⟩, ?_⟩, hrest⟩
  rw [hstart]
  exact hdirectory _

/-- A path denotes what another one of the same names does, that begins and ends like it, and is not
shorter. -/
theorem entryAt_congr (hentry : ws.entryAt follow t = .ok (l, e)) (hnames : namesIn t' = namesIn t)
    (hstart : startOf t' ws.workingDirectory = startOf t ws.workingDirectory)
    (hend : endsWith t' ['/'] = endsWith t ['/']) (hnull : Char.ofNat 0 ∉ t') (hne : t' ≠ [])
    (hcount : byteCount t' ≤ byteCount t) : ws.entryAt follow t' = .ok (l, e) := by
  obtain ⟨ht, hfound⟩ := entryAt_eq_ok_iff.mp hentry
  rw [entryAt_eq_ok_iff, hnames, hstart, hend]
  exact ⟨⟨hnull, hne, Nat.lt_of_le_of_lt hcount ht.short⟩, hfound⟩

theorem hasEntry_iff : ws.hasEntry t = true ↔ ∃ l e, ws.entryAt false t = .ok (l, e) := by
  rw [hasEntry, linkStat]
  cases ws.entryAt false t with
  | error r => simp [Except.map, Except.isOk, Except.toBool]
  | ok found => simp [Except.map, Except.isOk, Except.toBool, Prod.ext_iff]

theorem isDirectory_iff_entryAt :
    ws.isDirectory t = true ↔ ∃ l, ws.entryAt true t = .ok (l, .directory) := by
  rw [isDirectory_iff, stat, map_eq_ok]
  simp only [Prod.exists, exists_eq_right]

/-- The path of a file does not end with a slash. -/
theorem endsWith_slash_of_file {content : Bytes}
    (hentry : ws.entryAt follow t = .ok (l, .file content)) : endsWith t ['/'] = false := by
  obtain ⟨-, hfound⟩ := entryAt_eq_ok_iff.mp hentry
  cases hend : endsWith t ['/'] with
  | false => rfl
  | true =>
      cases eq_directory_of_resolve hend hfound

end Workspace

/-! ## Paths that are read -/

namespace Text

theorem byteCount_append (s t : Text) : byteCount (s ++ t) = byteCount s + byteCount t := by
  induction s with
  | nil => simp [byteCount]
  | cons c cs ih => simp only [List.cons_append, byteCount, ih, Nat.add_assoc]

theorem join_cons (sep t : Text) (ts : List Text) :
    join sep (t :: ts) = t ++ if ts = [] then [] else sep ++ join sep ts := by
  cases ts with
  | nil => simp [join]
  | cons u us => simp [join]

/-- Joining fewer texts gives no more bytes. -/
theorem byteCount_join_filter (sep : Text) (p : Text → Bool) (ts : List Text) :
    byteCount (join sep (ts.filter p)) ≤ byteCount (join sep ts) := by
  induction ts with
  | nil => exact Nat.le_refl _
  | cons t ts ih =>
      have hrest : byteCount (join sep ts) ≤ byteCount (if ts = [] then [] else sep ++ join sep ts) := by
        split
        · next hnil => rw [hnil]; exact Nat.le_refl _
        · rw [byteCount_append]; omega
      rw [join_cons, byteCount_append]
      by_cases ht : p t = true
      · rw [List.filter_cons_of_pos ht, join_cons, byteCount_append]
        apply Nat.add_le_add_left
        split
        · exact Nat.zero_le _
        · next hne =>
            have hts : ts ≠ [] := fun hnil => hne (by rw [hnil]; rfl)
            rw [if_neg hts, byteCount_append, byteCount_append]
            omega
      · rw [List.filter_cons_of_neg ht]
        omega

end Text

namespace Path

/-- A text is its anchor and the names after it. -/
theorem exists_rest (t : Text) : ∃ rest, t = (Anchor.ofText t).text ++ rest ∧
    namesOf rest = namesOf t := by
  have hslash : ∀ t : Text, namesOf ('/' :: t) = namesOf t := fun t => namesOf_append [] t
  unfold Anchor.ofText
  split
  · exact ⟨_, rfl, (hslash _).symm⟩
  · exact ⟨_, rfl, ((hslash _).trans (hslash _)).symm⟩
  · exact ⟨_, rfl, (hslash _).symm⟩
  · exact ⟨t, rfl, rfl⟩

/-- The path that a text is read as is not longer than the text. -/
theorem byteCount_text_ofText {t : Text} (hne : namesOf t ≠ []) :
    byteCount (ofText t).text ≤ byteCount t := by
  obtain ⟨rest, ht, hnames⟩ := exists_rest t
  have htext : (ofText t).text = (Anchor.ofText t).text ++ join ['/'] (namesOf t) := by
    rw [text]
    split
    · next hnil => exact absurd hnil hne
    · rfl
  have hrest : byteCount (join ['/'] (namesOf t)) ≤ byteCount rest := by
    rw [← hnames]
    calc byteCount (join ['/'] (namesOf rest)) ≤ byteCount (join ['/'] (splitOn '/' rest)) :=
          byteCount_join_filter _ _ _
      _ = byteCount rest := by rw [join_splitOn]
  calc byteCount (ofText t).text
      = byteCount (Anchor.ofText t).text + byteCount (join ['/'] (namesOf t)) := by
        rw [htext, byteCount_append]
    _ ≤ byteCount (Anchor.ofText t).text + byteCount rest := Nat.add_le_add_left hrest _
    _ = byteCount t := by rw [← byteCount_append, ← ht]

end Path

open FileSystem in
/-- A file is found along the path that its path is read as. -/
theorem Workspace.entryAt_text_ofText {ws : Workspace} {t : Text} {l : Location} {content : Bytes}
    (hentry : ws.entryAt true t = .ok (l, .file content)) :
    ws.entryAt true (Path.ofText t).text = .ok (l, .file content) := by
  have hend := endsWith_slash_of_file hentry
  obtain ⟨ht, hfound⟩ := entryAt_eq_ok_iff.mp hentry
  have hsame := resolve_drops (drops_namesOf t) hfound
  have hproper : ∀ n ∈ (Path.ofText t).names, IsProperName n :=
    fun _ hn => Path.isProperName_of_mem_namesOf hn
  obtain hnil | ⟨lead, last, hlast⟩ := List.eq_nil_or_concat' (Path.namesOf t)
  · -- without names, the path is that of a directory
    rw [hnil, resolve_of_arrived (scan_of_drops_nil .nil _)] at hsame
    cases hsame
  have hne : Path.namesOf t ≠ [] := by simp [hlast]
  have hchild : Path.ofText t = Path.child ⟨Anchor.ofText t, lead⟩ last :=
    congrArg (Path.mk (Anchor.ofText t)) hlast
  have hslash : endsWith (Path.ofText t).text ['/'] = false := by
    rw [hchild]
    exact Path.not_endsWith_slash_child _ (hproper last (by rw [hchild]; simp [Path.child]))
  refine entryAt_eq_ok_iff.mpr ⟨⟨?_, ?_, ?_⟩, ?_⟩
  · intro hmem
    obtain ⟨n, hn, hmem⟩ := Path.null_of_text hmem
    exact ht.null (subset_of_mem_splitOn (List.mem_of_mem_filter hn) hmem)
  · exact Path.text_ne_nil fun n hn => (hproper n hn).ne_nil
  · exact Nat.lt_of_le_of_lt (Path.byteCount_text_ofText hne) ht.short
  · rw [hslash, Path.startOf_text_ofText, namesIn_text hne hproper, ← hend]
    exact hsame

end SourceAtlas
