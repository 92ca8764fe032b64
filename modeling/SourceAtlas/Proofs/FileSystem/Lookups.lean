import SourceAtlas.FileSystem.Change
import SourceAtlas.Proofs.FileSystem.Scanning
import SourceAtlas.Proofs.Outcomes

/-!
# What look-ups find

A look-up finds what the file system holds, and a name where it holds nothing.  It fails for few
reasons.
-/

namespace SourceAtlas

open Text

namespace FileSystem

/-! ## Look-ups -/

/-- The places that a look-up can arrive at: a file or a link is where it stands, and a link only if
links at the end are not followed; nothing stands at a free name. -/
inductive Arrives (fs : FileSystem) (follow : Bool) : Place → Prop
  | directory (l : Location) : Arrives fs follow (.found l .directory)
  | file {l : Location} {b : Bytes} (h : fs.get? l = some (.file b)) :
      Arrives fs follow (.found l (.file b))
  | link {l : Location} {target : Text} (h : fs.get? l = some (.link target))
      (hfollow : follow = false) : Arrives fs follow (.found l (.link target))
  | free {directory : Location} {name : Text} (h : fs.get? (directory ++ [name]) = none) :
      Arrives fs follow (.free directory name)
  | barred (byFile : Bool) : Arrives fs follow (.barred byFile)

/-- Reasons for which a look-up can fail. -/
def IsLookupReason (r : Reason) : Prop := Workspace.isAbsence r = true ∨ r = .nameTooLong

/-- Reasons for which following names can fail: a null character is found before. -/
def IsFollowReason (r : Reason) : Prop := IsLookupReason r ∧ r ≠ .nullCharacter

/-- What a scan comes to: a place where a look-up can arrive, a reason for which it can fail, or a
link. -/
inductive ScanEnds (fs : FileSystem) (follow : Bool) : Stage → Prop
  | arrived {p : Place} (h : Arrives fs follow p) : ScanEnds fs follow (.arrived p)
  | failed {r : Reason} (h : IsFollowReason r) : ScanEnds fs follow (.failed r)
  | detour (origin : Location) (target : Text) (rest : List Text) :
      ScanEnds fs follow (.detour origin target rest)

theorem scanEnds (fs : FileSystem) (follow dirOnly : Bool) (l : Location) (names : List Text) :
    ScanEnds fs follow (scan fs follow dirOnly l names) := by
  induction names generalizing l with
  | nil => exact .arrived (.directory l)
  | cons n ns ih =>
      cases firstName fs l n with
      | same =>
          rw [scan_same]
          exact ih l
      | above =>
          rw [scan_above]
          exact ih l.dropLast
      | tooLong hlong =>
          rw [scan_tooLong hlong]
          exact .failed ⟨.inr rfl, by simp⟩
      | missing hn hnone =>
          rw [scan_missing hn hnone]
          split
          · split
            · exact .arrived (.barred false)
            · exact .arrived (.free hnone)
          · exact .failed ⟨.inl rfl, by simp⟩
      | directory hn hdirectory =>
          rw [scan_directory hn hdirectory]
          exact ih (l ++ [n])
      | file hn hfile =>
          rw [scan_file hn hfile]
          split
          · split
            · exact .arrived (.barred true)
            · exact .arrived (.file hfile)
          · exact .failed ⟨.inl rfl, by simp⟩
      | link hn hlink =>
          rw [scan_link hn hlink]
          split
          · next hend =>
              simp only [Bool.and_eq_true, Bool.not_eq_true'] at hend
              exact .arrived (.link hlink hend.2)
          · exact .detour _ _ _

theorem arrives_of_resolve {fs : FileSystem} {follow dirOnly : Bool} {links : Nat} {l : Location}
    {names : List Text} {p : Place} (h : resolve fs follow links dirOnly l names = .ok p) :
    Arrives fs follow p := by
  fun_induction resolve fs follow links dirOnly l names with
  | case1 links dirOnly l names q hscan =>
      obtain rfl := Except.ok.inj h
      have hends := scanEnds fs follow dirOnly l names
      rw [hscan] at hends
      cases hends with
      | arrived harrives => exact harrives
  | case2 => cases h
  | case3 => cases h
  | case4 dirOnly l names origin target rest hscan links ih => exact ih h

theorem reason_of_resolve {fs : FileSystem} {follow dirOnly : Bool} {links : Nat} {l : Location}
    {names : List Text} {r : Reason} (h : resolve fs follow links dirOnly l names = .error r) :
    IsFollowReason r := by
  fun_induction resolve fs follow links dirOnly l names with
  | case1 => cases h
  | case2 links dirOnly l names r' hscan =>
      obtain rfl := Except.error.inj h
      have hends := scanEnds fs follow dirOnly l names
      rw [hscan] at hends
      cases hends with
      | failed hreason => exact hreason
  | case3 =>
      obtain rfl := Except.error.inj h
      exact ⟨.inl rfl, by simp⟩
  | case4 dirOnly l names origin target rest hscan links ih => exact ih h

/-- Without following a link at the end, a look-up comes to the same, or to such a link. -/
theorem scan_nofollow (fs : FileSystem) (dirOnly : Bool) (l : Location) (names : List Text) :
    scan fs false dirOnly l names = scan fs true dirOnly l names ∨
      ∃ m target, scan fs false dirOnly l names = .arrived (.found m (.link target)) := by
  induction names generalizing l with
  | nil => exact .inl rfl
  | cons n ns ih =>
      cases firstName fs l n with
      | same =>
          rw [scan_same, scan_same]
          exact ih l
      | above =>
          rw [scan_above, scan_above]
          exact ih l.dropLast
      | tooLong hlong => exact .inl ((scan_tooLong hlong).trans (scan_tooLong hlong).symm)
      | missing hn hnone =>
          exact .inl ((scan_missing hn hnone).trans (scan_missing hn hnone).symm)
      | directory hn hdirectory =>
          rw [scan_directory hn hdirectory, scan_directory hn hdirectory]
          exact ih (l ++ [n])
      | file hn hfile => exact .inl ((scan_file hn hfile).trans (scan_file hn hfile).symm)
      | link hn hlink =>
          rw [scan_link hn hlink, scan_link hn hlink]
          split
          · exact .inr ⟨_, _, rfl⟩
          · left
            rw [if_neg (by simp)]

theorem resolve_nofollow (fs : FileSystem) (links : Nat) (dirOnly : Bool) (l : Location)
    (names : List Text) :
    resolve fs false links dirOnly l names = resolve fs true links dirOnly l names ∨
      ∃ m target, resolve fs false links dirOnly l names = .ok (.found m (.link target)) := by
  fun_induction resolve fs true links dirOnly l names with
  | case1 links dirOnly l names p hscan =>
      obtain hsame | ⟨m, target, hlink⟩ := scan_nofollow fs dirOnly l names
      · exact .inl (resolve_of_arrived (hsame.trans hscan) links)
      · exact .inr ⟨m, target, resolve_of_arrived hlink links⟩
  | case2 links dirOnly l names r hscan =>
      obtain hsame | ⟨m, target, hlink⟩ := scan_nofollow fs dirOnly l names
      · exact .inl (resolve_of_failed (hsame.trans hscan) links)
      · exact .inr ⟨m, target, resolve_of_arrived hlink links⟩
  | case3 dirOnly l names origin target rest hscan =>
      obtain hsame | ⟨m, target, hlink⟩ := scan_nofollow fs dirOnly l names
      · exact .inl (resolve_zero_of_detour (hsame.trans hscan))
      · exact .inr ⟨m, target, resolve_of_arrived hlink 0⟩
  | case4 dirOnly l names origin target rest hscan links ih =>
      obtain hsame | ⟨m, target, hlink⟩ := scan_nofollow fs dirOnly l names
      · rw [resolve_succ_of_detour (hsame.trans hscan)]
        exact ih
      · exact .inr ⟨m, target, resolve_of_arrived hlink (links + 1)⟩

end FileSystem

namespace Workspace

open FileSystem

variable {ws : Workspace}

/-- A path leads to a location, or nowhere. -/
def LeadsTo (ws : Workspace) (path : Text) (l : Location) : Prop :=
  match ws.lookup true (endsWith path ['/']) path with
  | .ok (.found l' _) => l' = l
  | .ok (.free directory name) => directory ++ [name] = l
  | .ok (.barred _) | .error _ => True

theorem hasNull_iff {t : Text} : hasNull t = true ↔ Char.ofNat 0 ∈ t := by
  simp [hasNull]

/-- A text that can be looked up. -/
structure IsPathText (t : Text) : Prop where
  null : Char.ofNat 0 ∉ t
  ne_nil : t ≠ []
  short : byteCount t < pathLimit

/-- What every look-up of a text comes to: it fails for the text alone, or follows its names. -/
inductive LooksUp (t : Text) : Prop
  | refused {r : Reason} (hreason : IsLookupReason r) (hnull : r = .nullCharacter ↔ Char.ofNat 0 ∈ t)
      (hlookup : ∀ (ws : Workspace) (follow dirOnly : Bool), ws.lookup follow dirOnly t = .error r) :
      LooksUp t
  | followed (ht : IsPathText t)
      (hlookup : ∀ (ws : Workspace) (follow dirOnly : Bool), ws.lookup follow dirOnly t =
        ws.files.resolve follow linkLimit dirOnly (startOf t ws.workingDirectory) (namesIn t)) :
      LooksUp t

theorem looksUp (t : Text) : LooksUp t := by
  by_cases hnull : Char.ofNat 0 ∈ t
  · refine .refused (.inl rfl) (iff_of_true rfl hnull) fun ws follow dirOnly => ?_
    rw [lookup, if_pos (hasNull_iff.mpr hnull)]
  have hpass : ¬ hasNull t = true := fun h => hnull (hasNull_iff.mp h)
  by_cases hempty : t = []
  · refine .refused (r := .missing) (.inl rfl) (iff_of_false (by simp) hnull) fun ws follow dirOnly => ?_
    rw [lookup, if_neg hpass, if_pos hempty]
  by_cases hlong : pathLimit ≤ byteCount t
  · refine .refused (.inr rfl) (iff_of_false (by simp) hnull) fun ws follow dirOnly => ?_
    rw [lookup, if_neg hpass, if_neg hempty, if_pos hlong]
  · refine .followed ⟨hnull, hempty, Nat.lt_of_not_le hlong⟩ fun ws follow dirOnly => ?_
    rw [lookup, if_neg hpass, if_neg hempty, if_neg hlong]

theorem lookup_of_isPathText {follow dirOnly : Bool} {t : Text} (ht : IsPathText t) :
    ws.lookup follow dirOnly t =
      ws.files.resolve follow linkLimit dirOnly (startOf t ws.workingDirectory) (namesIn t) := by
  rw [lookup, if_neg fun h => ht.null (hasNull_iff.mp h), if_neg ht.ne_nil,
    if_neg (Nat.not_le.mpr ht.short)]

/-- A look-up comes to something along the names of its text. -/
theorem lookup_eq_ok_iff {follow dirOnly : Bool} {t : Text} {p : Place} :
    ws.lookup follow dirOnly t = .ok p ↔ IsPathText t ∧
      ws.files.resolve follow linkLimit dirOnly (startOf t ws.workingDirectory) (namesIn t) = .ok p := by
  constructor
  · intro h
    cases looksUp t with
    | refused _ _ hlookup => cases (hlookup ws follow dirOnly).symm.trans h
    | followed ht hlookup => exact ⟨ht, (hlookup ws follow dirOnly).symm.trans h⟩
  · rintro ⟨ht, h⟩
    rw [lookup_of_isPathText ht, h]

theorem reason_of_lookup {follow dirOnly : Bool} {path : Text} {r : Reason}
    (h : ws.lookup follow dirOnly path = .error r) : IsLookupReason r := by
  cases looksUp path with
  | refused hreason _ hlookup =>
      obtain rfl := Except.error.inj ((hlookup ws follow dirOnly).symm.trans h)
      exact hreason
  | followed _ hlookup => exact (reason_of_resolve ((hlookup ws follow dirOnly).symm.trans h)).1

/-- A look-up meets a null character in the path itself, and nowhere else. -/
theorem lookup_eq_nullCharacter_iff {follow dirOnly : Bool} {path : Text} :
    ws.lookup follow dirOnly path = .error .nullCharacter ↔ Char.ofNat 0 ∈ path := by
  cases looksUp path with
  | refused _ hnull hlookup => rw [hlookup ws follow dirOnly, Except.error.injEq, hnull]
  | followed hpath hlookup =>
      refine iff_of_false (fun h => ?_) hpath.null
      exact (reason_of_resolve ((hlookup ws follow dirOnly).symm.trans h)).2 rfl

theorem arrives_of_lookup {follow dirOnly : Bool} {path : Text} {p : Place}
    (h : ws.lookup follow dirOnly path = .ok p) : Arrives ws.files follow p :=
  arrives_of_resolve (lookup_eq_ok_iff.mp h).2

/-- A path denotes what a look-up finds. -/
theorem entryAt_eq_ok {follow : Bool} {t : Text} {l : Location} {e : Entry} :
    ws.entryAt follow t = .ok (l, e) ↔ ws.lookup follow (endsWith t ['/']) t = .ok (.found l e) := by
  rw [entryAt, bind_eq_ok]
  constructor
  · rintro ⟨p, hlookup, hp⟩
    cases p with
    | found l' e' =>
        obtain ⟨rfl, rfl⟩ := Prod.mk.inj (Except.ok.inj hp)
        exact hlookup
    | free directory name => cases hp
    | barred byFile => cases byFile <;> cases hp
  · exact fun hlookup => ⟨_, hlookup, rfl⟩

/-- What a path denotes is found along its names. -/
theorem entryAt_eq_ok_iff {follow : Bool} {t : Text} {l : Location} {e : Entry} :
    ws.entryAt follow t = .ok (l, e) ↔ IsPathText t ∧
      ws.files.resolve follow linkLimit (endsWith t ['/']) (startOf t ws.workingDirectory)
        (namesIn t) = .ok (.found l e) :=
  entryAt_eq_ok.trans lookup_eq_ok_iff

/-- What a path leads to through links is no link. -/
theorem ne_link_of_entryAt {path : Text} {l : Location} {e : Entry}
    (h : ws.entryAt true path = .ok (l, e)) (target : Text) : e ≠ .link target := by
  rintro rfl
  cases arrives_of_lookup (entryAt_eq_ok.mp h) with
  | link _ hfollow => cases hfollow

theorem stat_eq (path : Text) :
    ws.stat path =
      match ws.lookup true (endsWith path ['/']) path with
      | .ok (.found _ e) => .ok e
      | .ok (.free ..) | .ok (.barred false) => .error .missing
      | .ok (.barred true) => .error .notDirectory
      | .error r => .error r := by
  unfold stat entryAt
  cases ws.lookup true (endsWith path ['/']) path with
  | error r => rfl
  | ok place =>
      cases place with
      | found l e => rfl
      | free directory name => rfl
      | barred byFile => cases byFile <;> rfl

theorem stat_eq_nullCharacter_iff {path : Text} :
    ws.stat path = .error .nullCharacter ↔ Char.ofNat 0 ∈ path := by
  have hnull : ws.lookup true (endsWith path ['/']) path = .error .nullCharacter ↔
      Char.ofNat 0 ∈ path :=
    lookup_eq_nullCharacter_iff
  rw [← hnull, stat_eq]
  split
  · next hlookup => simp [hlookup]
  · next hlookup => simp [hlookup]
  · next hlookup => simp [hlookup]
  · next hlookup => simp [hlookup]
  · next hlookup => simp [hlookup]

theorem reason_of_entryAt {follow : Bool} {path : Text} {r : Reason}
    (h : ws.entryAt follow path = .error r) : IsLookupReason r := by
  rw [entryAt] at h
  cases hlookup : ws.lookup follow (endsWith path ['/']) path with
  | error r' =>
      rw [hlookup] at h
      obtain rfl := Except.error.inj h
      exact reason_of_lookup hlookup
  | ok place =>
      rw [hlookup] at h
      cases place with
      | found l e => cases h
      | free directory name =>
          obtain rfl := Except.error.inj h
          exact .inl rfl
      | barred byFile =>
          cases byFile <;> (obtain rfl := Except.error.inj h; exact .inl rfl)

theorem reason_of_stat {path : Text} {r : Reason} (h : ws.stat path = .error r) :
    IsLookupReason r := by
  rw [stat] at h
  cases hentry : ws.entryAt true path with
  | error r' =>
      rw [hentry] at h
      obtain rfl := Except.error.inj h
      exact reason_of_entryAt hentry
  | ok entry =>
      rw [hentry] at h
      cases h

theorem reason_of_linkStat {path : Text} {r : Reason} (h : ws.linkStat path = .error r) :
    IsLookupReason r := by
  rw [linkStat] at h
  cases hentry : ws.entryAt false path with
  | error r' =>
      rw [hentry] at h
      obtain rfl := Except.error.inj h
      exact reason_of_entryAt hentry
  | ok entry =>
      rw [hentry] at h
      cases h

/-- Only a path with a name that is too long cannot be asked for. -/
theorem eq_of_kindFound {kind : Entry → Bool} {path : Text} {asked : Except Reason Entry}
    {e : FileError} (hasked : ∀ r, asked = .error r → IsLookupReason r)
    (h : kindFound kind path asked = .error e) : e = ⟨.nameTooLong, path⟩ := by
  cases asked with
  | ok entry => cases h
  | error r =>
      rw [kindFound] at h
      split at h
      · cases h
      · next hpresent =>
          obtain rfl := Except.error.inj h
          obtain habsent | rfl := hasked r rfl
          · exact absurd habsent hpresent
          · rfl

/-- A path cannot be asked for exactly if it is too long. -/
theorem exists_kindFound_error_iff {kind : Entry → Bool} {path : Text} {asked : Except Reason Entry}
    (hasked : ∀ r, asked = .error r → IsLookupReason r) :
    (∃ e, kindFound kind path asked = .error e) ↔ asked = .error .nameTooLong := by
  constructor
  · rintro ⟨e, he⟩
    cases asked with
    | ok entry => cases he
    | error r =>
        obtain habsent | rfl := hasked r rfl
        · rw [kindFound, if_pos habsent] at he
          cases he
        · rfl
  · rintro rfl
    exact ⟨⟨.nameTooLong, path⟩, rfl⟩

theorem kindFound_eq_ok_true {kind : Entry → Bool} {path : Text} {asked : Except Reason Entry} :
    kindFound kind path asked = .ok true ↔ ∃ e, asked = .ok e ∧ kind e = true := by
  cases asked with
  | ok e => simp [kindFound]
  | error r =>
      rw [kindFound]
      split <;> simp

theorem isKind_isFile_iff {t : Text} :
    ws.isKind Entry.isFile t = .ok true ↔ ∃ content, ws.stat t = .ok (.file content) := by
  rw [isKind, kindFound_eq_ok_true]
  constructor
  · rintro ⟨e, hstat, hfile⟩
    cases e with
    | directory => cases hfile
    | file content => exact ⟨content, hstat⟩
    | link target => cases hfile
  · rintro ⟨content, hstat⟩
    exact ⟨_, hstat, rfl⟩

theorem read_eq_ok {path : Text} {b : Bytes} : ws.read path = .ok b ↔ ws.stat path = .ok (.file b) := by
  unfold read
  split
  · next heq => simp [heq]
  · next hother heq =>
      simp only [reduceCtorEq, heq, Except.ok.injEq, false_iff]
      exact fun h => hother b h
  · next heq => simp [heq]

theorem isDirectory_iff {t : Text} : ws.isDirectory t = true ↔ ws.stat t = .ok .directory := by
  rw [isDirectory]
  split
  · next hstat => simp [hstat]
  · next hnot => exact iff_of_false (by simp) hnot

theorem isDirectory_of_entryAt {t : Text} {l : Location}
    (h : ws.entryAt true t = .ok (l, .directory)) : ws.isDirectory t = true := by
  rw [isDirectory_iff, stat, h]
  rfl

/-- What a path leads to is there, or a link that leads to it. -/
theorem hasEntry_of_stat {t : Text} (h : (ws.stat t).isOk = true) : ws.hasEntry t = true := by
  have hlookup : ws.lookup false (endsWith t ['/']) t = ws.lookup true (endsWith t ['/']) t ∨
      ∃ m target, ws.lookup false (endsWith t ['/']) t = .ok (.found m (.link target)) := by
    cases looksUp t with
    | refused _ _ hlookup => exact .inl ((hlookup ws _ _).trans (hlookup ws _ _).symm)
    | followed _ hlookup =>
        rw [hlookup, hlookup]
        exact resolve_nofollow ws.files linkLimit _ _ _
  rw [stat, entryAt] at h
  rw [hasEntry, linkStat, entryAt]
  obtain hsame | ⟨m, target, hlink⟩ := hlookup
  · rw [hsame]
    exact h
  · rw [hlink]
    rfl

theorem hasEntry_of_isDirectory {t : Text} (h : ws.isDirectory t = true) : ws.hasEntry t = true := by
  apply hasEntry_of_stat
  rw [isDirectory_iff.mp h]
  rfl

/-- A path leads to a file if a look-up finds the file. -/
theorem stat_eq_ok_file {path : Text} {b : Bytes} : ws.stat path = .ok (.file b) ↔
    ∃ l, ws.lookup true (endsWith path ['/']) path = .ok (.found l (.file b)) := by
  rw [stat_eq]
  split
  · next l e hlookup => simp [hlookup]
  · next hlookup => simp [hlookup]
  · next hlookup => simp [hlookup]
  · next hlookup => simp [hlookup]
  · next hlookup => simp [hlookup]

/-- What is read through a path that leads to a location is the file there. -/
theorem get?_of_read {path : Text} {l : Location} {b : Bytes} (hlead : ws.LeadsTo path l)
    (h : ws.read path = .ok b) : ws.files.get? l = some (.file b) := by
  obtain ⟨l', hlookup⟩ := stat_eq_ok_file.mp (read_eq_ok.mp h)
  rw [LeadsTo, hlookup] at hlead
  obtain rfl : l' = l := hlead
  cases arrives_of_lookup hlookup with
  | file hfile => exact hfile

end Workspace

end SourceAtlas
