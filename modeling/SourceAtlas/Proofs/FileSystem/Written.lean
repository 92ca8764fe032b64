import SourceAtlas.Proofs.FileSystem.Reaching

/-!
# What a written file changes

A file that is written in a directory adds its name there, unless it had it before.  No path leads to
another directory or link than before, real paths stay, and what is there stays there; what is new,
leads to the file.  Writing the same content again changes nothing.
-/

namespace SourceAtlas

open Text

namespace FileSystem

/-! ## Names -/

theorem names_eq (fs : FileSystem) (l : Location) :
    fs.names l = fs.entries.filterMap fun p =>
      if p.1.dropLast = l then p.1.getLast? else none := by
  rw [names]
  congr 1
  funext p
  cases p.1.getLast? with
  | none => simp
  | some name => rfl

variable {fs : FileSystem} {d : Location} {n : Text} {e : Entry}

theorem setEntry_of_mem {l : Location} {es : List (Location × Entry)} (h : l ∈ es.map (·.1)) :
    (setEntry l e es).map (·.1) = es.map (·.1) := by
  induction es with
  | nil => cases h
  | cons p ps ih =>
      rw [setEntry]
      split
      · next heq => rw [List.map_cons, List.map_cons, heq]
      · next hne =>
          obtain rfl | h := List.mem_cons.mp h
          · exact absurd rfl hne
          · rw [List.map_cons, List.map_cons, ih h]

theorem setEntry_of_not_mem {l : Location} {es : List (Location × Entry)} (h : l ∉ es.map (·.1)) :
    setEntry l e es = es ++ [(l, e)] := by
  induction es with
  | nil => rfl
  | cons p ps ih =>
      rw [List.map_cons, List.mem_cons, not_or] at h
      rw [setEntry, if_neg (Ne.symm h.1), ih h.2, List.cons_append]

theorem setEntry_setEntry (l : Location) (es : List (Location × Entry)) :
    setEntry l e (setEntry l e es) = setEntry l e es := by
  induction es with
  | nil => simp [setEntry]
  | cons p ps ih =>
      by_cases h : p.1 = l
      · simp [setEntry, h]
      · simp [setEntry, h, ih]

theorem get?_eq_none_iff {l : Location} (hne : l ≠ []) :
    fs.get? l = none ↔ l ∉ fs.entries.map (·.1) := by
  rw [get?]
  · rw [Option.map_eq_none_iff, List.find?_eq_none, List.mem_map]
    constructor
    · rintro h ⟨entry, hentry, rfl⟩
      exact h entry hentry (by simp)
    · intro h entry hentry heq
      exact h ⟨entry, hentry, by simpa using heq⟩
  · exact hne

/-- Names are those of the locations of the entries. -/
theorem names_congr {fs fs' : FileSystem} (h : fs'.entries.map (·.1) = fs.entries.map (·.1))
    (l : Location) : fs'.names l = fs.names l := by
  have hnames : ∀ fs : FileSystem, fs.names l = (fs.entries.map (·.1)).filterMap fun m =>
      if m.dropLast = l then m.getLast? else none := by
    intro fs
    rw [names_eq, List.filterMap_map]
    rfl
  rw [hnames, hnames, h]

/-- What is put at a place where something stands gives no name. -/
theorem names_put_of_some {before : Entry} (h : fs.get? (d ++ [n]) = some before) (l : Location) :
    (fs.put (d ++ [n]) e).names l = fs.names l := by
  apply names_congr
  apply setEntry_of_mem
  exact mem_entries_of_get? (by simp) h

/-- What is put at a free name in a directory gives it the name, as its last one. -/
theorem names_put_of_none (h : fs.get? (d ++ [n]) = none) (l : Location) :
    (fs.put (d ++ [n]) e).names l = fs.names l ++ if d = l then [n] else [] := by
  rw [get?_eq_none_iff (by simp)] at h
  rw [names_eq, names_eq, put, setEntry_of_not_mem h, List.filterMap_append]
  congr 1
  by_cases heq : d = l
  · simp [heq]
  · simp [heq]

/-- A name in a directory is that of an entry there. -/
theorem exists_of_mem_names {l : Location} {m : Text} (h : m ∈ fs.names l) :
    ∃ e, fs.get? (l ++ [m]) = some e := by
  rw [names_eq, List.mem_filterMap] at h
  obtain ⟨p, hp, hname⟩ := h
  split at hname
  · next hdirectory =>
      have hplace : p.1 = l ++ [m] := by
        rw [← hdirectory]
        exact (List.dropLast_append_getLast? m hname).symm
      cases hget : fs.get? (l ++ [m]) with
      | some e => exact ⟨e, rfl⟩
      | none =>
          rw [get?_eq_none_iff (by simp)] at hget
          exact absurd (List.mem_map.mpr ⟨p, hp, hplace⟩) hget
  · cases hname

/-! ## Searches for real paths -/

/-- Two file systems with the same links. -/
def SameLinks (fs fs' : FileSystem) : Prop :=
  ∀ {l target}, fs'.get? l = some (.link target) ↔ fs.get? l = some (.link target)

section Searches

variable {fs' : FileSystem}
  {nested nested' : Location → List Text → Trail → Except Reason (Found × Trail)}

/-- Following pieces depends on the links and on what the search for their targets finds, on trails
that can come up. -/
theorem followPieces_congr (hlinks : SameLinks fs fs') {P : Trail → Prop}
    (hnested : ∀ {l ns here target trail}, P trail → fs.get? here = some (.link target) →
      trail.at? here = none →
        nested' l ns ((here, none) :: trail) = nested l ns ((here, none) :: trail) ∧
          ∀ {found trail'}, nested l ns ((here, none) :: trail) = .ok (found, trail') →
            P ((here, some found.names) :: trail'))
    {l : Location} {trail : Trail} (htrail : P trail) (ns : List Text) :
    followPieces fs' nested' l trail ns = followPieces fs nested l trail ns := by
  induction ns generalizing l trail with
  | nil => rfl
  | cons n ns ih =>
      cases firstPiece fs l n with
      | idle hn =>
          rw [followPieces_idle hn, followPieces_idle hn]
          exact ih htrail
      | up =>
          rw [followPieces_up, followPieces_up]
          exact ih htrail
      | null hnull => exact (followPieces_null hnull).trans (followPieces_null hnull).symm
      | down hn hlink =>
          rw [followPieces_down hn fun target htarget => hlink target (hlinks.mp htarget),
            followPieces_down hn hlink]
          exact ih htrail
      | link hn hlink =>
          rw [followPieces_link hn (hlinks.mpr hlink), followPieces_link hn hlink]
          split
          · exact ih htrail
          · rfl
          · next hnone =>
              obtain ⟨heq, hkeep⟩ := hnested htrail hlink hnone
              rw [heq]
              apply bind_congr_ok
              rintro ⟨found, trail'⟩ hfound
              dsimp only
              split
              · exact ih (hkeep hfound)
              · rfl

theorem followLinks_congr (hlinks : SameLinks fs fs') (depth : Nat) (l : Location) (ns : List Text)
    (trail : Trail) : followLinks fs' depth l ns trail = followLinks fs depth l ns trail := by
  induction depth generalizing l ns trail with
  | zero => exact followPieces_congr hlinks (P := fun _ => True) (by simp) trivial ns
  | succ depth ih => exact followPieces_congr hlinks (P := fun _ => True) (by simp [ih]) trivial ns

end Searches

/-- A search that forgets no link on the way. -/
def KeepsSeen (search : Location → List Text → Trail → Except Reason (Found × Trail)) : Prop :=
  ∀ {l ns trail found trail'}, search l ns trail = .ok (found, trail') →
    ∀ {here}, trail.at? here ≠ none → trail'.at? here ≠ none

theorem Trail.seen_cons {trail : Trail} {here other : Location} {known : Option Location}
    (h : trail.at? here ≠ none) : Trail.at? ((other, known) :: trail) here ≠ none := by
  by_cases heq : here = other
  · subst heq
    rw [at?_cons_self]
    simp
  · rwa [at?_cons_of_ne heq]

theorem keepsSeen_followPieces
    {nested : Location → List Text → Trail → Except Reason (Found × Trail)}
    (hnested : KeepsSeen nested) :
    KeepsSeen fun l ns trail => followPieces fs nested l trail ns := by
  intro l ns trail found trail' h here hseen
  replace h := searches_of_followPieces h
  induction h with
  | done => exact hseen
  | idle _ _ ih => exact ih hseen
  | up _ ih => exact ih hseen
  | down _ _ _ _ _ ih => exact ih hseen
  | known _ _ ih => exact ih hseen
  | circle => exact hseen
  | through _ hinner _ _ ih => exact ih (Trail.seen_cons (hnested hinner (Trail.seen_cons hseen)))
  | broken _ hinner => exact hnested hinner (Trail.seen_cons hseen)

theorem keepsSeen_followLinks (fs : FileSystem) (depth : Nat) : KeepsSeen (followLinks fs depth) := by
  induction depth with
  | zero =>
      apply keepsSeen_followPieces
      intro l ns trail found trail' h here hseen
      obtain ⟨-, rfl⟩ := Prod.mk.inj (Except.ok.inj h)
      exact hseen
  | succ depth ih => exact keepsSeen_followPieces ih

/-- A search that may open all links gains nothing from going deeper. -/
theorem followLinks_succ {depth : Nat} {l : Location} {ns : List Text} {trail : Trail}
    {opened : List Location} (hopens : trail.Opens fs opened)
    (hdepth : fs.entries.length < depth + opened.length) :
    followLinks fs (depth + 1) l ns trail = followLinks fs depth l ns trail := by
  induction depth generalizing l ns trail opened with
  | zero =>
      have hle := hopens.length_le
      omega
  | succ depth ih =>
      rw [followLinks, followLinks]
      refine followPieces_congr Iff.rfl (P := fun trail => trail.Opens fs opened) ?_ hopens ns
      intro l ns here target trail hopens hlink hat
      constructor
      · exact ih (hopens.cons hlink hat) (by rw [List.length_cons]; omega)
      · intro found trail' hfound
        constructor
        · exact hopens.nodup
        · exact hopens.links
        · intro other hother
          have hseen : Trail.at? ((here, none) :: trail) other ≠ none :=
            Trail.seen_cons (hopens.seen other hother)
          exact Trail.seen_cons (keepsSeen_followLinks fs depth hfound hseen)

end FileSystem

namespace Workspace

open FileSystem

variable {ws ws' : Workspace} {t : Text}

/-! ## Asking for entries -/

/-- What becomes of asking for an entry when a file is written at a place. -/
inductive EntryShift (place : Location) (content : Bytes) :
    Except Reason (Location × Entry) → Except Reason (Location × Entry) → Prop
  | same (r : Except Reason (Location × Entry)) : EntryShift place content r r
  | renewed (b : Bytes) :
      EntryShift place content (.ok (place, .file b)) (.ok (place, .file content))
  | gained : EntryShift place content (.error .missing) (.ok (place, .file content))
  | blocked : EntryShift place content (.error .missing) (.error .notDirectory)

theorem WritesAt.entryAt {place : Location} {content : Bytes} (h : WritesAt place content ws ws')
    (follow : Bool) (t : Text) :
    EntryShift place content (ws.entryAt follow t) (ws'.entryAt follow t) := by
  have hshift := h.lookup follow (endsWith t ['/']) t
  rw [Workspace.entryAt, Workspace.entryAt]
  generalize ws.lookup follow (endsWith t ['/']) t = r at hshift ⊢
  generalize ws'.lookup follow (endsWith t ['/']) t = r' at hshift ⊢
  cases hshift with
  | same => exact .same _
  | arrives hfor =>
      cases hfor with
      | file b => exact .renewed b
      | free => exact .gained
  | barred => exact .blocked
  | blocked => exact .blocked

/-- A sound workspace in which a file is written in a directory. -/
structure Writes (ws : Workspace) (d : Location) (n : Text) (content : Bytes) (ws' : Workspace) :
    Prop where
  sound : ws.Sound
  directory : ws.files.get? d = some .directory
  name : IsEntryName n
  before : ∀ e, ws.files.get? (d ++ [n]) = some e → e.isFile = true
  eq : ws' = ws.put (d ++ [n]) (.file content)

namespace Writes

variable {d : Location} {n : Text} {content : Bytes} (h : ws.Writes d n content ws')
include h

theorem writesAt : WritesAt (d ++ [n]) content ws ws' := by
  rw [h.eq]
  exact writesAt_put h.before content

theorem sound' : ws'.Sound := by
  rw [h.eq]
  apply h.sound.put h.directory h.name
  · intro hdirectory
    cases h.before _ hdirectory
  · simp

theorem workingDirectory : ws'.workingDirectory = ws.workingDirectory := h.writesAt.workingDirectory

theorem homes : ws'.homes = ws.homes := h.writesAt.homes

theorem get?_place : ws'.files.get? (d ++ [n]) = some (.file content) := h.writesAt.written

/-- A path that denotes the file now reaches its place. -/
theorem reaches {follow : Bool} (hentry : ws'.entryAt follow t = .ok (d ++ [n], .file content)) :
    ws'.Reaches t (d ++ [n]) :=
  h.sound'.reaches_of_entryAt (by simp) hentry

theorem isDirectory (t : Text) : ws'.isDirectory t = ws.isDirectory t := by
  have hentry := h.writesAt.entryAt true t
  rw [Workspace.isDirectory, Workspace.isDirectory, stat, stat]
  generalize ws.entryAt true t = r at hentry ⊢
  generalize ws'.entryAt true t = r' at hentry ⊢
  cases hentry <;> rfl

theorem isLink (t : Text) : ws'.isLink t = ws.isLink t := by
  have hentry := h.writesAt.entryAt false t
  rw [Workspace.isLink, Workspace.isLink, linkStat, linkStat]
  generalize ws.entryAt false t = r at hentry ⊢
  generalize ws'.entryAt false t = r' at hentry ⊢
  cases hentry <;> rfl

theorem isKind_isDirectory (t : Text) :
    ws'.isKind Entry.isDirectory t = ws.isKind Entry.isDirectory t := by
  have hentry := h.writesAt.entryAt true t
  rw [isKind, isKind, stat, stat]
  generalize ws.entryAt true t = r at hentry ⊢
  generalize ws'.entryAt true t = r' at hentry ⊢
  cases hentry <;> rfl

theorem denotesLink (t : Text) : ws'.denotesLink t = ws.denotesLink t := by
  have hentry := h.writesAt.entryAt false t
  rw [Workspace.denotesLink, Workspace.denotesLink, linkStat, linkStat]
  generalize ws.entryAt false t = r at hentry ⊢
  generalize ws'.entryAt false t = r' at hentry ⊢
  cases hentry <;> rfl

/-- The file is no directory, and was none. -/
theorem namesDirectory (l : Location) (m t : Text) :
    ws'.namesDirectory l m t = ws.namesDirectory l m t := by
  rw [Workspace.namesDirectory, Workspace.namesDirectory, h.isDirectory]
  by_cases hplace : l ++ [m] = d ++ [n]
  · rw [hplace, h.get?_place]
    cases hbefore : ws.files.get? (d ++ [n]) with
    | none => rfl
    | some e =>
        cases e with
        | file b => rfl
        | directory => cases h.before _ hbefore
        | link target => cases h.before _ hbefore
  · rw [h.writesAt.elsewhere _ hplace]

/-- Only a path that reaches the file can denote something new. -/
theorem hasEntry_cases (t : Text) : ws'.hasEntry t = ws.hasEntry t ∨
    ws.hasEntry t = false ∧ ws'.hasEntry t = true ∧ ws'.Reaches t (d ++ [n]) := by
  have hentry := h.writesAt.entryAt false t
  have hreaches : ws'.entryAt false t = .ok (d ++ [n], .file content) →
      ws'.Reaches t (d ++ [n]) := h.reaches
  rw [hasEntry, hasEntry, linkStat, linkStat]
  generalize ws.entryAt false t = r at hentry ⊢
  generalize ws'.entryAt false t = r' at hentry hreaches ⊢
  cases hentry with
  | same => exact .inl rfl
  | renewed b => exact .inl rfl
  | gained => exact .inr ⟨rfl, rfl, hreaches rfl⟩
  | blocked => exact .inl rfl

/-- Only a path that reaches the file can lead to a new file. -/
theorem isFile_cases (t : Text) :
    ws'.isKind Entry.isFile t = ws.isKind Entry.isFile t ∨
      ws.isKind Entry.isFile t = .ok false ∧ ws'.isKind Entry.isFile t = .ok true ∧
        ws'.Reaches t (d ++ [n]) := by
  have hentry := h.writesAt.entryAt true t
  have hreaches : ws'.entryAt true t = .ok (d ++ [n], .file content) →
      ws'.Reaches t (d ++ [n]) := h.reaches
  rw [isKind, isKind, stat, stat]
  generalize ws.entryAt true t = r at hentry ⊢
  generalize ws'.entryAt true t = r' at hentry hreaches ⊢
  cases hentry with
  | same => exact .inl rfl
  | renewed b => exact .inl rfl
  | gained => exact .inr ⟨rfl, rfl, hreaches rfl⟩
  | blocked => exact .inl rfl

/-- What could be read is read as before, unless the path reaches the file. -/
theorem read_of_not_reaches (ht : ¬ ws'.Reaches t (d ++ [n])) {b : Bytes}
    (hread : ws.read t = .ok b) : ws'.read t = .ok b := by
  have hentry := h.writesAt.entryAt true t
  have hreaches : ws'.entryAt true t = .ok (d ++ [n], .file content) →
      ws'.Reaches t (d ++ [n]) := h.reaches
  rw [Workspace.read, stat] at hread ⊢
  generalize ws.entryAt true t = r at hentry hread
  generalize ws'.entryAt true t = r' at hentry hreaches ⊢
  cases hentry with
  | same => exact hread
  | renewed => exact absurd (hreaches rfl) ht
  | gained => exact absurd (hreaches rfl) ht
  | blocked => cases hread

/-- A path is asked for as before, if it was there. -/
theorem stat_isOk (ht : (ws.stat t).isOk = true) : (ws'.stat t).isOk = true := by
  have hentry := h.writesAt.entryAt true t
  rw [stat] at ht ⊢
  generalize ws.entryAt true t = r at hentry ht
  generalize ws'.entryAt true t = r' at hentry ⊢
  cases hentry with
  | same => exact ht
  | renewed => rfl
  | gained => rfl
  | blocked => cases ht

/-- The names in a directory stay, with the name of the file after them if that is new there. -/
theorem names_cases (l : Location) : ws'.files.names l = ws.files.names l ∨
    l = d ∧ ws'.files.names l = ws.files.names l ++ [n] := by
  rw [h.eq]
  change (ws.files.put (d ++ [n]) (.file content)).names l = _ ∨
    l = d ∧ (ws.files.put (d ++ [n]) (.file content)).names l = _
  cases hbefore : ws.files.get? (d ++ [n]) with
  | some e => exact .inl (names_put_of_some hbefore l)
  | none =>
      rw [names_put_of_none hbefore]
      by_cases hd : d = l
      · rw [if_pos hd]
        exact .inr ⟨hd.symm, rfl⟩
      · rw [if_neg hd]
        exact .inl (List.append_nil _)

/-- Listing a directory gives the same names, with that of the file after them if that is new there. -/
theorem list_cases (t : Text) :
    (∃ r r', ws.list t = .error r ∧ ws'.list t = .error r' ∧
      (r' = .nullCharacter ↔ r = .nullCharacter)) ∨
    ∃ names, ws.list t = .ok names ∧ (ws'.list t = .ok names ∨
      ws'.list t = .ok (names ++ [n]) ∧ ws'.Reaches t d) := by
  have hentry := h.writesAt.entryAt true t
  have hreaches : ws'.entryAt true t = .ok (d, .directory) → ws'.Reaches t d :=
    h.sound'.reaches_of_entryAt (by simp)
  rw [list, list]
  generalize ws.entryAt true t = r at hentry ⊢
  generalize ws'.entryAt true t = r' at hentry hreaches ⊢
  cases hentry with
  | same =>
      cases r with
      | error r => exact .inl ⟨r, r, rfl, rfl, Iff.rfl⟩
      | ok entry =>
          obtain ⟨l, e⟩ := entry
          cases e with
          | directory =>
              refine .inr ⟨ws.files.names l, rfl, ?_⟩
              obtain hsame | ⟨rfl, hmore⟩ := h.names_cases l
              · exact .inl (congrArg Except.ok hsame)
              · exact .inr ⟨congrArg Except.ok hmore, hreaches rfl⟩
          | file b => exact .inl ⟨_, _, rfl, rfl, Iff.rfl⟩
          | link target => exact .inl ⟨_, _, rfl, rfl, Iff.rfl⟩
  | renewed => exact .inl ⟨_, _, rfl, rfl, Iff.rfl⟩
  | gained => exact .inl ⟨_, _, rfl, rfl, by simp⟩
  | blocked => exact .inl ⟨_, _, rfl, rfl, by simp⟩

/-! ## Real paths -/

theorem sameLinks : SameLinks ws.files ws'.files := by
  intro l target
  by_cases hl : l = d ++ [n]
  · subst hl
    rw [h.get?_place]
    refine iff_of_false (by simp) fun hlink => ?_
    cases h.before _ hlink
  · rw [h.writesAt.elsewhere l hl]

/-- There is at most one more entry than before. -/
theorem length_entries : ws'.files.entries.length = ws.files.entries.length ∨
    ws'.files.entries.length = ws.files.entries.length + 1 := by
  rw [h.eq]
  change (setEntry (d ++ [n]) (.file content) ws.files.entries).length = _ ∨
    (setEntry (d ++ [n]) (.file content) ws.files.entries).length = _
  by_cases hmem : d ++ [n] ∈ ws.files.entries.map (·.1)
  · have hlength := congrArg List.length (setEntry_of_mem (e := .file content) hmem)
    rw [List.length_map, List.length_map] at hlength
    exact .inl hlength
  · rw [setEntry_of_not_mem hmem]
    exact .inr List.length_append

theorem realPath (t : Text) : ws'.realPath t = ws.realPath t := by
  have hopens : Trail.Opens ws.files [] [] := ⟨List.nodup_nil, by simp, by simp⟩
  rw [Workspace.realPath, Workspace.realPath, h.workingDirectory, followLinks_congr h.sameLinks]
  obtain hlength | hlength := h.length_entries
  · rw [hlength]
  · rw [hlength, followLinks_succ hopens (by simp)]

/-- The real path of the file is its place. -/
theorem realPath_of_reaches (ht : ws'.Reaches t (d ++ [n])) :
    ws'.realPath t = .ok (Location.path (d ++ [n])) :=
  h.sound'.realPath_of_reaches ht

theorem realFile (p : Path) : ws'.realFile p = ws.realFile p := by
  rw [Workspace.realFile, Workspace.realFile, h.realPath]
  cases ws.realPath p.text with
  | error r => rfl
  | ok l =>
      have hentry := h.writesAt.entryAt true l.text
      dsimp only
      rw [stat, stat]
      generalize ws.entryAt true l.text = r at hentry ⊢
      generalize ws'.entryAt true l.text = r' at hentry ⊢
      cases hentry <;> rfl

/-- Writing the same content through a path that leads to the file changes nothing. -/
theorem write_again
    (ht : ws'.lookup true (endsWith t ['/']) t = .ok (.found (d ++ [n]) (.file content))) :
    ws'.write t content = .ok ws' := by
  have hput : ws'.put (d ++ [n]) (.file content) = ws' := by
    rw [h.eq]
    exact congrArg (fun entries => { ws with files := ⟨entries⟩ })
      (setEntry_setEntry (d ++ [n]) ws.files.entries)
  rw [write, ht]
  exact congrArg Except.ok hput

end Writes

/-- Writing writes a file in a directory, and the path leads to it then. -/
theorem Sound.writes_of_write (h : ws.Sound) {content : Bytes}
    (hwrite : ws.write t content = .ok ws') :
    ∃ d n, ws.Writes d n content ws' ∧
      ws'.lookup true (endsWith t ['/']) t = .ok (.found (d ++ [n]) (.file content)) := by
  obtain ⟨d, n, p, hlookup, hfor, hwrites⟩ : ∃ d n p,
      ws.lookup true (endsWith t ['/']) t = .ok p ∧ IsFor (d ++ [n]) p ∧
        ws.Writes d n content ws' := by
    rw [write] at hwrite
    split at hwrite
    · cases hwrite
    · next l e hdirectory hlookup =>
        obtain rfl := Except.ok.inj hwrite
        cases arrives_of_lookup hlookup with
        | directory => exact absurd rfl hdirectory
        | file hfile =>
            obtain rfl | ⟨d, n, rfl⟩ := List.eq_nil_or_concat l
            · cases hfile
            · rw [List.concat_eq_append] at hfile hlookup ⊢
              refine ⟨d, n, _, hlookup, .file _, h, h.files.parent hfile, ?_, ?_, rfl⟩
              · exact h.files.names hfile n (by simp)
              · intro e he
                obtain rfl := Option.some.inj (hfile.symm.trans he)
                rfl
        | link _ hfollow => cases hfollow
    · next d n hlookup =>
        obtain rfl := Except.ok.inj hwrite
        cases arrives_of_lookup hlookup with
        | free hnone =>
            cases h.isPlace_of_lookup hlookup with
            | free hd hn =>
                refine ⟨d, n, _, hlookup, .free rfl, h, hd, hn, ?_, rfl⟩
                intro e he
                rw [hnone] at he
                cases he
    · cases hwrite
    · cases hwrite
  refine ⟨d, n, hwrites, ?_⟩
  have hshift := hwrites.writesAt.lookup true (endsWith t ['/']) t
  rw [hlookup] at hshift
  exact hshift.eq_of_isFor hfor

end Workspace

end SourceAtlas
