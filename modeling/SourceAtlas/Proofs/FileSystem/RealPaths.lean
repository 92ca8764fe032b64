import SourceAtlas.FileSystem.RealPath
import SourceAtlas.Proofs.Joining
import SourceAtlas.Proofs.Outcomes

/-!
# Names of real paths

The search for a real path invents no names: each one that it finds is of the location where it
starts, of the text or of a link.  What holds of all of these holds of the names that are found.  The
search fails for a null character only.
-/

namespace SourceAtlas

open Text

namespace FileSystem

/-- Names that can stand between slashes. -/
def Segments (l : List Text) : Prop := ∀ n ∈ l, n ≠ [] ∧ '/' ∉ n

/-! ## One piece at a time -/

namespace Trail

/-- What the trail says of a link: nothing, that its target is being followed, or where it leads. -/
def at? (trail : Trail) (here : Location) : Option (Option Location) :=
  (trail.find? (·.1 = here)).map (·.2)

variable {trail : Trail} {here other : Location} {known : Option Location}

theorem at?_cons_self : Trail.at? ((here, known) :: trail) here = some known := by
  simp [at?]

theorem at?_cons_of_ne (h : other ≠ here) : Trail.at? ((here, known) :: trail) other = trail.at? other := by
  simp [at?, h.symm]

theorem mem_of_at? (h : trail.at? here = some known) : (here, known) ∈ trail := by
  obtain ⟨⟨other, known'⟩, hfind, rfl⟩ := Option.map_eq_some_iff.mp h
  have hplace : other = here := by simpa using List.find?_some hfind
  rw [← hplace]
  exact List.mem_of_find?_eq_some hfind

end Trail

/-- A piece that a search looks for in its directory. -/
structure IsPiece (n : Text) : Prop where
  not_idle : ¬ (n = [] ∨ n = ['.'])
  ne_up : n ≠ ['.', '.']
  null : Char.ofNat 0 ∉ n

/-- What a search from a location comes upon with its first piece. -/
inductive FirstPiece (fs : FileSystem) (l : Location) : Text → Prop
  | idle {n : Text} (hn : n = [] ∨ n = ['.']) : FirstPiece fs l n
  | up : FirstPiece fs l ['.', '.']
  | null {n : Text} (hnull : Char.ofNat 0 ∈ n) : FirstPiece fs l n
  | down {n : Text} (hn : IsPiece n) (hlink : ∀ target, fs.get? (l ++ [n]) ≠ some (.link target)) :
      FirstPiece fs l n
  | link {n target : Text} (hn : IsPiece n) (hlink : fs.get? (l ++ [n]) = some (.link target)) :
      FirstPiece fs l n

theorem firstPiece (fs : FileSystem) (l : Location) (n : Text) : FirstPiece fs l n := by
  by_cases hidle : n = [] ∨ n = ['.']
  · exact .idle hidle
  by_cases hup : n = ['.', '.']
  · subst hup
    exact .up
  by_cases hnull : Char.ofNat 0 ∈ n
  · exact .null hnull
  by_cases hlink : ∃ target, fs.get? (l ++ [n]) = some (.link target)
  · obtain ⟨target, hlink⟩ := hlink
    exact .link ⟨hidle, hup, hnull⟩ hlink
  · exact .down ⟨hidle, hup, hnull⟩ fun target htarget => hlink ⟨target, htarget⟩

section Pieces

variable {fs : FileSystem} {nested : Location → List Text → Trail → Except Reason (Found × Trail)}
  {l : Location} {trail : Trail} {n : Text} {ns : List Text}

theorem followPieces_idle (hn : n = [] ∨ n = ['.']) :
    followPieces fs nested l trail (n :: ns) = followPieces fs nested l trail ns := by
  rw [followPieces, if_pos hn]

theorem followPieces_up :
    followPieces fs nested l trail (['.', '.'] :: ns) = followPieces fs nested l.dropLast trail ns := by
  rw [followPieces, if_neg (by decide), if_pos rfl]

theorem followPieces_null (hnull : Char.ofNat 0 ∈ n) :
    followPieces fs nested l trail (n :: ns) = .error .nullCharacter := by
  have hidle : ¬ (n = [] ∨ n = ['.']) := by
    rintro (rfl | rfl)
    · cases hnull
    · exact absurd hnull (by decide)
  have hup : n ≠ ['.', '.'] := by
    rintro rfl
    exact absurd hnull (by decide)
  rw [followPieces, if_neg hidle, if_neg hup, if_pos (by simpa using hnull)]

theorem followPieces_down (hn : IsPiece n)
    (hlink : ∀ target, fs.get? (l ++ [n]) ≠ some (.link target)) :
    followPieces fs nested l trail (n :: ns) = followPieces fs nested (l ++ [n]) trail ns := by
  rw [followPieces, if_neg hn.not_idle, if_neg hn.ne_up, if_neg (by simpa using hn.null)]
  dsimp only
  split
  · next target htarget => exact absurd htarget (hlink target)
  · rfl

/-- What a trail says of a link decides how it is followed. -/
theorem followPieces_link {target : Text} (hn : IsPiece n)
    (hlink : fs.get? (l ++ [n]) = some (.link target)) :
    followPieces fs nested l trail (n :: ns) =
      match trail.at? (l ++ [n]) with
      | some (some known) => followPieces fs nested known trail ns
      | some none => .ok (joinRest .root (l ++ [n]) ns, trail)
      | none =>
        nested (startOf target l) (splitOn '/' target) ((l ++ [n], none) :: trail) >>=
          fun (found, trail) =>
            if found.complete then
              followPieces fs nested found.names ((l ++ [n], some found.names) :: trail) ns
            else .ok (joinRest found.anchor found.names ns, trail) := by
  rw [followPieces, if_neg hn.not_idle, if_neg hn.ne_up, if_neg (by simpa using hn.null)]
  simp only [hlink, Trail.at?]
  cases trail.find? (·.1 = l ++ [n]) with
  | none => rfl
  | some entry =>
      obtain ⟨other, known⟩ := entry
      cases known <;> rfl

end Pieces

/-! ## How a search goes on -/

/-- The way of a search along pieces that succeeds, and what it finds: it goes on piece by piece, to
where a link is known to lead or where the search for its target ends, and breaks off at a link that
is being followed already. -/
inductive Searches (fs : FileSystem)
    (nested : Location → List Text → Trail → Except Reason (Found × Trail)) :
    Location → List Text → Trail → Found → Trail → Prop
  | done (l : Location) (trail : Trail) : Searches fs nested l [] trail ⟨.root, l, true⟩ trail
  | idle {l : Location} {n : Text} {ns : List Text} {trail trail' : Trail} {found : Found}
      (hn : n = [] ∨ n = ['.']) (rest : Searches fs nested l ns trail found trail') :
      Searches fs nested l (n :: ns) trail found trail'
  | up {l : Location} {ns : List Text} {trail trail' : Trail} {found : Found}
      (rest : Searches fs nested l.dropLast ns trail found trail') :
      Searches fs nested l (['.', '.'] :: ns) trail found trail'
  | down {l : Location} {n : Text} {ns : List Text} {trail trail' : Trail} {found : Found}
      (hidle : ¬ (n = [] ∨ n = ['.'])) (hup : n ≠ ['.', '.']) (hnull : Char.ofNat 0 ∉ n)
      (hlink : ∀ target, fs.get? (l ++ [n]) ≠ some (.link target))
      (rest : Searches fs nested (l ++ [n]) ns trail found trail') :
      Searches fs nested l (n :: ns) trail found trail'
  | known {l : Location} {n : Text} {ns : List Text} {trail trail' : Trail} {found : Found}
      {known : Location} (hknown : (l ++ [n], some known) ∈ trail)
      (rest : Searches fs nested known ns trail found trail') :
      Searches fs nested l (n :: ns) trail found trail'
  | circle {l : Location} {n : Text} {ns : List Text} {trail : Trail}
      (hidle : ¬ (n = [] ∨ n = ['.'])) (hopen : (l ++ [n], none) ∈ trail) :
      Searches fs nested l (n :: ns) trail (joinRest .root (l ++ [n]) ns) trail
  | through {l : Location} {n : Text} {ns : List Text} {trail trail' trail'' : Trail}
      {found inner : Found} {target : Text} (hlink : fs.get? (l ++ [n]) = some (.link target))
      (hinner : nested (startOf target l) (splitOn '/' target) ((l ++ [n], none) :: trail) =
        .ok (inner, trail')) (hcomplete : inner.complete = true)
      (rest : Searches fs nested inner.names ns ((l ++ [n], some inner.names) :: trail') found
        trail'') : Searches fs nested l (n :: ns) trail found trail''
  | broken {l : Location} {n : Text} {ns : List Text} {trail trail' : Trail} {inner : Found}
      {target : Text} (hlink : fs.get? (l ++ [n]) = some (.link target))
      (hinner : nested (startOf target l) (splitOn '/' target) ((l ++ [n], none) :: trail) =
        .ok (inner, trail')) :
      Searches fs nested l (n :: ns) trail (joinRest inner.anchor inner.names ns) trail'

theorem searches_of_followPieces {fs : FileSystem}
    {nested : Location → List Text → Trail → Except Reason (Found × Trail)} {l : Location}
    {pieces : List Text} {trail trail' : Trail} {found : Found}
    (h : followPieces fs nested l trail pieces = .ok (found, trail')) :
    Searches fs nested l pieces trail found trail' := by
  induction pieces generalizing l trail with
  | nil =>
      obtain ⟨rfl, rfl⟩ := Prod.mk.inj (Except.ok.inj h)
      exact .done l trail
  | cons n ns ih =>
      cases firstPiece fs l n with
      | idle hn => exact .idle hn (ih ((followPieces_idle hn).symm.trans h))
      | up => exact .up (ih (followPieces_up.symm.trans h))
      | null hnull => cases (followPieces_null hnull).symm.trans h
      | down hn hlink =>
          exact .down hn.not_idle hn.ne_up hn.null hlink (ih ((followPieces_down hn hlink).symm.trans h))
      | link hn hlink =>
          rw [followPieces_link hn hlink] at h
          split at h
          · next hknown => exact .known (Trail.mem_of_at? hknown) (ih h)
          · next hopen =>
              obtain ⟨rfl, rfl⟩ := Prod.mk.inj (Except.ok.inj h)
              exact .circle hn.not_idle (Trail.mem_of_at? hopen)
          · obtain ⟨⟨inner, trail''⟩, hinner, h⟩ := bind_eq_ok.mp h
            dsimp only at h
            split at h
            · next hcomplete => exact .through hlink hinner hcomplete (ih h)
            · obtain ⟨rfl, rfl⟩ := Prod.mk.inj (Except.ok.inj h)
              exact .broken hlink hinner

/-! ## Where it begins -/

/-- What is left of a text is appended to an absolute path, or absolute itself. -/
theorem anchor_joinRest_ne {anchor : Anchor} {names rest : List Text} (h : anchor ≠ .relative) :
    (joinRest anchor names rest).anchor ≠ .relative := by
  unfold joinRest
  split
  · exact h
  · next piece pieces =>
      dsimp only
      rw [join, List.nil_append, List.singleton_append]
      · unfold Anchor.ofText
        split <;> simp_all
      · simp
  · exact h

/-- A search that finds absolute paths. -/
def FindsAbsolute (search : Location → List Text → Trail → Except Reason (Found × Trail)) : Prop :=
  ∀ {l pieces trail found trail'}, search l pieces trail = .ok (found, trail') →
    found.anchor ≠ .relative

theorem findsAbsolute_followPieces {fs : FileSystem}
    {nested : Location → List Text → Trail → Except Reason (Found × Trail)}
    (hnested : FindsAbsolute nested) :
    FindsAbsolute fun l pieces trail => followPieces fs nested l trail pieces := by
  intro l pieces trail found trail' h
  replace h := searches_of_followPieces h
  induction h with
  | done => simp
  | idle _ _ ih => exact ih
  | up _ ih => exact ih
  | down _ _ _ _ _ ih => exact ih
  | known _ _ ih => exact ih
  | circle => exact anchor_joinRest_ne (by simp)
  | through _ _ _ _ ih => exact ih
  | broken _ hinner => exact anchor_joinRest_ne (hnested hinner)

theorem findsAbsolute_followLinks (fs : FileSystem) (depth : Nat) :
    FindsAbsolute (followLinks fs depth) := by
  induction depth with
  | zero =>
      apply findsAbsolute_followPieces
      intro l pieces trail found trail' h
      obtain ⟨rfl, rfl⟩ := Prod.mk.inj (Except.ok.inj h)
      exact anchor_joinRest_ne (by simp)
  | succ depth ih => exact findsAbsolute_followPieces ih

/-! ## What holds of the names -/

section Names

variable (p : Text → Prop)

/-- The names that a text is made of have a property; the empty ones between slashes do not count. -/
def Spells (pieces : List Text) : Prop := ∀ n ∈ pieces, n ≠ [] → p n

/-- What the links on the way are known to lead to is made of names with a property. -/
def Trail.Satisfies (trail : Trail) : Prop := ∀ q ∈ trail, ∀ l, q.2 = some l → ∀ n ∈ l, p n

/-- A search that finds names with a property when it starts from such names. -/
def Finds (search : Location → List Text → Trail → Except Reason (Found × Trail)) : Prop :=
  ∀ {l pieces trail found trail'}, (∀ n ∈ l, p n) → Spells p pieces → trail.Satisfies p →
    search l pieces trail = .ok (found, trail') →
      (∀ n ∈ found.names, p n) ∧ trail'.Satisfies p

/-- All links of a file system are made of names with a property. -/
def LinksSpell (fs : FileSystem) : Prop :=
  ∀ l target, fs.get? l = some (.link target) → Spells p (splitOn '/' target)

variable {p}

theorem Spells.tail {n : Text} {ns : List Text} (h : Spells p (n :: ns)) : Spells p ns :=
  fun m hm => h m (List.mem_cons_of_mem n hm)

theorem forall_mem_concat {l : List Text} {n : Text} (h : ∀ m ∈ l, p m) (hn : p n) :
    ∀ m ∈ l ++ [n], p m := by
  intro m hm
  rcases List.mem_append.mp hm with hm | hm
  · exact h m hm
  · obtain rfl := List.mem_singleton.mp hm
    exact hn

theorem forall_mem_startOf {l : Location} (h : ∀ n ∈ l, p n) (t : Text) :
    ∀ n ∈ startOf t l, p n := by
  unfold startOf
  split
  · simp
  · exact h

theorem forall_mem_joinRest {anchor : Anchor} {names rest : List Text} (h : ∀ n ∈ names, p n)
    (hrest : Spells p rest) : ∀ n ∈ (joinRest anchor names rest).names, p n := by
  have hfilter : ∀ n ∈ rest.filter (· ≠ []), p n := by
    intro n hn
    obtain ⟨hmem, hne⟩ := List.mem_filter.mp hn
    exact hrest n hmem (by simpa using hne)
  unfold joinRest
  split
  · exact h
  · exact hfilter
  · intro n hn
    rcases List.mem_append.mp hn with hn | hn
    · exact h n hn
    · exact hfilter n hn

theorem Trail.Satisfies.cons {trail : Trail} (h : trail.Satisfies p) {here : Location}
    {known : Option Location} (hknown : ∀ l, known = some l → ∀ n ∈ l, p n) :
    Trail.Satisfies p ((here, known) :: trail) := by
  intro q hq
  rcases List.mem_cons.mp hq with rfl | hq
  · exact hknown
  · exact h q hq

/-- Following pieces finds names with a property if following the target of a link does. -/
theorem finds_followPieces {fs : FileSystem} (hlinks : LinksSpell p fs)
    {nested : Location → List Text → Trail → Except Reason (Found × Trail)}
    (hnested : Finds p nested) :
    Finds p fun l pieces trail => followPieces fs nested l trail pieces := by
  intro l pieces trail found trail' hl hpieces htrail h
  replace h := searches_of_followPieces h
  induction h with
  | done => exact ⟨hl, htrail⟩
  | idle _ _ ih => exact ih hl hpieces.tail htrail
  | up _ ih => exact ih (fun m hm => hl m (List.dropLast_subset _ hm)) hpieces.tail htrail
  | down hidle _ _ _ _ ih =>
      have hn := hpieces _ List.mem_cons_self fun hn => hidle (.inl hn)
      exact ih (forall_mem_concat hl hn) hpieces.tail htrail
  | known hknown _ ih => exact ih (htrail _ hknown _ rfl) hpieces.tail htrail
  | circle hidle _ =>
      have hn := hpieces _ List.mem_cons_self fun hn => hidle (.inl hn)
      exact ⟨forall_mem_joinRest (forall_mem_concat hl hn) hpieces.tail, htrail⟩
  | @through _ _ _ _ _ _ _ _ target hlink hinner _ _ ih =>
      obtain ⟨hnames, htrail'⟩ := hnested (forall_mem_startOf hl target) (hlinks _ target hlink)
        (htrail.cons (by simp)) hinner
      refine ih hnames hpieces.tail (htrail'.cons ?_)
      rintro l' ⟨⟩
      exact hnames
  | @broken _ _ _ _ _ _ target hlink hinner =>
      obtain ⟨hnames, htrail'⟩ := hnested (forall_mem_startOf hl target) (hlinks _ target hlink)
        (htrail.cons (by simp)) hinner
      exact ⟨forall_mem_joinRest hnames hpieces.tail, htrail'⟩

theorem finds_followLinks {fs : FileSystem} (hlinks : LinksSpell p fs) (depth : Nat) :
    Finds p (followLinks fs depth) := by
  induction depth with
  | zero =>
      apply finds_followPieces hlinks
      intro l pieces trail found trail' hl hpieces htrail h
      obtain ⟨rfl, rfl⟩ := Prod.mk.inj (Except.ok.inj h)
      exact ⟨forall_mem_joinRest hl hpieces, htrail⟩
  | succ depth ih => exact finds_followPieces hlinks ih

end Names

/-- Names that stay when parent steps are taken back. -/
theorem of_mem_collapse {names : List Text} {done : Location} {n : Text} (h : n ∈ collapse done names) :
    n ∈ done ∨ n ∈ names ∧ n ≠ ['.'] := by
  induction names generalizing done with
  | nil => exact .inl h
  | cons m ms ih =>
      unfold collapse at h
      split at h
      · exact (ih h).imp_right fun hn => ⟨List.mem_cons_of_mem m hn.1, hn.2⟩
      · next hdot =>
          split at h
          · rcases ih h with hn | hn
            · exact .inl (List.dropLast_subset done hn)
            · exact .inr ⟨List.mem_cons_of_mem m hn.1, hn.2⟩
          · rcases ih h with hn | hn
            · rcases List.mem_append.mp hn with hn | hn
              · exact .inl hn
              · obtain rfl := List.mem_singleton.mp hn
                exact .inr ⟨List.mem_cons_self, hdot⟩
            · exact .inr ⟨List.mem_cons_of_mem m hn.1, hn.2⟩

/-! ## Why a search fails -/

/-- A search that fails for a null character only, in its pieces or in a link. -/
def FailsForNull (fs : FileSystem)
    (search : Location → List Text → Trail → Except Reason (Found × Trail)) : Prop :=
  ∀ {l pieces trail r}, search l pieces trail = .error r →
    r = .nullCharacter ∧ ((∃ n ∈ pieces, Char.ofNat 0 ∈ n) ∨
      ∃ l target, fs.get? l = some (.link target) ∧ Char.ofNat 0 ∈ target)

theorem failsForNull_followPieces {fs : FileSystem}
    {nested : Location → List Text → Trail → Except Reason (Found × Trail)}
    (hnested : FailsForNull fs nested) :
    FailsForNull fs fun l pieces trail => followPieces fs nested l trail pieces := by
  intro l pieces trail r h
  replace h : followPieces fs nested l trail pieces = .error r := h
  induction pieces generalizing l trail with
  | nil => exact absurd h (by simp [followPieces])
  | cons n ns ih =>
      have hrest : ∀ {l trail}, followPieces fs nested l trail ns = .error r →
          r = .nullCharacter ∧ ((∃ m ∈ n :: ns, Char.ofNat 0 ∈ m) ∨
            ∃ l target, fs.get? l = some (.link target) ∧ Char.ofNat 0 ∈ target) := by
        intro l trail h
        obtain ⟨hr, hnull⟩ := ih h
        refine ⟨hr, hnull.imp_left ?_⟩
        rintro ⟨m, hm, hnull⟩
        exact ⟨m, List.mem_cons_of_mem n hm, hnull⟩
      cases firstPiece fs l n with
      | idle hn => exact hrest ((followPieces_idle hn).symm.trans h)
      | up => exact hrest (followPieces_up.symm.trans h)
      | null hnull =>
          obtain rfl := Except.error.inj ((followPieces_null hnull).symm.trans h)
          exact ⟨rfl, .inl ⟨n, List.mem_cons_self, hnull⟩⟩
      | down hn hlink => exact hrest ((followPieces_down hn hlink).symm.trans h)
      | @link _ target hn hlink =>
          rw [followPieces_link hn hlink] at h
          split at h
          · exact hrest h
          · cases h
          · obtain hinner | ⟨⟨inner, trail'⟩, -, h⟩ := bind_eq_error.mp h
            · obtain ⟨hr, hnull⟩ := hnested hinner
              refine ⟨hr, .inr ?_⟩
              obtain ⟨m, hm, hnull⟩ | hnull := hnull
              · exact ⟨_, target, hlink, Text.subset_of_mem_splitOn hm hnull⟩
              · exact hnull
            · dsimp only at h
              split at h
              · exact hrest h
              · cases h

theorem failsForNull_followLinks (fs : FileSystem) (depth : Nat) :
    FailsForNull fs (followLinks fs depth) := by
  induction depth with
  | zero =>
      apply failsForNull_followPieces
      intro l pieces trail r h
      exact absurd h (by simp)
  | succ depth ih => exact failsForNull_followPieces ih

end FileSystem

/-- A name as it stands in a real path. -/
structure IsProperName (n : Text) : Prop where
  ne_nil : n ≠ []
  ne_dot : n ≠ ['.']
  slash : '/' ∉ n

/-- What holds of the names in the working directory, in the text and in the links holds of the names
of a real path. -/
theorem Workspace.forall_mem_realPath {ws : Workspace} {p : Text → Prop} {t : Text} {real : Path}
    (hlinks : FileSystem.LinksSpell p ws.files) (hdirectory : ∀ n ∈ ws.workingDirectory, p n)
    (htext : FileSystem.Spells p (splitOn '/' t)) (h : ws.realPath t = .ok real) :
    ∀ n ∈ real.names, p n ∧ n ≠ ['.'] := by
  obtain ⟨⟨found, trail⟩, hfound, hreal⟩ := bind_eq_ok.mp h
  obtain rfl := pure_eq_ok.mp hreal
  have hnames := (FileSystem.finds_followLinks hlinks _
    (FileSystem.forall_mem_startOf hdirectory t) htext (by simp [FileSystem.Trail.Satisfies])
    hfound).1
  intro n hn
  rcases FileSystem.of_mem_collapse hn with hn | ⟨hn, hdot⟩
  · exact absurd hn (by simp)
  · exact ⟨hnames n hn, hdot⟩

/-- A real path is made of proper names. -/
theorem Workspace.isProperName_of_realPath {ws : Workspace} {t : Text} {real : Path}
    (hdirectory : FileSystem.Segments ws.workingDirectory) (h : ws.realPath t = .ok real) :
    ∀ n ∈ real.names, IsProperName n := by
  have hsplit : ∀ t, FileSystem.Spells (fun n => n ≠ [] ∧ '/' ∉ n) (splitOn '/' t) :=
    fun t n hn hne => ⟨hne, Text.not_mem_of_mem_splitOn hn⟩
  intro n hn
  obtain ⟨⟨hne, hslash⟩, hdot⟩ :=
    forall_mem_realPath (fun _ target _ => hsplit target) hdirectory (hsplit t) h n hn
  exact ⟨hne, hdot, hslash⟩

/-- A real path is absolute. -/
theorem Workspace.anchor_ne_of_realPath {ws : Workspace} {t : Text} {real : Path}
    (h : ws.realPath t = .ok real) : real.anchor ≠ .relative := by
  obtain ⟨⟨found, trail⟩, hfound, hreal⟩ := bind_eq_ok.mp h
  obtain rfl := pure_eq_ok.mp hreal
  exact FileSystem.findsAbsolute_followLinks ws.files _ hfound

/-- Only a null character keeps a text from having a real path. -/
theorem Workspace.null_of_realPath {ws : Workspace} {t : Text} {r : Reason}
    (h : ws.realPath t = .error r) :
    r = .nullCharacter ∧ (Char.ofNat 0 ∈ t ∨
      ∃ l target, ws.files.get? l = some (.link target) ∧ Char.ofNat 0 ∈ target) := by
  rcases bind_eq_error.mp h with hsearch | ⟨found, -, hfound⟩
  · obtain ⟨hr, hnull⟩ := FileSystem.failsForNull_followLinks ws.files _ hsearch
    refine ⟨hr, hnull.imp_left ?_⟩
    rintro ⟨n, hn, hnull⟩
    exact Text.subset_of_mem_splitOn hn hnull
  · exact absurd hfound (by simp [pure, Except.pure])

end SourceAtlas
