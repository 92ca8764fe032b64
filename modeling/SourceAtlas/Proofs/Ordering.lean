import SourceAtlas.Proofs.Collecting

/-!
# Files in order

The order of paths is that of their names, so the real paths of files are put in one order only.  What
is collected therefore depends only on which files are found, not on the order in which they are.
-/

namespace SourceAtlas

open Text

/-! ## Orders -/

/-- A comparison that puts different elements in one order only. -/
structure IsOrdering {α : Type} (r : α → α → Bool) : Prop where
  total : ∀ a b, r a b = true ∨ r b a = true
  trans : ∀ {a b c}, r a b = true → r b c = true → r a c = true
  antisymm : ∀ {a b}, r a b = true → r b a = true → a = b

/-- Lists are compared by their first different elements; what ends before comes first. -/
def lexLe {α : Type} [DecidableEq α] (r : α → α → Bool) : List α → List α → Bool
  | [], _ => true
  | _ :: _, [] => false
  | a :: as, b :: bs => if a = b then lexLe r as bs else r a b

section Lists

variable {α : Type} [DecidableEq α] {r : α → α → Bool}

theorem lexLe_cons_iff {a b : α} {as bs : List α} : lexLe r (a :: as) (b :: bs) = true ↔
    a = b ∧ lexLe r as bs = true ∨ a ≠ b ∧ r a b = true := by
  rw [lexLe]
  by_cases hab : a = b
  · simp [hab]
  · simp [hab]

theorem lexLe_total (h : IsOrdering r) (as bs : List α) :
    lexLe r as bs = true ∨ lexLe r bs as = true := by
  induction as generalizing bs with
  | nil => exact .inl rfl
  | cons a as ih =>
      cases bs with
      | nil => exact .inr rfl
      | cons b bs =>
          rw [lexLe_cons_iff, lexLe_cons_iff]
          by_cases hab : a = b
          · exact (ih bs).imp (fun hle => .inl ⟨hab, hle⟩) fun hle => .inl ⟨hab.symm, hle⟩
          · exact (h.total a b).imp (fun hle => .inr ⟨hab, hle⟩) fun hle => .inr ⟨Ne.symm hab, hle⟩

theorem lexLe_trans (h : IsOrdering r) {as bs cs : List α} (hab : lexLe r as bs = true)
    (hbc : lexLe r bs cs = true) : lexLe r as cs = true := by
  induction as generalizing bs cs with
  | nil => rfl
  | cons a as ih =>
      cases bs with
      | nil => cases hab
      | cons b bs =>
          cases cs with
          | nil => cases hbc
          | cons c cs =>
              rw [lexLe_cons_iff] at hab hbc ⊢
              obtain ⟨rfl, has⟩ | ⟨hne, hle⟩ := hab
              · obtain ⟨rfl, hbs⟩ | hbc := hbc
                · exact .inl ⟨rfl, ih has hbs⟩
                · exact .inr hbc
              · obtain ⟨rfl, -⟩ | ⟨hne', hle'⟩ := hbc
                · exact .inr ⟨hne, hle⟩
                · refine .inr ⟨?_, h.trans hle hle'⟩
                  rintro rfl
                  exact hne (h.antisymm hle hle')

theorem lexLe_antisymm (h : IsOrdering r) {as bs : List α} (hab : lexLe r as bs = true)
    (hba : lexLe r bs as = true) : as = bs := by
  induction as generalizing bs with
  | nil =>
      cases bs with
      | nil => rfl
      | cons b bs => cases hba
  | cons a as ih =>
      cases bs with
      | nil => cases hab
      | cons b bs =>
          rw [lexLe_cons_iff] at hab hba
          obtain ⟨rfl, has⟩ | ⟨hne, hle⟩ := hab
          · obtain ⟨-, hbs⟩ | ⟨hself, -⟩ := hba
            · rw [ih has hbs]
            · exact absurd rfl hself
          · obtain ⟨rfl, -⟩ | ⟨-, hle'⟩ := hba
            · exact absurd rfl hne
            · exact absurd (h.antisymm hle hle') hne

theorem isOrdering_lexLe (h : IsOrdering r) : IsOrdering (lexLe r) :=
  ⟨lexLe_total h, lexLe_trans h, lexLe_antisymm h⟩

end Lists

namespace Text

/-- The order of characters by their code points. -/
def charLe (c d : Char) : Bool := c.toNat.ble d.toNat

theorem isOrdering_charLe : IsOrdering charLe := by
  have hle : ∀ {c d}, charLe c d = true ↔ c.toNat ≤ d.toNat := .of_eq Nat.ble_eq
  refine ⟨fun c d => ?_, fun hcd hde => ?_, fun hcd hdc => ?_⟩
  · rw [hle, hle]
    exact Nat.le_total c.toNat d.toNat
  · exact hle.mpr (Nat.le_trans (hle.mp hcd) (hle.mp hde))
  · exact Char.toNat_inj.mp (Nat.le_antisymm (hle.mp hcd) (hle.mp hdc))

theorem le_eq (s t : Text) : le s t = lexLe charLe s t := by
  induction s generalizing t with
  | nil => rfl
  | cons c cs ih =>
      cases t with
      | nil => rfl
      | cons d ds =>
          rw [le, ih, lexLe, charLe]
          by_cases hcd : c = d
          · subst hcd
            simp
          · have hne : c.toNat ≠ d.toNat := fun heq => hcd (Char.toNat_inj.mp heq)
            have hlt : c < d ↔ c.toNat < d.toNat := Iff.rfl
            have hbeq : (c == d) = false := beq_false_of_ne hcd
            rw [if_neg hcd, hbeq, Bool.false_and, Bool.or_false, Bool.eq_iff_iff, decide_eq_true_iff,
              Nat.ble_eq, hlt]
            omega

theorem isOrdering_le : IsOrdering le := by
  rw [funext fun s => funext (le_eq s)]
  exact isOrdering_lexLe isOrdering_charLe

theorem listLe_eq (ss ts : List Text) : listLe ss ts = lexLe le ss ts := by
  induction ss generalizing ts with
  | nil => rfl
  | cons s ss ih =>
      cases ts with
      | nil => rfl
      | cons t ts => rw [listLe, ih, lexLe]

end Text

namespace Path

/-- The order of paths is that of their names. -/
theorem isOrdering_key : IsOrdering listLe := by
  rw [funext fun ss => funext (listLe_eq ss)]
  exact isOrdering_lexLe isOrdering_le

theorem pairwise_mergeSort_le (paths : List Path) :
    (paths.mergeSort Path.le).Pairwise fun p q => p.le q = true := by
  apply List.pairwise_mergeSort
  · exact fun p q r => isOrdering_key.trans
  · intro p q
    rw [Bool.or_eq_true]
    exact isOrdering_key.total p.key q.key

/-- The names of an absolute path for comparison give the path. -/
theorem key_injective {p q : Path} (hp : p.anchor ≠ .relative) (hq : q.anchor ≠ .relative)
    (h : p.key = q.key) : p = q := by
  obtain ⟨anchor, names⟩ := p
  obtain ⟨anchor', names'⟩ := q
  have hkey : ∀ {a : Anchor} {ns : List Text}, a ≠ .relative → key ⟨a, ns⟩ = a.text :: ns := by
    intro a ns ha
    cases a with
    | relative => exact absurd rfl ha
    | root => rfl
    | doubled => rfl
  rw [hkey hp, hkey hq, List.cons.injEq] at h
  obtain ⟨htext, rfl⟩ := h
  have hanchor : anchor = anchor' := by
    cases anchor <;> cases anchor' <;> first | rfl | cases htext
  rw [hanchor]

/-- The real paths of two files are in order both ways only if they are the same. -/
theorem le_antisymm {p q : Path} (hp : IsRealFile p) (hq : IsRealFile q) (hpq : p.le q = true)
    (hqp : q.le p = true) : p = q :=
  key_injective hp.1 hq.1 (isOrdering_key.antisymm hpq hqp)

/-- The same files are put in the same order, however they were found. -/
theorem mergeSort_eraseDups_congr {files files' : List Path} (hreal : ∀ file ∈ files, IsRealFile file)
    (h : ∀ file, file ∈ files ↔ file ∈ files') :
    files.eraseDups.mergeSort Path.le = files'.eraseDups.mergeSort Path.le := by
  have hmem : ∀ {paths : List Path} {p : Path}, p ∈ paths.eraseDups.mergeSort Path.le ↔ p ∈ paths := by
    intro paths p
    rw [List.mem_mergeSort, List.mem_eraseDups]
  have hsame : files.eraseDups.Perm files'.eraseDups := by
    rw [List.perm_ext_iff_of_nodup (nodup_eraseDups files) (nodup_eraseDups files')]
    intro file
    rw [List.mem_eraseDups, List.mem_eraseDups, h]
  refine List.Perm.eq_of_pairwise (fun p q hp hq => le_antisymm ?_ ?_) (pairwise_mergeSort_le _)
    (pairwise_mergeSort_le _)
    ((List.mergeSort_perm _ _).trans (hsame.trans (List.mergeSort_perm _ _).symm))
  · exact hreal p (hmem.mp hp)
  · exact hreal q ((h q).mpr (hmem.mp hq))

end Path

/-! ## Outcomes with the same elements -/

/-- Operations that fail in the same way, or give lists with the same elements. -/
inductive Alike {ε α : Type} : Except ε (List α) → Except ε (List α) → Prop
  | failed (e : ε) : Alike (.error e) (.error e)
  | found {as bs : List α} (h : ∀ a, a ∈ as ↔ a ∈ bs) : Alike (.ok as) (.ok bs)

namespace Alike

variable {ε α β : Type} {x y x' y' : Except ε (List α)}

theorem refl (x : Except ε (List α)) : Alike x x := by
  cases x with
  | error e => exact .failed e
  | ok as => exact .found fun _ => .rfl

theorem append (h : Alike x y) (h' : Alike x' y') :
    Alike (x >>= fun as => x' >>= fun bs => pure (as ++ bs))
      (y >>= fun as => y' >>= fun bs => pure (as ++ bs)) := by
  cases h with
  | failed e => exact .failed e
  | found hfirst =>
      cases h' with
      | failed e => exact .failed e
      | found hrest =>
          apply Alike.found
          intro a
          rw [List.mem_append, List.mem_append, hfirst, hrest]

/-- An element may be put in the place of another one of which the same is made. -/
theorem concatM (f : β → Except ε (List α)) {b b' : β} (h : Alike (f b) (f b'))
    (before after : List β) : Alike (SourceAtlas.concatM f (before ++ b :: after))
      (SourceAtlas.concatM f (before ++ b' :: after)) := by
  induction before with
  | nil => exact h.append (.refl _)
  | cons first before ih => exact (Alike.refl (f first)).append ih

end Alike

namespace Selection

variable {s s' : Selection} {ws : Workspace}

/-- Selections that find the same files collect the same list of them. -/
theorem outcome_collect_congr (hdirectory : FileSystem.Segments ws.workingDirectory)
    (hpatterns : concatM (s'.filesOfPattern ws) s'.files = concatM (s.filesOfPattern ws) s.files)
    (h : Alike (concatM (fun directory => (s.filesOfDirectory ws directory).outcome) s.directories)
      (concatM (fun directory => (s'.filesOfDirectory ws directory).outcome) s'.directories)) :
    (s.collect ws).outcome = (s'.collect ws).outcome := by
  have hreal : ∀ files, (s.collect ws).outcome = .ok files → ∀ file ∈ files, IsRealFile file :=
    fun files hfiles => (collect_eq_ok hdirectory hfiles).2
  rw [outcome_collect] at hreal ⊢
  rw [outcome_collect, hpatterns]
  have hfound := (Alike.refl (concatM (s.filesOfPattern ws) s.files)).append h
  generalize (concatM (s.filesOfPattern ws) s.files >>= _) = found at hfound hreal ⊢
  generalize (concatM (s.filesOfPattern ws) s.files >>= _) = found' at hfound ⊢
  cases hfound with
  | failed e => rfl
  | found hsame =>
      refine congrArg Except.ok (Path.mergeSort_eraseDups_congr (fun file hfile => ?_) hsame)
      apply hreal _ rfl file
      rwa [List.mem_mergeSort, List.mem_eraseDups]

end Selection

end SourceAtlas
