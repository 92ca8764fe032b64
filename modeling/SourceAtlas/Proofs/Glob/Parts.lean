import Mathlib.Data.List.Forall2
import SourceAtlas.Glob.Pattern

/-!
# Patterns without stars

A pattern without stars matches a text character by character.  A closed bracket class is written with
more characters than it matches, so only a pattern of ordinary characters matches itself, and it matches
nothing else.
-/

namespace SourceAtlas.Glob

open Text

/-! ## Matching piece by piece -/

theorem rows_of_ne_star {p : Piece} (hp : p ≠ .star) (t : Text) (ps : List Piece) :
    rows t (p :: ps) = oneRow p.has t (rows t ps) := by
  cases p <;> first | exact absurd rfl hp | rfl

/-- The ends of a text after its first character are matched as those of the rest. -/
theorem rows_cons (c : Char) (t : Text) (ps : List Piece) :
    ∃ b, rows (c :: t) ps = b :: rows t ps := by
  induction ps with
  | nil => exact ⟨false, rfl⟩
  | cons p ps ih =>
      obtain ⟨b, hb⟩ := ih
      by_cases hp : p = .star
      · rw [hp, rows, rows, hb]
        exact ⟨_, rfl⟩
      · rw [rows_of_ne_star hp, rows_of_ne_star hp, hb]
        exact ⟨_, rfl⟩

theorem fits_nil_iff {t : Text} : fits [] t = true ↔ t = [] := by
  cases t <;> simp [fits, rows]

theorem fits_cons_nil {p : Piece} (hp : p ≠ .star) (ps : List Piece) : fits (p :: ps) [] = false := by
  rw [fits, rows_of_ne_star hp]
  rfl

theorem fits_cons_cons {p : Piece} (hp : p ≠ .star) (ps : List Piece) (c : Char) (t : Text) :
    fits (p :: ps) (c :: t) = (p.has c && fits ps t) := by
  obtain ⟨b, hb⟩ := rows_cons c t ps
  rw [fits, rows_of_ne_star hp, hb]
  rfl

/-- A pattern without stars has one piece for every character of a text that it matches. -/
theorem fits_iff_forall₂ {ps : List Piece} (hps : Piece.star ∉ ps) {t : Text} :
    fits ps t = true ↔ List.Forall₂ (fun p c => p.has c = true) ps t := by
  induction ps generalizing t with
  | nil => rw [fits_nil_iff, List.forall₂_nil_left_iff]
  | cons p ps ih =>
      have hp : p ≠ .star := fun heq => hps (heq ▸ List.mem_cons_self)
      have hrest : Piece.star ∉ ps := fun hmem => hps (List.mem_cons_of_mem _ hmem)
      cases t with
      | nil => simp [fits_cons_nil hp]
      | cons c t => rw [fits_cons_cons hp, Bool.and_eq_true, ih hrest, List.forall₂_cons]

/-! ## Reading parts -/

theorem suffix_of_classBody? {t body after : Text} (h : classBody? t = some (body, after)) :
    after <:+ t := by
  unfold classBody? at h
  split at h
  next lead rest hsplit =>
    have hrest : rest <:+ t := by
      split at hsplit <;>
        (simp only [Prod.mk.injEq] at hsplit; obtain ⟨-, rfl⟩ := hsplit) <;>
        simp [List.suffix_cons, List.suffix_cons_iff]
    split at h
    · cases h
    · next c cs hdrop =>
        obtain ⟨-, rfl⟩ := Prod.mk.inj (Option.some.inj h)
        have hcs : cs <:+ rest.dropWhile (· != ']') := hdrop ▸ List.suffix_cons c cs
        exact (hcs.trans (List.dropWhile_suffix _)).trans hrest

theorem ofClass_ne_star (body : Text) : ofClass body ≠ .star := by
  unfold ofClass
  split <;> simp

/-- Whether a text has a bracket class: an opening bracket that is closed. -/
def hasClass : Text → Bool
  | [] => false
  | c :: cs => (c == '[' && (classBody? cs).isSome) || hasClass cs

/-- The pieces of a text are its characters, or fewer if it has a bracket class. -/
structure Reads (t : Text) (ps : List Piece) : Prop where
  star : Piece.star ∉ ps
  literals : hasClass t = false → ps = t.map .literal
  fewer : hasClass t = true → ps.length < t.length

theorem Reads.length_le {t : Text} {ps : List Piece} (h : Reads t ps) : ps.length ≤ t.length := by
  cases hclass : hasClass t with
  | false => exact Nat.le_of_eq (by rw [h.literals hclass, List.length_map])
  | true => exact Nat.le_of_lt (h.fewer hclass)

theorem Reads.literal {c : Char} {t : Text} {ps : List Piece} (h : Reads t ps)
    (hclass : hasClass (c :: t) = hasClass t) : Reads (c :: t) (.literal c :: ps) := by
  constructor
  · simp [h.star]
  · intro hnone
    rw [hclass] at hnone
    rw [h.literals hnone, List.map_cons]
  · intro hsome
    rw [hclass] at hsome
    exact Nat.succ_lt_succ (h.fewer hsome)

/-- A text without stars and question marks is read character by character, but for its classes: a class
is one piece, and has more than one character. -/
theorem reads_parse {t : Text} (hstar : '*' ∉ t) (hany : '?' ∉ t) : Reads t (parse t) := by
  fun_induction parse t with
  | case1 => exact ⟨by simp, fun _ => rfl, by simp [hasClass]⟩
  | case2 => exact absurd List.mem_cons_self hstar
  | case3 => exact absurd List.mem_cons_self hany
  | case4 cs body after hbody hlength _ _ ih =>
      have hsubset := (suffix_of_classBody? hbody).subset
      have hrest := ih (fun hmem => hstar (List.mem_cons_of_mem _ (hsubset hmem)))
        (fun hmem => hany (List.mem_cons_of_mem _ (hsubset hmem)))
      have hclass : hasClass ('[' :: cs) = true := by simp [hasClass, hbody]
      constructor
      · rw [List.mem_cons, not_or]
        exact ⟨(ofClass_ne_star body).symm, hrest.star⟩
      · rw [hclass]
        exact fun hnone => absurd hnone (by decide)
      · have hle := hrest.length_le
        rw [List.length_cons, List.length_cons]
        omega
  | case5 cs hbody _ _ ih =>
      rw [List.mem_cons, not_or] at hstar hany
      exact (ih hstar.2 hany.2).literal (by simp [hasClass, hbody])
  | case6 c cs _ _ hbracket ih =>
      rw [List.mem_cons, not_or] at hstar hany
      exact (ih hstar.2 hany.2).literal (by simp [hasClass, hbracket])

/-! ## Parts that match themselves -/

/-- A part that matches itself and nothing else. -/
def IsPlain (part : Text) : Prop := ∀ n, matchesText part n = true ↔ n = part

theorem isPlain_of_parse {part : Text} (h : parse part = part.map .literal) : IsPlain part := by
  have hsame : (fun c d => (Piece.literal c).has d = true) = fun c d => c = d := by
    funext c d
    exact propext (beq_iff_eq.trans eq_comm)
  intro n
  rw [matchesText, h, fits_iff_forall₂ (by simp), List.forall₂_map_left_iff, hsame,
    List.forall₂_eq_eq_eq, eq_comm]

theorem isPlain_of_not_hasClass {part : Text} (hstar : '*' ∉ part) (hany : '?' ∉ part)
    (hclass : hasClass part = false) : IsPlain part :=
  isPlain_of_parse ((reads_parse hstar hany).literals hclass)

/-- A class matches one character of its text, so a part with a class does not match itself. -/
theorem not_matchesText_self {part : Text} (hstar : '*' ∉ part) (hany : '?' ∉ part)
    (hclass : hasClass part = true) : matchesText part part = false := by
  have hreads := reads_parse hstar hany
  rw [← Bool.not_eq_true, matchesText, fits_iff_forall₂ hreads.star]
  intro hmatches
  have hfewer := hreads.fewer hclass
  rw [hmatches.length_eq] at hfewer
  exact Nat.lt_irrefl _ hfewer

/-- A part without wildcards is plain. -/
theorem isPlain_of_not_hasWildcard {part : Text} (h : hasWildcard part = false) : IsPlain part := by
  rw [hasWildcard, List.any_eq_false] at h
  simp only [Bool.or_eq_true, beq_iff_eq, not_or] at h
  have hclass : ∀ t ⊆ part, hasClass t = false := by
    intro t ht
    induction t with
    | nil => rfl
    | cons c cs ih =>
        obtain ⟨hc, hcs⟩ := List.cons_subset.mp ht
        simp [hasClass, (h c hc).2, ih hcs]
  exact isPlain_of_not_hasClass (fun hmem => (h _ hmem).1.1 rfl) (fun hmem => (h _ hmem).1.2 rfl)
    (hclass part (List.Subset.refl part))

end SourceAtlas.Glob
