import SourceAtlas.Proofs.Glob.Classes
import SourceAtlas.Proofs.Glob.Parts

/-!
# What the pieces of a pattern cover

The pieces of a pattern cover the texts that can be cut so that every piece stands for its part.  Matching
finds such a cut exactly if there is one.
-/

namespace SourceAtlas.Glob

open Text

/-! ## Covering -/

/-- A piece stands for a text: a star for any text, any other piece for one character. -/
inductive Piece.StandsFor : Piece → Text → Prop
  | star (t : Text) : StandsFor .star t
  | any (c : Char) : StandsFor .any [c]
  | literal (c : Char) : StandsFor (.literal c) [c]
  | listed {is : List Item} {c : Char} (h : ∃ i ∈ is, i.has c = true) :
      StandsFor (.oneOf false is) [c]
  | unlisted {is : List Item} {c : Char} (h : ∀ i ∈ is, i.has c = false) :
      StandsFor (.oneOf true is) [c]

/-- Pieces cover a text that consists of texts for which they stand, one after the other. -/
def Covers (ps : List Piece) (t : Text) : Prop :=
  ∃ ts, List.Forall₂ Piece.StandsFor ps ts ∧ t = ts.flatten

theorem standsFor_iff {p : Piece} (hp : p ≠ .star) {t : Text} :
    p.StandsFor t ↔ ∃ c, t = [c] ∧ p.has c = true := by
  constructor
  · intro h
    cases h with
    | star => exact absurd rfl hp
    | any c => exact ⟨c, rfl, rfl⟩
    | literal c => exact ⟨c, rfl, beq_self_eq_true c⟩
    | listed h =>
        refine ⟨_, rfl, ?_⟩
        rw [has_listed, List.any_eq_true]
        exact h
    | unlisted h =>
        refine ⟨_, rfl, ?_⟩
        rw [has_unlisted, Bool.not_eq_true', List.any_eq_false]
        simpa using h
  · rintro ⟨c, rfl, hc⟩
    cases p with
    | star => exact absurd rfl hp
    | any => exact .any c
    | never => cases hc
    | literal d =>
        obtain rfl : c = d := beq_iff_eq.mp hc
        exact .literal c
    | oneOf negated is =>
        cases negated with
        | false =>
            rw [has_listed, List.any_eq_true] at hc
            exact .listed hc
        | true =>
            rw [has_unlisted, Bool.not_eq_true', List.any_eq_false] at hc
            exact .unlisted (by simpa using hc)

section Covers

variable {p : Piece} {ps qs : List Piece} {t : Text}

theorem covers_nil_iff : Covers [] t ↔ t = [] := by
  simp [Covers]

theorem covers_cons_iff :
    Covers (p :: ps) t ↔ ∃ s rest, p.StandsFor s ∧ Covers ps rest ∧ t = s ++ rest := by
  constructor
  · rintro ⟨ts, hts, rfl⟩
    cases hts with
    | cons hs hrest => exact ⟨_, _, hs, ⟨_, hrest, rfl⟩, rfl⟩
  · rintro ⟨s, rest, hs, ⟨ts, hts, rfl⟩, rfl⟩
    exact ⟨s :: ts, .cons hs hts, rfl⟩

/-- Pieces that stand for the same texts cover the same texts. -/
theorem covers_congr
    (h : List.Forall₂ (fun p q => ∀ s, p.StandsFor s ↔ q.StandsFor s) ps qs) :
    Covers ps t ↔ Covers qs t := by
  induction h generalizing t with
  | nil => rfl
  | cons hp _ ih => simp only [covers_cons_iff, hp, ih]

end Covers

/-! ## Matching finds a cover -/

theorem rows_nil (ps : List Piece) : ∃ b, rows [] ps = [b] := by
  induction ps with
  | nil => exact ⟨true, rfl⟩
  | cons p ps ih =>
      obtain ⟨b, hb⟩ := ih
      by_cases hp : p = .star
      · rw [hp, rows, hb]
        exact ⟨_, rfl⟩
      · rw [rows_of_ne_star hp]
        exact ⟨_, rfl⟩

theorem fits_star_nil (ps : List Piece) : fits (.star :: ps) [] = fits ps [] := by
  obtain ⟨b, hb⟩ := rows_nil ps
  rw [fits, fits, rows, hb]
  cases b <;> rfl

/-- A star is followed at once by what matches the text, or it takes one more character. -/
theorem fits_star_cons (ps : List Piece) (c : Char) (t : Text) :
    fits (.star :: ps) (c :: t) = (fits ps (c :: t) || fits (.star :: ps) t) := by
  obtain ⟨b, hb⟩ := rows_cons c t ps
  rw [fits, fits, fits, rows, rows, hb]
  rfl

theorem fits_star_iff {ps : List Piece} {t : Text} :
    fits (.star :: ps) t = true ↔ ∃ s rest, fits ps rest = true ∧ t = s ++ rest := by
  induction t with
  | nil =>
      rw [fits_star_nil]
      constructor
      · exact fun h => ⟨[], [], h, rfl⟩
      · rintro ⟨s, rest, h, hnil⟩
        obtain ⟨-, rfl⟩ := List.append_eq_nil_iff.mp hnil.symm
        exact h
  | cons c t ih =>
      rw [fits_star_cons, Bool.or_eq_true, ih]
      constructor
      · rintro (h | ⟨s, rest, h, rfl⟩)
        · exact ⟨[], c :: t, h, rfl⟩
        · exact ⟨c :: s, rest, h, rfl⟩
      · rintro ⟨s, rest, h, heq⟩
        cases s with
        | nil => exact .inl (heq ▸ h)
        | cons d s => exact .inr ⟨s, rest, h, (List.cons.inj heq).2⟩

/-- Pieces match exactly the texts that they cover. -/
theorem fits_iff_covers {ps : List Piece} {t : Text} : fits ps t = true ↔ Covers ps t := by
  induction ps generalizing t with
  | nil => rw [fits_nil_iff, covers_nil_iff]
  | cons p ps ih =>
      rw [covers_cons_iff]
      by_cases hp : p = .star
      · rw [hp, fits_star_iff]
        constructor
        · rintro ⟨s, rest, h, heq⟩
          exact ⟨s, rest, .star s, ih.mp h, heq⟩
        · rintro ⟨s, rest, -, h, heq⟩
          exact ⟨s, rest, ih.mpr h, heq⟩
      · simp only [standsFor_iff hp]
        constructor
        · intro h
          cases t with
          | nil => rw [fits_cons_nil hp] at h; cases h
          | cons c t =>
              rw [fits_cons_cons hp, Bool.and_eq_true] at h
              exact ⟨[c], t, ⟨c, rfl, h.1⟩, ih.mp h.2, rfl⟩
        · rintro ⟨_, rest, ⟨c, rfl, hc⟩, h, rfl⟩
          rw [List.singleton_append, fits_cons_cons hp, hc, ih.mpr h]
          rfl

end SourceAtlas.Glob
