import SourceAtlas.Text.Basic
import SourceAtlas.Text.Ranges

/-!
# White space

A character is blank when Unicode gives it the bidirectional class of a white space, a paragraph
separator or a segment separator, or makes it a space separator.  The four information separators
`U+001C` to `U+001F` and the next-line control `U+0085` are among them; the zero-width space is
not.  Trimming removes blank characters at the ends of a text.
-/

namespace SourceAtlas.Text

/-- The code points of the blank characters. -/
def blankRanges : List (Nat × Nat) :=
  [
    (9, 13), (28, 32), (133, 133), (160, 160), (5760, 5760), (8192, 8202), (8232, 8233),
    (8239, 8239), (8287, 8287), (12288, 12288)]

/-- A white-space character. -/
def isBlank (c : Char) : Bool := inRanges blankRanges c.toNat

/-- The text without the blank characters at its beginning. -/
def trimStart (t : Text) : Text := t.dropWhile isBlank

/-- The text without the blank characters at its end. -/
def trimEnd : Text → Text
  | [] => []
  | c :: cs =>
    match trimEnd cs with
    | [] => if isBlank c then [] else [c]
    | kept => c :: kept

/-- The text without the blank characters at its ends. -/
def trim (t : Text) : Text := trimEnd (trimStart t)

/-- Nothing but white space, or nothing at all. -/
def allBlank (t : Text) : Bool := t.all isBlank

theorem trimEnd_eq_nil_iff {t : Text} : trimEnd t = [] ↔ ∀ c ∈ t, isBlank c = true := by
  induction t with
  | nil => simp [trimEnd]
  | cons c cs ih =>
      unfold trimEnd
      split
      · next h =>
          simp only [List.mem_cons, forall_eq_or_imp]
          have hall := ih.mp h
          by_cases hc : isBlank c = true
          · simpa [hc] using hall
          · simp [hc]
      · next h =>
          have hne : ¬ ∀ d ∈ cs, isBlank d = true := fun hd => h (ih.mpr hd)
          simp only [reduceCtorEq, false_iff]
          exact fun hd => hne fun d hm => hd d (List.mem_cons_of_mem _ hm)

theorem trimEnd_concat {c : Char} (hc : isBlank c = false) (t : Text) :
    trimEnd (t ++ [c]) = t ++ [c] := by
  induction t with
  | nil => simp [trimEnd, hc]
  | cons d ds ih =>
      rw [List.cons_append, trimEnd, ih]
      cases ds <;> rfl

/-- Nothing is trimmed from a text whose first and last characters are not blank. -/
theorem trim_eq_self {t : Text} (hfirst : ∀ c, t.head? = some c → isBlank c = false)
    (hlast : ∀ c, t.getLast? = some c → isBlank c = false) : trim t = t := by
  obtain rfl | ⟨s, c, rfl⟩ := List.eq_nil_or_concat t
  · rfl
  · rw [List.concat_eq_append] at hfirst hlast ⊢
    have hstart : trimStart (s ++ [c]) = s ++ [c] := by
      rw [trimStart]
      cases s with
      | nil => exact List.dropWhile_cons_of_neg (by simpa using hfirst c rfl)
      | cons d ds => exact List.dropWhile_cons_of_neg (by simpa using hfirst d rfl)
    rw [trim, hstart, trimEnd_concat (hlast c (by simp))]

end SourceAtlas.Text
