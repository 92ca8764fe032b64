import SourceAtlas.Text.Basic

/-!
# Lines

A text is cut into lines after each line end: a line feed, a carriage return, the two of them
together, a vertical tab, a form feed, the separators `U+001C` to `U+001E`, the next-line control
and the line and paragraph separators.  The lines are given without their ends, and a line end at
the end of the text opens no further line.
-/

namespace SourceAtlas.Text

/-- A character that ends a line. -/
def isLineEnd (c : Char) : Bool :=
  let n := c.toNat
  (10 ≤ n && n ≤ 13) || (28 ≤ n && n ≤ 30) || n == 0x85 || n == 0x2028 || n == 0x2029

/-- The first line, and what follows its end; the second part is `none` when no line end follows. -/
def firstLine : Text → Text × Option Text
  | [] => ([], none)
  | c :: cs =>
    if isLineEnd c then
      match c, cs with
      | '\r', '\n' :: rest => ([], some rest)
      | _, _ => ([], some cs)
    else
      let (line, rest) := firstLine cs
      (c :: line, rest)

theorem firstLine_rest_length {t line rest : Text} (h : firstLine t = (line, some rest)) :
    rest.length < t.length := by
  induction t generalizing line with
  | nil => simp [firstLine] at h
  | cons c cs ih =>
      unfold firstLine at h
      split at h
      · split at h <;> (simp only [Prod.mk.injEq, Option.some.injEq] at h; rw [← h.2]; simp; try omega)
      · cases hf : firstLine cs with
        | mk l r =>
            rw [hf] at h
            simp only [Prod.mk.injEq] at h
            have := @ih l (by rw [hf, h.2])
            simp only [List.length_cons]; omega

/-- The lines of a text. -/
def lines (t : Text) : List Text :=
  if t = [] then []
  else
    match h : firstLine t with
    | (line, none) => [line]
    | (line, some rest) =>
      have := firstLine_rest_length h
      line :: lines rest
termination_by t.length

end SourceAtlas.Text
