import SourceAtlas.Diagnostic.Ansi

/-!
# Texts without escape sequences

Escape sequences do not reach over a character that can stand in none, nor over the beginning of another
sequence.  So a text is stripped piece by piece, and a painted text shows as the text itself.
-/

namespace SourceAtlas.Ansi

/-- A character that goes on with no sequence that has begun. -/
structure IsBreak (c : Char) : Prop where
  bracket : c ≠ '['
  parameter : isParameter c = false
  letter : c.isAlpha = false

theorem isBreak_escape : IsBreak escape := ⟨by decide, by decide, by decide⟩

theorem isBreak_newline : IsBreak '\n' := ⟨by decide, by decide, by decide⟩

/-! ## Sequences at the beginning of a text -/

theorem afterSequence?_of_ne {c : Char} (h : c ≠ escape) (t : Text) :
    afterSequence? (c :: t) = none := by
  unfold afterSequence?
  split
  · next heq =>
      obtain ⟨rfl, -⟩ := List.cons.inj heq
      rw [if_neg h]
  · rfl

theorem afterSequence?_of_ne_bracket {c : Char} (h : c ≠ '[') (t : Text) :
    afterSequence? (escape :: c :: t) = none := by
  unfold afterSequence?
  split
  · next heq => exact absurd (List.cons.inj (List.cons.inj heq).2).1 h
  · rfl

theorem afterSequence?_bracket (body : Text) :
    afterSequence? (escape :: '[' :: body) =
      match body.dropWhile isParameter with
      | d :: rest => if d.isAlpha then some rest else none
      | [] => none := by
  rw [afterSequence?]
  exact if_pos rfl

/-- A sequence is the escape character, a bracket, parameters and a letter. -/
theorem afterSequence?_append {parameters : Text} (hparameters : ∀ c ∈ parameters, isParameter c = true)
    (letter : Char) (hletter : isParameter letter = false) (halpha : letter.isAlpha = true)
    (t : Text) : afterSequence? (escape :: '[' :: parameters ++ letter :: t) = some t := by
  have hdrop : (parameters ++ letter :: t).dropWhile isParameter = letter :: t := by
    rw [List.dropWhile_append_of_pos hparameters, List.dropWhile_cons_of_neg (by simp [hletter])]
  rw [List.cons_append, List.cons_append, afterSequence?_bracket, hdrop]
  exact if_pos halpha

/-- What follows a break decides nothing about the sequence that a text begins with. -/
theorem afterSequence?_append_break {c : Char} (hc : IsBreak c) {s : Text} (hs : s ≠ []) (t : Text) :
    afterSequence? (s ++ c :: t) = (afterSequence? s).map (· ++ c :: t) := by
  obtain ⟨first, s, rfl⟩ := List.exists_cons_of_ne_nil hs
  by_cases hfirst : first = escape
  · subst hfirst
    cases s with
    | nil => exact afterSequence?_of_ne_bracket hc.bracket t
    | cons second body =>
        by_cases hsecond : second = '['
        · subst hsecond
          rw [List.cons_append, List.cons_append, afterSequence?_bracket, afterSequence?_bracket,
            List.dropWhile_append]
          cases hrest : body.dropWhile isParameter with
          | nil =>
              rw [List.dropWhile_cons_of_neg (by simp [hc.parameter])]
              exact if_neg (by simp [hc.letter])
          | cons d rest =>
              rw [List.isEmpty_cons, if_neg (by simp), List.cons_append]
              dsimp only
              split <;> rfl
        · rw [List.cons_append, List.cons_append, afterSequence?_of_ne_bracket hsecond,
            afterSequence?_of_ne_bracket hsecond]
          rfl
  · rw [List.cons_append, afterSequence?_of_ne hfirst, afterSequence?_of_ne hfirst]
    rfl

/-! ## Stripping piece by piece -/

theorem strip_nil : strip [] = [] := by
  rw [strip]
  rfl

theorem strip_of_some {t rest : Text} (h : afterSequence? t = some rest) : strip t = strip rest := by
  rw [strip]
  split
  · next heq =>
      obtain rfl := Option.some.inj (heq.symm.trans h)
      rfl
  · next heq => cases heq.symm.trans h

theorem strip_cons {c : Char} {t : Text} (h : afterSequence? (c :: t) = none) :
    strip (c :: t) = c :: strip t := by
  rw [strip]
  split
  · next heq => cases heq.symm.trans h
  · rfl

theorem strip_newline : strip ['\n'] = ['\n'] := by
  rw [strip_cons (afterSequence?_of_ne (by decide) []), strip_nil]

/-- A text without an escape character holds no sequences. -/
theorem strip_append_of_not_mem {s : Text} (h : escape ∉ s) (t : Text) :
    strip (s ++ t) = s ++ strip t := by
  induction s with
  | nil => rfl
  | cons c cs ih =>
      have hc : c ≠ escape := fun heq => h (heq ▸ List.mem_cons_self)
      rw [List.cons_append, strip_cons (afterSequence?_of_ne hc _),
        ih fun hmem => h (List.mem_cons_of_mem c hmem), List.cons_append]

theorem strip_of_not_mem {t : Text} (h : escape ∉ t) : strip t = t := by
  have hstrip := strip_append_of_not_mem h []
  rwa [List.append_nil, strip_nil, List.append_nil] at hstrip

/-- A text is stripped in front of a break and from there on. -/
theorem strip_append_break {c : Char} (hc : IsBreak c) (s t : Text) :
    strip (s ++ c :: t) = strip s ++ strip (c :: t) := by
  -- a step of stripping removes a sequence or keeps a character, so the induction is on the length
  induction hlength : s.length using Nat.strongRecOn generalizing s with
  | _ n ih =>
      cases s with
      | nil =>
          rw [strip_nil]
          rfl
      | cons d ds =>
          have hafter := afterSequence?_append_break hc (List.cons_ne_nil d ds) t
          cases hrest : afterSequence? (d :: ds) with
          | some rest =>
              rw [hrest, Option.map_some] at hafter
              have hshorter := afterSequence?_length hrest
              rw [strip_of_some hafter, strip_of_some hrest, ih _ (hlength ▸ hshorter) rest rfl]
          | none =>
              rw [hrest, Option.map_none] at hafter
              have hshorter : ds.length < (d :: ds).length := by simp
              rw [List.cons_append] at hafter ⊢
              rw [strip_cons hafter, strip_cons hrest, ih _ (hlength ▸ hshorter) ds rfl,
                List.cons_append]

theorem strip_append_newline (s t : Text) : strip (s ++ '\n' :: t) = strip s ++ '\n' :: strip t := by
  rw [strip_append_break isBreak_newline, strip_cons (afterSequence?_of_ne (by decide) t)]

/-- A painted text shows as the text itself, whatever pieces of sequences that holds. -/
theorem strip_paint_append (color : Color) (t u : Text) :
    strip (paint color t ++ u) = strip t ++ strip u := by
  have hcode : ∀ c ∈ color.code, isParameter c = true :=
    List.all_eq_true.mp (by cases color <;> rfl)
  have hzero : ∀ c ∈ ['0'], isParameter c = true := List.all_eq_true.mp rfl
  have hstart := afterSequence?_append hcode 'm' (by decide) (by decide)
    (t ++ escape :: "[0m".toList ++ u)
  have hend := afterSequence?_append hzero 'm' (by decide) (by decide) u
  have hpaint : paint color t ++ u =
      escape :: '[' :: color.code ++ 'm' :: (t ++ escape :: "[0m".toList ++ u) := by
    simp [paint]
  rw [hpaint, strip_of_some hstart, List.append_assoc, List.cons_append,
    strip_append_break isBreak_escape]
  exact congrArg (strip t ++ ·) (strip_of_some hend)

theorem length_strip_le (t : Text) : (strip t).length ≤ t.length := by
  fun_induction strip t with
  | case1 t rest h hshorter ih => omega
  | case2 => simp
  | case3 c cs h ih =>
      rw [List.length_cons, List.length_cons]
      omega

/-- The sequences around a painted text are left out. -/
theorem length_strip_paint_lt (before t behind : Text) (color : Color) :
    (strip (before ++ (paint color t ++ behind))).length + 1 <
      (before ++ (paint color t ++ behind)).length := by
  have hbefore := length_strip_le before
  have ht := length_strip_le t
  have hbehind := length_strip_le behind
  have hstrip : strip (before ++ (paint color t ++ behind)) = strip before ++ (strip t ++ strip behind) := by
    rw [← strip_paint_append color]
    exact strip_append_break isBreak_escape before _
  rw [hstrip]
  simp only [paint, List.length_append, List.length_cons, String.length_toList]
  omega

end SourceAtlas.Ansi
