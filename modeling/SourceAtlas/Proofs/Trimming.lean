import SourceAtlas.Text.Blank

/-!
# White space at the ends of a text

Trimming takes white space from the ends of a text and nothing else, so what is left neither begins nor
ends with some.
-/

namespace SourceAtlas.Text

theorem trimStart_subset (t : Text) : trimStart t ⊆ t := (List.dropWhile_sublist isBlank).subset

theorem trimEnd_subset (t : Text) : trimEnd t ⊆ t := by
  induction t with
  | nil => exact List.Subset.refl []
  | cons c cs ih =>
      unfold trimEnd
      split
      · split
        · exact List.nil_subset _
        · exact List.cons_subset_cons c (List.nil_subset cs)
      · exact List.cons_subset_cons c ih

/-- White space in front of a text that does not begin with some is trimmed. -/
theorem trimStart_append {blanks t : Text} (hblanks : ∀ c ∈ blanks, isBlank c = true)
    (ht : ∀ c, t.head? = some c → isBlank c = false) : trimStart (blanks ++ t) = t := by
  rw [trimStart, List.dropWhile_append_of_pos hblanks]
  cases t with
  | nil => rfl
  | cons c cs => rw [List.dropWhile_cons_of_neg (by simp [ht c rfl])]

/-- White space behind a text that does not end with some is trimmed. -/
theorem trimEnd_append {t blanks : Text} (ht : ∀ c, t.getLast? = some c → isBlank c = false)
    (hblanks : ∀ c ∈ blanks, isBlank c = true) : trimEnd (t ++ blanks) = t := by
  induction t with
  | nil => exact trimEnd_eq_nil_iff.mpr hblanks
  | cons c cs ih =>
      rw [List.cons_append, trimEnd]
      cases cs with
      | nil =>
          have hc : isBlank c = false := ht c rfl
          rw [List.nil_append, trimEnd_eq_nil_iff.mpr hblanks]
          simp [hc]
      | cons d ds =>
          rw [ih fun e he => ht e (by rw [List.getLast?_cons_cons]; exact he)]

/-- A text is what is left of it when its end is trimmed, and white space. -/
theorem exists_trimEnd (t : Text) : ∃ blanks, t = trimEnd t ++ blanks ∧
    (∀ c ∈ blanks, isBlank c = true) ∧ ∀ c, (trimEnd t).getLast? = some c → isBlank c = false := by
  induction t with
  | nil => exact ⟨[], rfl, by simp, by simp [trimEnd]⟩
  | cons c cs ih =>
      obtain ⟨blanks, hcs, hblanks, hlast⟩ := ih
      rw [trimEnd]
      split
      · next hnil =>
          rw [hnil, List.nil_append] at hcs
          split
          · next hc => exact ⟨c :: cs, rfl, List.forall_mem_cons.mpr ⟨hc, hcs ▸ hblanks⟩, by simp⟩
          · next hc => exact ⟨blanks, by rw [hcs]; rfl, hblanks, by simpa using hc⟩
      · next hne =>
          refine ⟨blanks, by rw [List.cons_append, ← hcs], hblanks, fun d hd => hlast d ?_⟩
          rwa [List.getLast?_cons_of_ne_nil hne] at hd

theorem trim_subset (t : Text) : trim t ⊆ t :=
  List.Subset.trans (trimEnd_subset _) (trimStart_subset t)

theorem trim_eq_nil_iff {t : Text} : trim t = [] ↔ ∀ c ∈ t, isBlank c = true := by
  rw [trim, trimEnd_eq_nil_iff]
  refine ⟨fun h => ?_, fun h c hc => h c (trimStart_subset t hc)⟩
  induction t with
  | nil => simp
  | cons c cs ih =>
      by_cases hc : isBlank c = true
      · rw [trimStart, List.dropWhile_cons_of_pos hc] at h
        exact List.forall_mem_cons.mpr ⟨hc, ih h⟩
      · rwa [trimStart, List.dropWhile_cons_of_neg hc] at h

/-- A text is what is left of it when it is trimmed, between white space. -/
theorem exists_trim (t : Text) : ∃ lead blanks, t = lead ++ trim t ++ blanks ∧
    (∀ c ∈ lead, isBlank c = true) ∧ ∀ c ∈ blanks, isBlank c = true := by
  obtain ⟨blanks, hstart, hblanks, -⟩ := exists_trimEnd (trimStart t)
  refine ⟨t.takeWhile isBlank, blanks, ?_, fun c => List.all_eq_true.mp List.all_takeWhile c, hblanks⟩
  rw [List.append_assoc, trim, ← hstart, trimStart, List.takeWhile_append_dropWhile]

/-- No white space at the ends. -/
structure Trimmed (t : Text) : Prop where
  first : ∀ c, t.head? = some c → isBlank c = false
  last : ∀ c, t.getLast? = some c → isBlank c = false

theorem trimmed_iff {t : Text} : Trimmed t ↔
    t.head?.all (fun c => !isBlank c) = true ∧ t.getLast?.all (fun c => !isBlank c) = true := by
  simp only [Option.all_eq_true, Bool.not_eq_true']
  exact ⟨fun h => ⟨h.first, h.last⟩, fun h => ⟨h.1, h.2⟩⟩

instance (t : Text) : Decidable (Trimmed t) := decidable_of_iff' _ trimmed_iff

theorem trimmed_trim (t : Text) : Trimmed (trim t) := by
  obtain ⟨blanks, hstart, -, hlast⟩ := exists_trimEnd (trimStart t)
  refine ⟨fun c hc => ?_, hlast⟩
  have hstop := List.head?_dropWhile_not isBlank t
  have hfirst : (trimStart t).head? = some c := by
    rw [hstart, List.head?_append]
    exact congrArg (Option.or · blanks.head?) hc
  rw [trimStart] at hfirst
  rwa [hfirst] at hstop

end SourceAtlas.Text
