import SourceAtlas.Text.Basic

/-!
# Splitting and joining

Joining texts that do not hold the separator loses nothing: they are the pieces of what is joined.
-/

namespace SourceAtlas.Text

theorem not_mem_of_mem_splitOn {sep : Char} {t n : Text} (h : n ∈ splitOn sep t) : sep ∉ n := by
  induction t generalizing n with
  | nil =>
      obtain rfl := List.mem_singleton.mp h
      simp
  | cons c cs ih =>
      unfold splitOn at h
      split at h
      · rcases List.mem_cons.mp h with rfl | h
        · simp
        · exact ih h
      · next hne =>
          split at h
          · next hnil => exact absurd hnil (splitOn_ne_nil sep cs)
          · next piece pieces hpieces =>
              rcases List.mem_cons.mp h with rfl | h
              · have hpiece : sep ∉ piece := ih (by rw [hpieces]; exact List.mem_cons_self)
                simpa [Ne.symm hne] using hpiece
              · exact ih (by rw [hpieces]; exact List.mem_cons_of_mem piece h)

theorem join_ne_nil {sep n : Text} {ns : List Text} (h : n ≠ []) : join sep (n :: ns) ≠ [] := by
  cases ns with
  | nil => exact h
  | cons m ms =>
      rw [join]
      · exact fun heq => h (List.append_eq_nil_iff.mp (List.append_eq_nil_iff.mp heq).1).1
      · simp

theorem join_concat {sep n : Text} {ns : List Text} (hne : ns ≠ []) :
    join sep (ns ++ [n]) = join sep ns ++ sep ++ n := by
  induction ns with
  | nil => exact absurd rfl hne
  | cons m ms ih =>
      cases ms with
      | nil => rfl
      | cons k ks =>
          calc join sep (m :: k :: ks ++ [n]) = m ++ sep ++ join sep (k :: ks ++ [n]) := rfl
            _ = m ++ sep ++ (join sep (k :: ks) ++ sep ++ n) := by rw [ih (by simp)]
            _ = join sep (m :: k :: ks) ++ sep ++ n := by simp only [join, List.append_assoc]

theorem mem_join_of_mem {sep t : Text} {ts : List Text} (h : t ∈ ts) : t ⊆ join sep ts := by
  induction ts with
  | nil => exact absurd h (by simp)
  | cons u us ih =>
      cases us with
      | nil =>
          obtain rfl := List.mem_singleton.mp h
          exact List.Subset.refl t
      | cons v vs =>
          rw [join]
          · rcases List.mem_cons.mp h with rfl | h
            · exact List.Subset.trans (List.subset_append_left t sep) (List.subset_append_left _ _)
            · exact List.Subset.trans (ih h) (List.subset_append_right _ _)
          · simp

theorem subset_of_mem_splitOn {sep : Char} {t n : Text} (h : n ∈ splitOn sep t) : n ⊆ t := by
  have hjoin : n ⊆ join [sep] (splitOn sep t) := mem_join_of_mem h
  rwa [join_splitOn] at hjoin

theorem not_mem_join {sep c : Char} (hne : c ≠ sep) {ts : List Text} (h : ∀ t ∈ ts, c ∉ t) :
    c ∉ join [sep] ts := by
  induction ts with
  | nil => simp [join]
  | cons t ts ih =>
      have hothers := ih fun u hu => h u (List.mem_cons_of_mem t hu)
      cases ts with
      | nil => exact h t List.mem_cons_self
      | cons u us =>
          rw [join]
          · simp only [List.mem_append, List.mem_singleton, not_or]
            exact ⟨⟨h t List.mem_cons_self, hne⟩, hothers⟩
          · simp

theorem splitOn_of_not_mem {sep : Char} {t : Text} (h : sep ∉ t) : splitOn sep t = [t] := by
  induction t with
  | nil => rfl
  | cons c cs ih =>
      simp only [List.mem_cons, not_or] at h
      rw [splitOn, if_neg (Ne.symm h.1), ih h.2]

theorem flatMap_splitOn_of_not_mem {sep : Char} {ts : List Text} (h : ∀ t ∈ ts, sep ∉ t) :
    ts.flatMap (splitOn sep) = ts := by
  induction ts with
  | nil => rfl
  | cons t ts ih =>
      obtain ⟨ht, hts⟩ := List.forall_mem_cons.mp h
      rw [List.flatMap_cons, ih hts, splitOn_of_not_mem ht]
      rfl

/-- A separator is one of the places where a text is split. -/
theorem splitOn_append_cons (sep : Char) (s t : Text) :
    splitOn sep (s ++ sep :: t) = splitOn sep s ++ splitOn sep t := by
  induction s with
  | nil => simp [splitOn]
  | cons c cs ih =>
      rw [List.cons_append, splitOn, splitOn, ih]
      split
      · rfl
      · cases h : splitOn sep cs with
        | nil => exact absurd h (splitOn_ne_nil sep cs)
        | cons piece pieces => rfl

/-- Texts that are joined with the separator are split one after another. -/
theorem splitOn_join_eq_flatMap {sep : Char} {ts : List Text} (hne : ts ≠ []) :
    splitOn sep (join [sep] ts) = ts.flatMap (splitOn sep) := by
  induction ts with
  | nil => exact absurd rfl hne
  | cons t ts ih =>
      cases ts with
      | nil => simp [join]
      | cons u us =>
          rw [join, List.append_assoc, List.singleton_append, splitOn_append_cons, ih (by simp)]
          · simp
          · simp

/-- Splitting at the separator undoes joining with it. -/
theorem splitOn_join {sep : Char} {ts : List Text} (hne : ts ≠ []) (h : ∀ t ∈ ts, sep ∉ t) :
    splitOn sep (join [sep] ts) = ts := by
  rw [splitOn_join_eq_flatMap hne, flatMap_splitOn_of_not_mem h]

/-- Texts that are neither empty nor hold the separator are told by what is joined of them. -/
theorem join_injective {sep : Char} {ts us : List Text} (hts : ∀ t ∈ ts, t ≠ [] ∧ sep ∉ t)
    (hus : ∀ u ∈ us, u ≠ [] ∧ sep ∉ u) (h : join [sep] ts = join [sep] us) : ts = us := by
  have hnil : ∀ {vs : List Text}, (∀ v ∈ vs, v ≠ [] ∧ sep ∉ v) → join [sep] vs = [] → vs = [] := by
    intro vs hvs hjoin
    cases vs with
    | nil => rfl
    | cons v vs => exact absurd hjoin (join_ne_nil (hvs v List.mem_cons_self).1)
  by_cases hempty : join [sep] ts = []
  · rw [hnil hts hempty, hnil hus (h ▸ hempty)]
  · have hne : ∀ {vs : List Text}, join [sep] vs = join [sep] ts → vs ≠ [] := by
      rintro vs hvs rfl
      exact hempty hvs.symm
    calc ts = splitOn sep (join [sep] ts) := (splitOn_join (hne rfl) fun t ht => (hts t ht).2).symm
      _ = splitOn sep (join [sep] us) := by rw [h]
      _ = us := splitOn_join (hne h.symm) fun u hu => (hus u hu).2

end SourceAtlas.Text
