import SourceAtlas.FileSystem.Change
import SourceAtlas.Proofs.FileSystem.Beginnings

/-!
# Cutting off the last name of a path

A path is cut at its last slash.  What is before it keeps its slashes at the end only if there is nothing
else; the names of both parts are those of the path.
-/

namespace SourceAtlas

open Text FileSystem

/-- A text is what precedes its last name, slashes between them, and that name: there may be nothing
before it, or only slashes, which then belong to what precedes it. -/
inductive Splits : Text → Text → Text → Prop
  | name (part : Text) : Splits part [] part
  | anchored {slashes : Text} (part : Text) (hne : slashes ≠ []) (hslashes : ∀ c ∈ slashes, c = '/') :
      Splits (slashes ++ part) slashes part
  | below {directory : Text} (slashes part : Text) (hne : directory ≠ [])
      (hend : endsWith directory ['/'] = false) (hslashes : ∀ c ∈ slashes, c = '/') :
      Splits (directory ++ '/' :: (slashes ++ part)) directory part

theorem endsWith_slash_iff {t : Text} : endsWith t ['/'] = true ↔ ∃ lead, t = lead ++ ['/'] := by
  rw [endsWith, List.isSuffixOf_iff_suffix]
  exact exists_congr fun lead => eq_comm

theorem endsWith_slash_concat {t : Text} {c : Char} (hc : c ≠ '/') :
    endsWith (t ++ [c]) ['/'] = false := by
  rw [← Bool.not_eq_true, endsWith_slash_iff]
  rintro ⟨lead, h⟩
  obtain ⟨-, hslash⟩ := List.append_inj' h rfl
  exact hc (List.singleton_inj.mp hslash)

theorem endsWith_append_name (front : Text) {n : Text} (hne : n ≠ []) (hslash : '/' ∉ n) :
    endsWith (front ++ n) ['/'] = false := by
  obtain hnil | ⟨lead, c, hlast⟩ := List.eq_nil_or_concat' n
  · exact absurd hnil hne
  · have hc : c ≠ '/' := by
      rintro rfl
      exact hslash (by simp [hlast])
    rw [hlast, ← List.append_assoc]
    exact endsWith_slash_concat hc

theorem endsWith_append_slashes (front : Text) {slashes : Text} (hne : slashes ≠ [])
    (h : ∀ c ∈ slashes, c = '/') : endsWith (front ++ slashes) ['/'] = true := by
  obtain hnil | ⟨lead, c, hlast⟩ := List.eq_nil_or_concat' slashes
  · exact absurd hnil hne
  · rw [endsWith_slash_iff]
    exact ⟨front ++ lead, by rw [hlast, h c (by simp [hlast]), List.append_assoc]⟩

/-- What is before the characters of a kind at the end of a text. -/
def before (p : Char → Bool) (t : Text) : Text := (t.reverse.dropWhile p).reverse

/-- A text is what is before the characters of a kind at its end, which ends with none of them, and those
characters. -/
theorem eq_before_append (p : Char → Bool) (t : Text) :
    t = before p t ++ (t.reverse.takeWhile p).reverse ∧
      (∀ c ∈ (t.reverse.takeWhile p).reverse, p c = true) ∧
      (before p t = [] ∨ ∃ lead c, before p t = lead ++ [c] ∧ p c = false) := by
  refine ⟨?_, fun c hc => ?_, ?_⟩
  · rw [before, ← List.reverse_append, List.takeWhile_append_dropWhile, List.reverse_reverse]
  · exact List.all_eq_true.mp List.all_takeWhile c (List.mem_reverse.mp hc)
  · rw [before]
    cases hrest : t.reverse.dropWhile p with
    | nil => exact .inl rfl
    | cons c cs =>
        have hhead := List.head?_dropWhile_not p t.reverse
        rw [hrest] at hhead
        exact .inr ⟨cs.reverse, c, List.reverse_cons, by simpa using hhead⟩

theorem take_of_eq_append {t front tail : Text} (h : t = front ++ tail) :
    t.take (t.length - tail.length) = front := by
  subst h
  simp

theorem splits_splitPath (t : Text) : Splits t (splitPath t).1 (splitPath t).2 := by
  obtain ⟨htext, -, hfront⟩ := eq_before_append (· ≠ '/') t
  rw [splitPath]
  dsimp only
  rw [take_of_eq_append htext]
  generalize (t.reverse.takeWhile (· ≠ '/')).reverse = part at htext ⊢
  generalize before (· ≠ '/') t = front at htext hfront ⊢
  subst htext
  obtain ⟨hstrip, hslashes, hshown⟩ := eq_before_append (· = '/') front
  rw [← before]
  simp only [decide_eq_true_eq] at hslashes
  obtain hnone | ⟨lead, c, hlast, hc⟩ := hshown
  · -- nothing but slashes comes first
    rw [if_pos hnone]
    rw [hnone, List.nil_append] at hstrip
    rw [← hstrip] at hslashes
    by_cases hempty : front = []
    · subst hempty
      exact .name part
    · exact .anchored part hempty hslashes
  · have hne : before (· = '/') front ≠ [] := by simp [hlast]
    rw [if_neg hne]
    have hend : endsWith (before (· = '/') front) ['/'] = false := by
      rw [hlast]
      exact endsWith_slash_concat (by simpa using hc)
    generalize (front.reverse.takeWhile (· = '/')).reverse = slashes at hstrip hslashes
    cases slashes with
    | nil =>
        -- what precedes the name ends with a slash
        obtain hnil | ⟨lead', c', hlast', hc'⟩ := hfront
        · rw [List.append_nil] at hstrip
          rw [← hstrip] at hne
          exact absurd hnil hne
        · rw [List.append_nil] at hstrip
          rw [← hstrip, hlast'] at hlast
          obtain ⟨-, hsame⟩ := List.append_inj' hlast rfl
          obtain rfl := List.singleton_inj.mp hsame
          exact absurd (by simpa using hc') (show c' ≠ '/' by simpa using hc)
    | cons s slashes =>
        obtain ⟨rfl, hrest⟩ := List.forall_mem_cons.mp hslashes
        have hwhole : front ++ part = before (· = '/') front ++ '/' :: (slashes ++ part) := by
          conv_lhs => rw [hstrip, List.append_assoc]
          rfl
        rw [hwhole]
        exact .below slashes part hne hend hrest

/-! ## Names and slashes -/

theorem namesIn_of_not_mem {n : Text} (hne : n ≠ []) (hslash : '/' ∉ n) : namesIn n = [n] := by
  rw [namesIn, splitOn_of_not_mem hslash, List.filter_cons_of_pos (by simpa using hne)]
  rfl

theorem namesIn_append (s t : Text) : namesIn (s ++ '/' :: t) = namesIn s ++ namesIn t := by
  rw [namesIn, splitOn_append_cons, List.filter_append]
  rfl

theorem namesIn_slashes_append {slashes : Text} (h : ∀ c ∈ slashes, c = '/') (t : Text) :
    namesIn (slashes ++ t) = namesIn t := by
  induction slashes with
  | nil => rfl
  | cons c cs ih =>
      obtain ⟨rfl, hcs⟩ := List.forall_mem_cons.mp h
      rw [List.cons_append, namesIn_slash, ih hcs]

/-- Only slashes have no names. -/
theorem namesIn_eq_nil_iff {t : Text} : namesIn t = [] ↔ ∀ c ∈ t, c = '/' := by
  induction t with
  | nil => exact iff_of_true rfl (by simp)
  | cons c cs ih =>
      rw [List.forall_mem_cons]
      by_cases hc : c = '/'
      · rw [hc, namesIn_slash, ih, and_iff_right rfl]
      · refine iff_of_false (fun hnone => ?_) fun hslashes => hc hslashes.1
        rw [namesIn, splitOn, if_neg hc] at hnone
        split at hnone <;> simp at hnone

/-- A text that does not end with a slash has a name. -/
theorem namesIn_ne_nil {t : Text} (hne : t ≠ []) (hend : endsWith t ['/'] = false) :
    namesIn t ≠ [] := by
  intro hnames
  have hslashes := endsWith_append_slashes [] hne (namesIn_eq_nil_iff.mp hnames)
  rw [List.nil_append, hend] at hslashes
  cases hslashes

/-- Before its first name, a text has only slashes. -/
theorem exists_first_name {t : Text} (h : namesIn t ≠ []) :
    ∃ slashes c rest, t = slashes ++ c :: rest ∧ (∀ d ∈ slashes, d = '/') ∧ c ≠ '/' := by
  induction t with
  | nil => exact absurd rfl h
  | cons c cs ih =>
      by_cases hc : c = '/'
      · subst hc
        rw [namesIn_slash] at h
        obtain ⟨slashes, d, rest, rfl, hslashes, hd⟩ := ih h
        exact ⟨'/' :: slashes, d, rest, rfl, List.forall_mem_cons.mpr ⟨rfl, hslashes⟩, hd⟩
      · exact ⟨[], c, cs, rfl, by simp, hc⟩

/-- Where a text begins depends on the slashes before its first name only. -/
theorem anchor_slashes_append {slashes : Text} (h : ∀ c ∈ slashes, c = '/') {t u : Text}
    (ht : t.head? ≠ some '/') (hu : u.head? ≠ some '/') :
    Anchor.ofText (slashes ++ t) = Anchor.ofText (slashes ++ u) := by
  match slashes with
  | [] => exact (Path.anchor_ofText_iff.mpr ht).trans (Path.anchor_ofText_iff.mpr hu).symm
  | [a] =>
      obtain rfl := h a (by simp)
      exact (Path.ofText_slash ht).trans (Path.ofText_slash hu).symm
  | [a, b] =>
      obtain rfl := h a (by simp)
      obtain rfl := h b (by simp)
      exact (Path.ofText_slashes ht).trans (Path.ofText_slashes hu).symm
  | a :: b :: c :: _ =>
      obtain rfl := h a (by simp)
      obtain rfl := h b (by simp)
      obtain rfl := h c (by simp)
      rfl

theorem anchor_append {t : Text} (h : namesIn t ≠ []) (more : Text) :
    Anchor.ofText (t ++ more) = Anchor.ofText t := by
  obtain ⟨slashes, c, rest, rfl, hslashes, hc⟩ := exists_first_name h
  rw [List.append_assoc]
  exact anchor_slashes_append hslashes (by simpa using hc) (by simpa using hc)

theorem startOf_eq_of_anchor {s t : Text} (h : Anchor.ofText s = Anchor.ofText t) (l : Location) :
    startOf s l = startOf t l := by
  have hhead : s.head? = some '/' ↔ t.head? = some '/' := by
    rw [← not_iff_not, ← ne_eq, ← ne_eq, ← Path.anchor_ofText_iff, h, Path.anchor_ofText_iff]
  rw [startOf, startOf, if_congr hhead rfl rfl]

/-! ## What precedes a name -/

/-- A text of slashes only, or with none at its end: that is what precedes a name. -/
def IsLead (t : Text) : Prop := (∀ c ∈ t, c = '/') ∨ endsWith t ['/'] = false

namespace Splits

variable {t directory part : Text} (h : Splits t directory part)
include h

theorem isLead : IsLead directory := by
  cases h with
  | name => exact .inl (by simp)
  | anchored _ _ hslashes => exact .inl hslashes
  | below _ _ _ hend => exact .inr hend

theorem subset : directory ⊆ t := by
  cases h with
  | name => exact List.nil_subset _
  | anchored => exact List.subset_append_left _ _
  | below => exact List.subset_append_left _ _

theorem part_subset : part ⊆ t := by
  cases h with
  | name => exact List.Subset.refl _
  | anchored => exact List.subset_append_right _ _
  | below =>
      exact List.Subset.trans (List.subset_append_right _ _)
        (List.Subset.trans (List.subset_cons_self _ _) (List.subset_append_right _ _))

theorem namesIn_eq : namesIn t = namesIn directory ++ namesIn part := by
  cases h with
  | name => rfl
  | anchored part _ hslashes =>
      rw [namesIn_slashes_append hslashes, namesIn_eq_nil_iff.mpr hslashes]
      rfl
  | below slashes part _ _ hslashes =>
      rw [namesIn_append, namesIn_slashes_append hslashes]

/-- A text begins where what precedes its last name does. -/
theorem anchor_eq (hslash : '/' ∉ part) : Anchor.ofText t = Anchor.ofText directory := by
  have hhead : part.head? ≠ some '/' := fun heq => hslash (List.mem_of_head? heq)
  cases h with
  | name => exact Path.anchor_ofText_iff.mpr hhead
  | anchored _ _ hslashes =>
      have hnone := anchor_slashes_append hslashes hhead (show ([] : Text).head? ≠ some '/' by simp)
      rwa [List.append_nil] at hnone
  | below _ _ hne hend => exact anchor_append (namesIn_ne_nil hne hend) _

theorem endsWith_eq (hne : part ≠ []) (hslash : '/' ∉ part) : endsWith t ['/'] = false := by
  cases h with
  | name => exact endsWith_append_name [] hne hslash
  | anchored => exact endsWith_append_name _ hne hslash
  | @below directory slashes =>
      rw [show directory ++ '/' :: (slashes ++ part) = (directory ++ '/' :: slashes) ++ part by simp]
      exact endsWith_append_name _ hne hslash

/-- A text that does not end with a slash has a last name. -/
theorem part_ne_nil (hne : t ≠ []) (hend : endsWith t ['/'] = false) : part ≠ [] := by
  rintro rfl
  have hslash : endsWith t ['/'] = true := by
    cases h with
    | name => exact absurd rfl hne
    | anchored _ hnot hslashes =>
        rw [List.append_nil]
        exact endsWith_append_slashes [] hnot hslashes
    | below slashes _ _ _ hslashes =>
        rw [List.append_nil]
        exact endsWith_append_slashes _ (by simp) (List.forall_mem_cons.mpr ⟨rfl, hslashes⟩)
  rw [hend] at hslash
  cases hslash

theorem length_lt (hne : part ≠ []) : directory.length < t.length := by
  have hpart := List.length_pos_of_ne_nil hne
  cases h with
  | name => exact hpart
  | anchored => rw [List.length_append]; omega
  | below => rw [List.length_append, List.length_cons]; omega

theorem byteCount_le : byteCount directory + byteCount part ≤ byteCount t := by
  cases h with
  | name => simp [byteCount]
  | anchored => exact Nat.le_of_eq (byteCount_append _ _).symm
  | below => simp only [byteCount_append, byteCount]; omega

end Splits

end SourceAtlas
