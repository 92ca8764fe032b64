import Mathlib.Data.List.Basic
import SourceAtlas.Proofs.FileSystem.RealPaths

/-!
# Texts of paths

The text of a path of proper names says where the path begins and which its names are, so reading it
gives the path back.
-/

namespace SourceAtlas

open Text

namespace Path

theorem isProperName_of_mem_namesOf {t n : Text} (h : n ∈ namesOf t) : IsProperName n := by
  obtain ⟨hmem, hidle⟩ := List.mem_filter.mp h
  have hnot : ¬ (n = [] ∨ n = ['.']) := by simpa [isIdle] using hidle
  rw [not_or] at hnot
  exact ⟨hnot.1, hnot.2, not_mem_of_mem_splitOn hmem⟩

theorem namesOf_append (s t : Text) : namesOf (s ++ '/' :: t) = namesOf s ++ namesOf t := by
  rw [namesOf, splitOn_append_cons, List.filter_append]
  rfl

/-- A name without slashes is itself, unless it is idle. -/
theorem namesOf_name {n : Text} (h : IsProperName n) : namesOf n = [n] := by
  have hidle : isIdle n = false := by simp [isIdle, h.ne_nil, h.ne_dot]
  rw [namesOf, splitOn_of_not_mem h.slash, List.filter_cons_of_pos (by simp [hidle])]
  rfl

theorem filter_names {names : List Text} (h : ∀ n ∈ names, IsProperName n) :
    (names.filter fun n => !isIdle n) = names := by
  apply List.filter_eq_self.mpr
  intro n hn
  simp [isIdle, (h n hn).ne_nil, (h n hn).ne_dot]

theorem namesOf_join {names : List Text} (h : ∀ n ∈ names, IsProperName n) :
    namesOf (join ['/'] names) = names := by
  cases names with
  | nil => rfl
  | cons n ns =>
      rw [namesOf, splitOn_join (by simp) fun m hm => (h m hm).slash]
      exact filter_names h

/-- The text of a path gives its names. -/
theorem namesOf_text {p : Path} (h : ∀ n ∈ p.names, IsProperName n) : namesOf p.text = p.names := by
  have hjoin := namesOf_join h
  have hslash : ∀ t : Text, namesOf ('/' :: t) = namesOf t := fun t => namesOf_append [] t
  rw [text]
  split
  · next hnames => rw [hnames]; rfl
  · cases p.anchor with
    | relative => exact hjoin
    | root => exact (hslash _).trans hjoin
    | doubled => exact (hslash _).trans ((hslash _).trans hjoin)

/-- Names one after the other begin with no slash. -/
theorem head_join_ne {names : List Text} (h : ∀ n ∈ names, IsProperName n) :
    (join ['/'] names).head? ≠ some '/' := by
  cases names with
  | nil => simp [join]
  | cons n ns =>
      have hn := h n List.mem_cons_self
      obtain ⟨c, cs, rfl⟩ := List.exists_cons_of_ne_nil hn.ne_nil
      have hc : c ≠ '/' := fun heq => hn.slash (heq ▸ List.mem_cons_self)
      cases ns with
      | nil => simpa [join] using hc
      | cons m ms => simpa [join] using hc

/-- The text of a path begins with a slash if it has an anchor of its own. -/
theorem startOf_text {p : Path} (h : ∀ n ∈ p.names, IsProperName n) (l : Location) :
    FileSystem.startOf p.text l = if p.anchor = .relative then l else [] := by
  obtain ⟨anchor, names⟩ := p
  cases anchor with
  | relative =>
      cases names with
      | nil => rfl
      | cons n ns => exact if_neg (head_join_ne h)
  | root => cases names <;> rfl
  | doubled => cases names <;> rfl

theorem anchor_ofText_iff {t : Text} : Anchor.ofText t = .relative ↔ t.head? ≠ some '/' := by
  unfold Anchor.ofText
  split
  · simp
  · simp
  · simp
  · next hnot =>
      refine iff_of_true rfl fun hhead => ?_
      obtain ⟨cs, rfl⟩ := List.head?_eq_some_iff.mp hhead
      exact hnot cs rfl

theorem ofText_slash {t : Text} (h : t.head? ≠ some '/') : Anchor.ofText ('/' :: t) = .root := by
  cases t with
  | nil => rfl
  | cons c cs =>
      have hc : c ≠ '/' := by simpa using h
      simp [Anchor.ofText, hc]

theorem ofText_slashes {t : Text} (h : t.head? ≠ some '/') :
    Anchor.ofText ('/' :: '/' :: t) = .doubled := by
  cases t with
  | nil => rfl
  | cons c cs =>
      have hc : c ≠ '/' := by simpa using h
      simp [Anchor.ofText, hc]

/-- The text of a path gives its anchor. -/
theorem anchor_ofText_text {p : Path} (h : ∀ n ∈ p.names, IsProperName n) :
    Anchor.ofText p.text = p.anchor := by
  obtain ⟨anchor, names⟩ := p
  have hhead := head_join_ne h
  dsimp only at hhead
  cases anchor with
  | relative =>
      cases names with
      | nil => rfl
      | cons n ns => exact anchor_ofText_iff.mpr hhead
  | root =>
      have htext : text ⟨.root, names⟩ = '/' :: join ['/'] names := by cases names <;> rfl
      rw [htext]
      exact ofText_slash hhead
  | doubled =>
      have htext : text ⟨.doubled, names⟩ = '/' :: '/' :: join ['/'] names := by cases names <;> rfl
      rw [htext]
      exact ofText_slashes hhead

/-- Reading the text of a path gives the path. -/
theorem ofText_text {p : Path} (h : ∀ n ∈ p.names, IsProperName n) : ofText p.text = p := by
  rw [ofText, anchor_ofText_text h, namesOf_text h]

/-- Paths of proper names are told apart by their texts. -/
theorem text_injective {p q : Path} (hp : ∀ n ∈ p.names, IsProperName n)
    (hq : ∀ n ∈ q.names, IsProperName n) (h : p.text = q.text) : p = q := by
  rw [← ofText_text hp, h, ofText_text hq]

/-- A text and the path that it is read as begin at the same location. -/
theorem startOf_text_ofText (t : Text) (l : Location) :
    FileSystem.startOf (ofText t).text l = FileSystem.startOf t l := by
  rw [startOf_text fun n hn => isProperName_of_mem_namesOf hn, FileSystem.startOf]
  by_cases h : t.head? = some '/'
  · have hanchor : (ofText t).anchor ≠ .relative := fun heq => anchor_ofText_iff.mp heq h
    rw [if_neg hanchor, if_pos h]
  · have hanchor : (ofText t).anchor = .relative := anchor_ofText_iff.mpr h
    rw [if_pos hanchor, if_neg h]

theorem namesOf_text_ofText (t : Text) : namesOf (ofText t).text = namesOf t :=
  namesOf_text fun _ hn => isProperName_of_mem_namesOf hn

theorem isProperName_child {p : Path} (h : ∀ n ∈ p.names, IsProperName n) {n : Text}
    (hn : IsProperName n) : ∀ m ∈ (p.child n).names, IsProperName m := by
  intro m hm
  obtain hm | hm := List.mem_append.mp hm
  · exact h m hm
  · obtain rfl := List.mem_singleton.mp hm
    exact hn

theorem text_ne_nil {p : Path} (h : ∀ n ∈ p.names, n ≠ []) : p.text ≠ [] := by
  obtain ⟨anchor, names⟩ := p
  cases names with
  | nil => cases anchor <;> simp [text, Anchor.text]
  | cons n ns =>
      have hjoin : join ['/'] (n :: ns) ≠ [] := join_ne_nil (h n List.mem_cons_self)
      cases anchor <;> simp [text, Anchor.text, hjoin]

theorem text_child (p : Path) (n : Text) :
    (p.child n).text = p.anchor.text ++ join ['/'] (p.names ++ [n]) := by
  rw [text]
  split
  · next hnames => exact absurd hnames (by simp [child])
  · rfl

/-- The text of a path that ends with a name does not end with a slash. -/
theorem exists_last (p : Path) {n : Text} (hn : IsProperName n) :
    ∃ lead c, c ≠ '/' ∧ (p.child n).text = lead ++ [c] := by
  obtain ⟨cs, c, rfl⟩ := (List.eq_nil_or_concat' n).resolve_left hn.ne_nil
  have hc : c ≠ '/' := fun heq => hn.slash (by simp [heq])
  rw [text_child]
  by_cases hnames : p.names = []
  · rw [hnames]
    exact ⟨p.anchor.text ++ cs, c, hc, by simp [join]⟩
  · rw [join_concat hnames]
    exact ⟨p.anchor.text ++ (join ['/'] p.names ++ ['/'] ++ cs), c, hc, by simp⟩

theorem not_endsWith_slash_child (p : Path) {n : Text} (hn : IsProperName n) :
    endsWith (p.child n).text ['/'] = false := by
  obtain ⟨lead, c, hc, htext⟩ := p.exists_last hn
  rw [← Bool.not_eq_true, htext, endsWith, List.isSuffixOf_iff_suffix]
  rintro ⟨front, hfront⟩
  obtain ⟨-, hslash⟩ := List.append_inj' hfront rfl
  exact hc (List.singleton_inj.mp hslash).symm

end Path

end SourceAtlas
