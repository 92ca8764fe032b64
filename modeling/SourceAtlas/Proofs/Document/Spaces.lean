import SourceAtlas.Proofs.Document.Layout

/-!
# Where the texts of a document come from

Every text and every tail of a document that is laid out is one of an element that went into it, or
a line break with indentation.  So a property of texts that these have, all texts of the document
have.
-/

namespace SourceAtlas

open Text Xml

namespace Xml.Element

/-- A property of all texts and tails in an element. -/
def AllTexts (P : Text → Prop) (e : Element) : Prop := ∀ x ∈ e.elements, P x.text ∧ P x.tail

variable {P : Text → Prop}

theorem allTexts_iff {e : Element} :
    e.AllTexts P ↔ (P e.text ∧ P e.tail) ∧ ∀ c ∈ e.children, c.AllTexts P :=
  forall_mem_elements_iff

theorem AllTexts.withTail {e : Element} (h : e.AllTexts P) {t : Text} (ht : P t) :
    ({ e with tail := t } : Element).AllTexts P := by
  obtain ⟨hself, hchildren⟩ := allTexts_iff.mp h
  apply allTexts_iff.mpr
  exact ⟨⟨hself.1, ht⟩, hchildren⟩

theorem mem_elements_of_at? {e x : Element} {place : Address} (h : e.at? place = some x) :
    x ∈ e.elements := by
  induction place generalizing e with
  | nil =>
      obtain rfl := Option.some.inj h
      exact self_mem_elements _
  | cons n ns ih =>
      obtain ⟨c, hc, hx⟩ := Option.bind_eq_some_iff.mp h
      exact mem_elements_of_child (List.mem_of_getElem? hc) (ih hx)

/-! ## Indenting -/

theorem settle_cases (space t : Text) : settle space t = space ∨ settle space t = t := by
  unfold settle
  split
  · exact .inl rfl
  · exact .inr rfl

section Indent

variable (hline : ∀ level, P (lineAt level))

include hline

theorem settle_lineAt (level : Nat) {t : Text} (ht : P t) : P (settle (lineAt level) t) := by
  rcases settle_cases (lineAt level) t with h | h
  · rw [h]
    exact hline level
  · rw [h]
    exact ht

/-- Children whose insides may be indented keep the property when their tails are settled. -/
theorem allTexts_indentChildren {es : List Element} (h : ∀ e ∈ es, e.AllTexts P)
    (hinside : ∀ e ∈ es, ∀ level, (indentInside level e).AllTexts P) (level : Nat) :
    ∀ c ∈ indentChildren level es, c.AllTexts P := by
  intro c hc
  obtain ⟨i, hi⟩ := List.getElem?_of_mem hc
  obtain ⟨e, l, hat, rfl⟩ := getElem?_indentChildren hi
  have he := List.mem_of_getElem? hat
  have htail : P e.tail := (allTexts_iff.mp (h e he)).1.2
  apply (hinside e he _).withTail
  exact settle_lineAt hline l htail

theorem AllTexts.indentInside {e : Element} (h : e.AllTexts P) (level : Nat) :
    (indentInside level e).AllTexts P := by
  induction e using Element.induction generalizing level with
  | step e ih =>
      obtain ⟨⟨htext, htail⟩, hchildren⟩ := allTexts_iff.mp h
      apply allTexts_iff.mpr
      refine ⟨⟨?_, ?_⟩, ?_⟩
      · rw [indentInside_text]
        split
        · exact htext
        · exact settle_lineAt hline _ htext
      · rw [indentInside_tail]
        exact htail
      · rw [indentInside_children]
        apply allTexts_indentChildren hline hchildren
        intro e' he' level'
        exact ih e' he' (hchildren e' he') level'

end Indent

end Xml.Element

/-! ## Sharing white space -/

theorem exists_of_lastSpaces? {items : List Item} {place : Address} {spaces : Text × Text}
    (h : lastSpaces? items place = some spaces) :
    ∃ item ∈ items, ∃ x ∈ item.element.elements, spaces = (x.text, x.tail) := by
  obtain ⟨item, hitem, hfound⟩ := List.exists_of_findSome?_eq_some h
  obtain ⟨origin, -, hfound⟩ := Option.bind_eq_some_iff.mp hfound
  split at hfound
  · obtain ⟨x, hx, hspaces⟩ := Option.bind_eq_some_iff.mp hfound
    exact ⟨item, List.mem_reverse.mp hitem, x, Element.mem_elements_of_at? hx,
      (Option.some.inj hspaces).symm⟩
  · exact absurd hfound (by simp)

theorem exists_of_mem_setSpacesFrom {spaces : Address → Option (Text × Text)} {place : Address}
    {n : Nat} {es : List Element} {c : Element} (h : c ∈ setSpacesFrom spaces place n es) :
    ∃ e ∈ es, ∃ i, c = setSpaces spaces (place ++ [i]) e := by
  induction es generalizing n with
  | nil => exact absurd h (by simp [setSpacesFrom])
  | cons e es ih =>
      rw [setSpacesFrom, List.mem_cons] at h
      rcases h with rfl | h
      · exact ⟨e, List.mem_cons_self, n, rfl⟩
      · obtain ⟨e', he', i, rfl⟩ := ih h
        exact ⟨e', List.mem_cons_of_mem e he', i, rfl⟩

section Texts

variable {P : Text → Prop}

theorem Xml.Element.AllTexts.setSpaces {spaces : Address → Option (Text × Text)}
    (hspaces : ∀ place t u, spaces place = some (t, u) → P t ∧ P u) {e : Element}
    (h : e.AllTexts P) (place : Address) : (setSpaces spaces place e).AllTexts P := by
  induction e using Element.induction generalizing place with
  | step e ih =>
      obtain ⟨hself, hchildren⟩ := Element.allTexts_iff.mp h
      rw [setSpaces_eq]
      apply Element.allTexts_iff.mpr
      constructor
      · cases hplace : spaces place with
        | none => exact hself
        | some found => exact hspaces place found.1 found.2 hplace
      · intro c hc
        obtain ⟨e', he', i, rfl⟩ := exists_of_mem_setSpacesFrom hc
        exact ih e' he' (hchildren e' he') _

theorem allTexts_shareSpaces {items : List Item} (h : ∀ item ∈ items, item.element.AllTexts P) :
    ∀ e ∈ shareSpaces items, e.AllTexts P := by
  intro e he
  obtain ⟨item, hitem, rfl⟩ := List.mem_map.mp he
  have hspaces : ∀ place t u, lastSpaces? items place = some (t, u) → P t ∧ P u := by
    intro place t u hfound
    obtain ⟨other, hother, x, hx, heq⟩ := exists_of_lastSpaces? hfound
    obtain ⟨rfl, rfl⟩ := Prod.mk.inj heq
    exact h other hother x hx
  cases horigin : item.origin with
  | none => exact h item hitem
  | some place => exact (h item hitem).setSpaces hspaces place

/-- The texts of a document that is laid out have a property of the texts that went into it. -/
theorem allTexts_indentItems (hline : ∀ level, P (lineAt level)) {root : Element} {items : List Item}
    (htext : P root.text) (htail : P root.tail) (h : ∀ item ∈ items, item.element.AllTexts P) :
    (indentItems root items).AllTexts P := by
  have hindented : ∀ item ∈ indentedItems items, item.element.AllTexts P := by
    intro item hitem
    have hmem : item.element ∈ Element.indentChildren 0 (items.map (·.element)) := by
      rw [← indentedItems_elements]
      apply List.mem_map.mpr
      exact ⟨item, hitem, rfl⟩
    have helements : ∀ e ∈ items.map (·.element), e.AllTexts P := by
      intro e he
      obtain ⟨origin, horigin, rfl⟩ := List.mem_map.mp he
      exact h origin horigin
    apply Element.allTexts_indentChildren hline helements _ 0 _ hmem
    intro e he level
    exact (helements e he).indentInside hline level
  rw [indentItems_eq]
  apply Element.allTexts_iff.mpr
  refine ⟨⟨?_, htail⟩, allTexts_shareSpaces hindented⟩
  simp only
  split
  · exact htext
  · exact Element.settle_lineAt hline 1 htext

end Texts

end SourceAtlas
