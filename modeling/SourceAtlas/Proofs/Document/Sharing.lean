import SourceAtlas.Proofs.Document.Layout

/-!
# Sharing among elements that stand apart

When no element that is taken over is part of another one and none is taken over twice, every place is
held by one item only, and sharing white space leaves everything as it is.  So it is when they stand at
different places right below the root of the earlier document.
-/

namespace SourceAtlas

open Xml

section Spaces

variable {spaces : Address → Option (Text × Text)}

theorem setSpacesFrom_eq_self {es : List Element} {place : Address} {n : Nat}
    (h : ∀ i e, es[i]? = some e → setSpaces spaces (place ++ [n + i]) e = e) :
    setSpacesFrom spaces place n es = es := by
  induction es generalizing n with
  | nil => rfl
  | cons e es ih =>
      have hothers : setSpacesFrom spaces place (n + 1) es = es := by
        apply ih
        intro i c hc
        have hmember := h (i + 1) c hc
        rwa [show n + 1 + i = n + (i + 1) by omega]
      have hfirst : setSpaces spaces (place ++ [n]) e = e := h 0 e rfl
      rw [setSpacesFrom, hfirst, hothers]

/-- Setting white space to what it is changes nothing. -/
theorem setSpaces_eq_self {e : Element} {place : Address}
    (h : ∀ inner x, e.at? inner = some x → spaces (place ++ inner) = some (x.text, x.tail)) :
    setSpaces spaces place e = e := by
  induction e using Element.induction generalizing place with
  | step e ih =>
      have hself := h [] e rfl
      rw [List.append_nil] at hself
      have hchildren : setSpacesFrom spaces place 0 e.children = e.children := by
        apply setSpacesFrom_eq_self
        intro i c hc
        apply ih c (List.mem_of_getElem? hc)
        intro inner x hx
        have hinner : e.at? (i :: inner) = some x := by
          rw [Element.at?, hc]
          exact hx
        rw [List.append_assoc, List.singleton_append, Nat.zero_add]
        exact h (i :: inner) x hinner
      rw [setSpaces_eq, hself, hchildren]
      exact Element.mk_fields e

end Spaces

/-! ## Items -/

/-- Places none of which is inside another one, or comes twice. -/
def Separate (origins : List (Option Address)) : Prop :=
  origins.Pairwise fun a b => ∀ p q, a = some p → b = some q → ¬ p <+: q ∧ ¬ q <+: p

/-- Places right below the root, none of which comes twice. -/
structure Apart (origins : List (Option Address)) : Prop where
  below : ∀ place, some place ∈ origins → ∃ i, place = [i]
  distinct : origins.Pairwise fun a b => ∀ place, a = some place → b ≠ some place

theorem Apart.separate {origins : List (Option Address)} (h : Apart origins) : Separate origins := by
  apply h.distinct.imp_of_mem
  rintro a b ha hb hne p q rfl rfl
  obtain ⟨i, rfl⟩ := h.below p ha
  obtain ⟨j, rfl⟩ := h.below q hb
  have hij : i ≠ j := by
    rintro rfl
    exact hne [i] rfl rfl
  constructor
  · intro hprefix
    exact hij (List.cons_prefix_cons.mp hprefix).1
  · intro hprefix
    exact hij (List.cons_prefix_cons.mp hprefix).1.symm

theorem lastSpaces?_cons (item : Item) (items : List Item) (place : Address) :
    lastSpaces? (item :: items) place =
      (lastSpaces? items place).or (lastSpaces? [item] place) := by
  rw [lastSpaces?, List.reverse_cons, List.findSome?_append]
  rfl

/-- No item holds a place that is in another one. -/
theorem lastSpaces?_of_not_mem {items : List Item} {place inner : Address}
    (h : ∀ item ∈ items, ∀ q, item.origin = some q → ¬ place <+: q ∧ ¬ q <+: place) :
    lastSpaces? items (place ++ inner) = none := by
  apply List.findSome?_eq_none_iff.mpr
  intro item hitem
  cases horigin : item.origin with
  | none => rfl
  | some q =>
      obtain ⟨hplace, hq⟩ := h item (List.mem_reverse.mp hitem) q horigin
      have hlead : q.isPrefixOf (place ++ inner) = false := by
        rw [← Bool.not_eq_true, List.isPrefixOf_iff_prefix]
        intro hprefix
        obtain hprefix | hprefix :=
          List.prefix_or_prefix_of_prefix hprefix (List.prefix_append place inner)
        · exact hq hprefix
        · exact hplace hprefix
      simp only [bind, Option.bind, hlead]
      rfl

theorem lastSpaces?_singleton {item : Item} {place inner : Address} {x : Element}
    (horigin : item.origin = some place) (hx : item.element.at? inner = some x) :
    lastSpaces? [item] (place ++ inner) = some (x.text, x.tail) := by
  simp [lastSpaces?, horigin, hx]

/-- Among items at separate places, a place is held by the item that holds it. -/
theorem lastSpaces?_of_mem {items : List Item} (h : Separate (items.map (·.origin))) {item : Item}
    (hitem : item ∈ items) {place : Address} (horigin : item.origin = some place) {inner : Address}
    {x : Element} (hx : item.element.at? inner = some x) :
    lastSpaces? items (place ++ inner) = some (x.text, x.tail) := by
  induction items with
  | nil => exact absurd hitem (by simp)
  | cons first rest ih =>
      rw [List.map_cons] at h
      obtain ⟨hfirst, hrest⟩ := List.pairwise_cons.mp h
      rw [lastSpaces?_cons]
      rcases List.mem_cons.mp hitem with rfl | hitem
      · have hnone : lastSpaces? rest (place ++ inner) = none := by
          apply lastSpaces?_of_not_mem
          intro other hother q hq
          exact hfirst _ (List.mem_map.mpr ⟨other, hother, rfl⟩) place q horigin hq
        rw [hnone, Option.none_or]
        exact lastSpaces?_singleton horigin hx
      · rw [ih hrest hitem, Option.some_or]

theorem shareSpaces_of_separate {items : List Item} (h : Separate (items.map (·.origin))) :
    shareSpaces items = items.map (·.element) := by
  apply List.map_congr_left
  intro item hitem
  cases horigin : item.origin with
  | none => rfl
  | some place =>
      apply setSpaces_eq_self
      intro inner x hx
      exact lastSpaces?_of_mem h hitem horigin hx

/-- A document of items at separate places is that of their elements, indented. -/
theorem indentItems_of_separate (root : Element) {items : List Item}
    (h : Separate (items.map (·.origin))) :
    indentItems root items = ({ root with children := items.map (·.element) } : Element).indent := by
  have hindented : Separate ((indentedItems items).map (·.origin)) := by
    rw [indentedItems_origins]
    exact h
  rw [indentItems_eq, shareSpaces_of_separate hindented, indentedItems_elements, Element.indent,
    ← Element.mk_fields (Element.indentInside 0 _)]
  simp only [Element.indentInside_name, Element.indentInside_attributes, Element.indentInside_text,
    Element.indentInside_children, Element.indentInside_tail]

/-- A document of items that stand apart is that of their elements, indented. -/
theorem indentItems_of_apart (root : Element) {items : List Item}
    (h : Apart (items.map (·.origin))) :
    indentItems root items = ({ root with children := items.map (·.element) } : Element).indent :=
  indentItems_of_separate root h.separate

end SourceAtlas
