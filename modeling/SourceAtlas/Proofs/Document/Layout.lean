import Mathlib.Data.List.Forall2
import SourceAtlas.Document.Sharing
import SourceAtlas.Proofs.Xml.Elements

/-!
# Layout of a document

Indenting a document and sharing the white space of elements that stand at several places touch
nothing but text and tails: the outline of an element, which is the element without these, stays as
it is.  Indenting twice at the same level is indenting once.
-/

namespace SourceAtlas

open Text Xml

namespace Xml.Element

/-! ## Outlines -/

mutual

/-- An element without text and tails. -/
def outline : Element → Element
  | ⟨name, attributes, _, children, _⟩ => { name, attributes, children := outlines children }

/-- Elements without text and tails. -/
def outlines : List Element → List Element
  | [] => []
  | e :: es => e.outline :: outlines es

end

theorem outlines_eq (es : List Element) : outlines es = es.map outline := by
  induction es with
  | nil => rfl
  | cons e es ih => rw [outlines, ih, List.map_cons]

section Parts

variable (e : Element)

theorem outline_eq :
    e.outline = { name := e.name, attributes := e.attributes, children := e.children.map outline } := by
  cases e
  rw [outline, outlines_eq]

@[simp] theorem outline_name : e.outline.name = e.name := by rw [outline_eq]

@[simp] theorem outline_attributes : e.outline.attributes = e.attributes := by rw [outline_eq]

@[simp] theorem outline_children : e.outline.children = e.children.map outline := by rw [outline_eq]

/-- The elements of an outline are the outlines of the elements. -/
theorem elements_outline : e.outline.elements = e.elements.map outline := by
  induction e using Element.induction with
  | step e ih =>
      rw [elements_eq, elements_eq e, List.map_cons, outline_children, List.flatMap_map,
        List.map_flatMap, List.flatMap_def, List.flatMap_def, List.map_congr_left ih]

end Parts

/-- Elements with the same outline have the same names and attributes, however deep. -/
theorem forall_mem_elements_of_outline_eq {e e' : Element} (h : e.outline = e'.outline)
    {P : Name → List Attribute → Prop} (he : ∀ x ∈ e.elements, P x.name x.attributes) :
    ∀ x ∈ e'.elements, P x.name x.attributes := by
  intro x hx
  have hmem : x.outline ∈ e.elements.map outline := by
    rw [← elements_outline, h, elements_outline]
    apply List.mem_map.mpr
    exact ⟨x, hx, rfl⟩
  obtain ⟨y, hy, heq⟩ := List.mem_map.mp hmem
  have hname := congrArg name heq
  have hattributes := congrArg attributes heq
  simp only [outline_name, outline_attributes] at hname hattributes
  rw [← hname, ← hattributes]
  exact he y hy

/-! ## Indenting -/

section Indent

variable (level : Nat) (e : Element)

@[simp] theorem indentInside_name : (indentInside level e).name = e.name := by
  cases e
  rfl

@[simp] theorem indentInside_attributes : (indentInside level e).attributes = e.attributes := by
  cases e
  rfl

@[simp] theorem indentInside_tail : (indentInside level e).tail = e.tail := by
  cases e
  rfl

@[simp] theorem indentInside_text :
    (indentInside level e).text =
      if e.children.isEmpty then e.text else settle (lineAt (level + 1)) e.text := by
  cases e
  rfl

@[simp] theorem indentInside_children :
    (indentInside level e).children = indentChildren level e.children := by
  cases e
  rfl

/-- The tail plays no part in what is inside. -/
theorem indentInside_withTail (t : Text) :
    indentInside level { e with tail := t } = { indentInside level e with tail := t } := by
  cases e
  rfl

end Indent

/-- Every child keeps its outline. -/
theorem outline_indentChildren {es : List Element}
    (h : ∀ e ∈ es, ∀ level, (indentInside level e).outline = e.outline) (level : Nat) :
    (indentChildren level es).map outline = es.map outline := by
  induction es with
  | nil => rfl
  | cons e es ih =>
      have hfirst : ∀ t, Element.outline { indentInside (level + 1) e with tail := t } = e.outline := by
        intro t
        rw [← h e List.mem_cons_self (level + 1), outline_eq, outline_eq]
      rw [indentChildren, List.map_cons, List.map_cons, hfirst,
        ih fun c hc => h c (List.mem_cons_of_mem e hc)]

theorem outline_indentInside (level : Nat) (e : Element) :
    (indentInside level e).outline = e.outline := by
  induction e using Element.induction generalizing level with
  | step e ih =>
      rw [outline_eq, outline_eq e, indentInside_name, indentInside_attributes,
        indentInside_children, outline_indentChildren ih]

theorem getElem?_indentChildren {level : Nat} {es : List Element} {i : Nat} {c : Element}
    (h : (indentChildren level es)[i]? = some c) :
    ∃ e l, es[i]? = some e ∧
      c = { indentInside (level + 1) e with tail := settle (lineAt l) e.tail } := by
  induction es generalizing i with
  | nil => exact absurd h (by simp [indentChildren])
  | cons e es ih =>
      rw [indentChildren] at h
      cases i with
      | zero =>
          obtain rfl := Option.some.inj h
          exact ⟨e, _, rfl, by rw [indentInside_tail]⟩
      | succ i => exact ih h

/-! ## Laid-out elements -/

/-- An element that is laid out, with any tail. -/
def LaidOut (e c : Element) : Prop := ∃ level tail, c = { indentInside level e with tail := tail }

namespace LaidOut

variable {e c : Element}

theorem outline (h : e.LaidOut c) : c.outline = e.outline := by
  obtain ⟨level, tail, rfl⟩ := h
  rw [← outline_indentInside level e, outline_eq, outline_eq (indentInside level e)]

theorem name (h : e.LaidOut c) : c.name = e.name := by
  obtain ⟨level, tail, rfl⟩ := h
  exact indentInside_name level e

theorem attributes (h : e.LaidOut c) : c.attributes = e.attributes := by
  obtain ⟨level, tail, rfl⟩ := h
  exact indentInside_attributes level e

theorem attribute? (h : e.LaidOut c) (key : Text) : c.attribute? key = e.attribute? key := by
  rw [Element.attribute?, Element.attribute?, h.attributes]

/-- Text that no element follows stays. -/
theorem text (h : e.LaidOut c) (hchildren : e.children = []) : c.text = e.text := by
  obtain ⟨level, tail, rfl⟩ := h
  have htext := indentInside_text level e
  rw [hchildren] at htext
  exact htext

theorem indentChildren (level : Nat) (es : List Element) :
    List.Forall₂ LaidOut es (indentChildren level es) := by
  induction es with
  | nil => exact .nil
  | cons e es ih => exact .cons ⟨level + 1, _, rfl⟩ ih

theorem exists_of_mem_children (h : e.LaidOut c) {g : Element} (hg : g ∈ c.children) :
    ∃ g' ∈ e.children, g'.LaidOut g := by
  obtain ⟨level, tail, rfl⟩ := h
  have hg : g ∈ (indentInside level e).children := hg
  rw [indentInside_children] at hg
  obtain ⟨i, hi⟩ := List.getElem?_of_mem hg
  obtain ⟨g', l, hg', heq⟩ := getElem?_indentChildren hi
  exact ⟨g', List.mem_of_getElem? hg', level + 1, _, heq⟩

theorem children (h : e.LaidOut c) : List.Forall₂ LaidOut e.children c.children := by
  obtain ⟨level, tail, rfl⟩ := h
  have hchildren := indentInside_children level e
  rw [show ({ indentInside level e with tail := tail } : Element).children =
    (indentInside level e).children from rfl, hchildren]
  exact indentChildren level e.children

theorem exists_child (h : e.LaidOut c) {g : Element} (hg : g ∈ e.children) :
    ∃ g' ∈ c.children, g.LaidOut g' := by
  obtain ⟨hlength, hlaid⟩ := List.forall₂_iff_get.mp h.children
  obtain ⟨⟨i, hi⟩, rfl⟩ := List.get_of_mem hg
  exact ⟨_, List.get_mem c.children ⟨i, hlength ▸ hi⟩, hlaid i hi (hlength ▸ hi)⟩

/-- However deep an element without children is, its text stays. -/
theorem exists_text (h : e.LaidOut c) {x : Element} (hx : x ∈ e.elements) (hleaf : x.children = []) :
    ∃ y ∈ c.elements, y.text = x.text := by
  induction e using Element.induction generalizing c with
  | step e ih =>
      rcases mem_elements_iff.mp hx with rfl | ⟨g, hg, hx⟩
      · exact ⟨c, self_mem_elements c, h.text hleaf⟩
      · obtain ⟨g', hg', hlaid⟩ := h.exists_child hg
        obtain ⟨y, hy, htext⟩ := ih g hg hlaid hx
        exact ⟨y, mem_elements_of_child hg' hy, htext⟩

end LaidOut

/-! ## Indenting again -/

theorem isBlank_of_mem_lineAt {level : Nat} {c : Char} (h : c ∈ lineAt level) :
    c = '\n' ∨ c = ' ' := by
  rw [lineAt, List.mem_cons] at h
  rcases h with h | h
  · exact .inl h
  · rw [Text.replicate, List.mem_flatten] at h
    obtain ⟨unit, hunit, hc⟩ := h
    rw [List.eq_of_mem_replicate hunit] at hc
    have hspaces : indentUnit.all (· == ' ') = true := by decide
    exact .inr (beq_iff_eq.mp (List.all_eq_true.mp hspaces c hc))

theorem allBlank_lineAt (level : Nat) : allBlank (lineAt level) = true := by
  rw [allBlank, List.all_eq_true]
  intro c hc
  rcases isBlank_of_mem_lineAt hc with rfl | rfl <;> decide

theorem settle_settle (level level' : Nat) (t : Text) :
    settle (lineAt level) (settle (lineAt level') t) = settle (lineAt level) t := by
  unfold settle
  by_cases h : allBlank t = true
  · rw [if_pos h, if_pos h, if_pos (allBlank_lineAt level')]
  · rw [if_neg h, if_neg h]

theorem indentChildren_length (level : Nat) (es : List Element) :
    (indentChildren level es).length = es.length := by
  induction es with
  | nil => rfl
  | cons e es ih => rw [indentChildren, List.length_cons, List.length_cons, ih]

theorem indentChildren_isEmpty (level : Nat) (es : List Element) :
    (indentChildren level es).isEmpty = es.isEmpty := by
  cases es <;> rfl

/-- Children with an inside that is indented need only their tails settled. -/
theorem indentChildren_indentChildren {es : List Element}
    (h : ∀ e ∈ es, ∀ level, indentInside level (indentInside level e) = indentInside level e)
    (level : Nat) : indentChildren level (indentChildren level es) = indentChildren level es := by
  induction es with
  | nil => rfl
  | cons e es ih =>
      have hothers := ih fun c hc => h c (List.mem_cons_of_mem e hc)
      have hfirst := h e List.mem_cons_self (level + 1)
      rw [indentChildren, indentChildren, indentChildren_isEmpty, indentInside_withTail, hfirst,
        hothers]
      simp only [settle_settle]

theorem indentInside_indentInside (level : Nat) (e : Element) :
    indentInside level (indentInside level e) = indentInside level e := by
  induction e using Element.induction generalizing level with
  | step e ih =>
      rw [← mk_fields (indentInside level (indentInside level e)),
        ← mk_fields (indentInside level e)]
      simp only [indentInside_name, indentInside_attributes, indentInside_tail, indentInside_text,
        indentInside_children, indentChildren_isEmpty, indentChildren_indentChildren ih]
      split
      · rfl
      · rw [settle_settle]

end Xml.Element

/-! ## Sharing white space -/

section Spaces

variable (spaces : Address → Option (Text × Text)) (place : Address)

theorem setSpaces_eq (e : Element) :
    setSpaces spaces place e =
      { e with
        text := ((spaces place).getD (e.text, e.tail)).1
        children := setSpacesFrom spaces place 0 e.children
        tail := ((spaces place).getD (e.text, e.tail)).2 } := by
  cases e
  rfl

theorem outline_setSpacesFrom {es : List Element}
    (h : ∀ e ∈ es, ∀ place, (setSpaces spaces place e).outline = e.outline) (n : Nat) :
    (setSpacesFrom spaces place n es).map Element.outline = es.map Element.outline := by
  induction es generalizing n with
  | nil => rfl
  | cons e es ih =>
      rw [setSpacesFrom, List.map_cons, List.map_cons, h e List.mem_cons_self,
        ih fun c hc => h c (List.mem_cons_of_mem e hc)]

theorem outline_setSpaces (e : Element) : (setSpaces spaces place e).outline = e.outline := by
  induction e using Element.induction generalizing place with
  | step e ih =>
      rw [Element.outline_eq, Element.outline_eq e, setSpaces_eq,
        outline_setSpacesFrom spaces place fun c hc place => ih c hc place]

end Spaces

theorem outline_shareSpaces (items : List Item) :
    (shareSpaces items).map Element.outline = items.map fun item => item.element.outline := by
  rw [shareSpaces, List.map_map]
  apply List.map_congr_left
  intro item _
  rw [Function.comp_apply]
  cases item.origin with
  | none => rfl
  | some place => exact outline_setSpaces _ place item.element

/-! ## Items under their root element -/

/-- The items of a document with their elements indented. -/
def indentedItems (items : List Item) : List Item :=
  (items.zip (Element.indentChildren 0 (items.map (·.element)))).map fun (item, e) =>
    { item with element := e }

theorem length_indentChildren (items : List Item) :
    (Element.indentChildren 0 (items.map (·.element))).length = items.length := by
  rw [Element.indentChildren_length, List.length_map]

theorem indentedItems_elements (items : List Item) :
    (indentedItems items).map (·.element) = Element.indentChildren 0 (items.map (·.element)) := by
  rw [indentedItems, List.map_map]
  exact List.map_snd_zip (Nat.le_of_eq (length_indentChildren items))

theorem indentedItems_origins (items : List Item) :
    (indentedItems items).map (·.origin) = items.map (·.origin) := by
  have hfst := congrArg (List.map (·.origin))
    (List.map_fst_zip (Nat.le_of_eq (length_indentChildren items).symm))
  rw [List.map_map] at hfst
  rw [indentedItems, List.map_map]
  exact hfst

section Items

variable (root : Element) (items : List Item)

theorem indentItems_eq :
    indentItems root items =
      { root with
        text := if (items.map (·.element)).isEmpty then root.text else settle (lineAt 1) root.text
        children := shareSpaces (indentedItems items) } := by
  cases root
  rfl

@[simp] theorem indentItems_name : (indentItems root items).name = root.name := by
  rw [indentItems_eq]

@[simp] theorem indentItems_attributes :
    (indentItems root items).attributes = root.attributes := by
  rw [indentItems_eq]

@[simp] theorem indentItems_tail : (indentItems root items).tail = root.tail := by
  rw [indentItems_eq]

/-- Every child of the root element has the outline of its item. -/
theorem outline_indentItems :
    (indentItems root items).children.map Element.outline =
      items.map fun item => item.element.outline := by
  have helements := congrArg (List.map Element.outline) (indentedItems_elements items)
  rw [List.map_map, Element.outline_indentChildren fun e _ level => Element.outline_indentInside level e,
    List.map_map] at helements
  rw [indentItems_eq, outline_shareSpaces]
  exact helements

variable {items} in
/-- An item that was not taken over is laid out below the root element. -/
theorem exists_laidOut {item : Item} (hitem : item ∈ items) (horigin : item.origin = none) :
    ∃ c ∈ (indentItems root items).children, item.element.LaidOut c := by
  obtain ⟨i, hi⟩ := List.getElem?_of_mem hitem
  have helement : (items.map (·.element))[i]? = some item.element := by
    rw [List.getElem?_map, hi, Option.map_some]
  obtain ⟨c, hc⟩ : ∃ c, (Element.indentChildren 0 (items.map (·.element)))[i]? = some c := by
    have hlength := (List.getElem?_eq_some_iff.mp helement).1
    rw [← Element.indentChildren_length 0] at hlength
    exact ⟨_, List.getElem?_eq_getElem hlength⟩
  obtain ⟨e, l, he, heq⟩ := Element.getElem?_indentChildren hc
  obtain rfl := Option.some.inj (helement.symm.trans he)
  have hplaced : ({ item with element := c } : Item) ∈ indentedItems items :=
    List.mem_map.mpr ⟨(item, c), List.mem_of_getElem? (List.getElem?_zip_eq_some.mpr ⟨hi, hc⟩), rfl⟩
  refine ⟨c, ?_, 1, _, heq⟩
  rw [indentItems_eq]
  apply List.mem_map.mpr
  refine ⟨_, hplaced, ?_⟩
  simp only [horigin]

/-- The tags of a document are those of its root element and of its items. -/
theorem forall_tags_indentItems_iff {P : Name → List Attribute → Prop} :
    (∀ x ∈ (indentItems root items).elements, P x.name x.attributes) ↔
      P root.name root.attributes ∧
        ∀ item ∈ items, ∀ x ∈ item.element.elements, P x.name x.attributes := by
  have houtlines := outline_indentItems root items
  rw [Element.forall_mem_elements_iff, indentItems_name, indentItems_attributes]
  apply and_congr_right
  intro _
  constructor
  · intro h item hitem
    have hmem : item.element.outline ∈ (indentItems root items).children.map Element.outline := by
      rw [houtlines]
      apply List.mem_map.mpr
      exact ⟨item, hitem, rfl⟩
    obtain ⟨c, hc, heq⟩ := List.mem_map.mp hmem
    exact Element.forall_mem_elements_of_outline_eq heq (h c hc)
  · intro h c hc
    have hmem : c.outline ∈ items.map fun item => item.element.outline := by
      rw [← houtlines]
      apply List.mem_map.mpr
      exact ⟨c, hc, rfl⟩
    obtain ⟨item, hitem, heq⟩ := List.mem_map.mp hmem
    exact Element.forall_mem_elements_of_outline_eq heq (h item hitem)

end Items

end SourceAtlas
