import SourceAtlas.Xml.Element

/-!
# Elements as trees

An element is known when its children are: statements about all elements are proved by induction on
the tree, and a property of all elements of a document is one of its root and of the documents that
the children are.
-/

namespace SourceAtlas.Xml.Element

theorem mk_fields (e : Element) : (⟨e.name, e.attributes, e.text, e.children, e.tail⟩ : Element) = e := by
  cases e
  rfl

/-- What holds of an element when it holds of its children holds of all elements. -/
theorem induction {motive : Element → Prop}
    (step : ∀ e : Element, (∀ c ∈ e.children, motive c) → motive e) (e : Element) : motive e :=
  step e fun c _hc => induction step c
termination_by sizeOf e
decreasing_by
  cases e with
  | mk name attributes text children tail =>
      have := List.sizeOf_lt_of_mem _hc
      simp only [mk.sizeOf_spec] at this ⊢
      omega

theorem placesFrom_map_snd {children : List Element}
    (h : ∀ c ∈ children, ∀ here, (places c here).map (·.2) = c.elements) (here : Address) (n : Nat) :
    (placesFrom here n children).map (·.2) = children.flatMap elements := by
  induction children generalizing n with
  | nil => rfl
  | cons c cs ih =>
      rw [placesFrom, List.map_append, h c List.mem_cons_self,
        ih fun d hd => h d (List.mem_cons_of_mem c hd)]
      rfl

/-- Where an element stands does not change which elements are in it. -/
theorem places_map_snd (e : Element) (here : Address) :
    (e.places here).map (·.2) = e :: e.children.flatMap elements := by
  induction e using Element.induction generalizing here with
  | step e ih =>
      have hchildren : ∀ c ∈ e.children, ∀ here, (places c here).map (·.2) = c.elements :=
        fun c hc here => by rw [elements, ih c hc here, ih c hc []]
      cases e with
      | mk name attributes text children tail =>
          rw [places, List.map_cons, placesFrom_map_snd hchildren]

theorem places_eq (e : Element) (here : Address) :
    e.places here = (here, e) :: placesFrom here 0 e.children := by
  cases e
  rfl

/-- What stands at a place below the root stands right below it, or in a child of what does. -/
theorem of_mem_placesFrom {here : Address} {n : Nat} {children : List Element}
    {entry : Address × Element} (h : entry ∈ placesFrom here n children) :
    ∃ i c, children[i]? = some c ∧
      (entry = (here ++ [n + i], c) ∨ ∃ g ∈ c.children, entry.2 ∈ g.elements) := by
  induction children generalizing n with
  | nil => exact absurd h (by simp [placesFrom])
  | cons c cs ih =>
      rw [placesFrom, places_eq, List.mem_append, List.mem_cons] at h
      rcases h with (rfl | h) | h
      · exact ⟨0, c, rfl, .inl rfl⟩
      · have hinner := places_map_snd c (here ++ [n])
        rw [places_eq, List.map_cons] at hinner
        have hmem := List.mem_map_of_mem (f := (·.2)) h
        rw [(List.cons.inj hinner).2, List.mem_flatMap] at hmem
        exact ⟨0, c, rfl, .inr hmem⟩
      · obtain ⟨i, e, he, hentry⟩ := ih h
        rw [show n + 1 + i = n + (i + 1) by omega] at hentry
        exact ⟨i + 1, e, he, hentry⟩

theorem elements_eq (e : Element) : e.elements = e :: e.children.flatMap elements :=
  places_map_snd e []

theorem mem_elements_iff {x e : Element} :
    x ∈ e.elements ↔ x = e ∨ ∃ c ∈ e.children, x ∈ c.elements := by
  rw [elements_eq, List.mem_cons, List.mem_flatMap]

theorem self_mem_elements (e : Element) : e ∈ e.elements := mem_elements_iff.mpr (.inl rfl)

theorem mem_elements_of_child {x c e : Element} (hc : c ∈ e.children) (hx : x ∈ c.elements) :
    x ∈ e.elements :=
  mem_elements_iff.mpr (.inr ⟨c, hc, hx⟩)

theorem mem_elements_trans {x y e : Element} (hx : x ∈ y.elements) (hy : y ∈ e.elements) :
    x ∈ e.elements := by
  induction e using Element.induction with
  | step e ih =>
      rcases mem_elements_iff.mp hy with rfl | ⟨c, hc, hy⟩
      · exact hx
      · exact mem_elements_of_child hc (ih c hc hy)

/-- A property of all elements of a document. -/
theorem forall_mem_elements_iff {p : Element → Prop} {e : Element} :
    (∀ x ∈ e.elements, p x) ↔ p e ∧ ∀ c ∈ e.children, ∀ x ∈ c.elements, p x := by
  constructor
  · intro h
    exact ⟨h e (self_mem_elements e), fun c hc x hx => h x (mem_elements_of_child hc hx)⟩
  · rintro ⟨he, hchildren⟩ x hx
    rcases mem_elements_iff.mp hx with rfl | ⟨c, hc, hx⟩
    · exact he
    · exact hchildren c hc x hx

end SourceAtlas.Xml.Element
