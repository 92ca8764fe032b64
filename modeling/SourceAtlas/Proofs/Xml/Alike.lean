import Mathlib.Data.List.Forall2
import SourceAtlas.Proofs.Document.Spaces
import SourceAtlas.Proofs.Xml.RoundTrip

/-!
# Elements that are alike

Two elements are alike when they have the same names and attributes, and their texts are related one by
one.  So an element that can be written is alike what is read of it: its texts get uniform line ends.
-/

namespace SourceAtlas.Xml

open Text

namespace Element

/-- Elements with the same name and attributes.  Their texts and tails are related, and their children are
alike one by one. -/
inductive Alike (R : Text → Text → Prop) : Element → Element → Prop
  | intro {e e' : Element} (hname : e'.name = e.name) (hattributes : e'.attributes = e.attributes)
      (htext : R e.text e'.text) (htail : R e.tail e'.tail)
      (hchildren : List.Forall₂ (Alike R) e.children e'.children) : Alike R e e'

variable {R S Q : Text → Text → Prop} {e e' e'' x' : Element}

theorem Alike.trans (h : e.Alike R e') (h' : e'.Alike S e'')
    (hall : ∀ t u v, R t u → S u v → Q t v) : e.Alike Q e'' := by
  induction e using Element.induction generalizing e' e'' with
  | step e ih =>
      obtain ⟨hname, hattributes, htext, htail, hchildren⟩ := h
      obtain ⟨hname', hattributes', htext', htail', hchildren'⟩ := h'
      refine .intro (hname'.trans hname) (hattributes'.trans hattributes)
        (hall _ _ _ htext htext') (hall _ _ _ htail htail') ?_
      rw [List.forall₂_iff_get] at hchildren hchildren' ⊢
      obtain ⟨hlength, hchildren⟩ := hchildren
      obtain ⟨hlength', hchildren'⟩ := hchildren'
      refine ⟨hlength.trans hlength', fun i hi hi'' => ?_⟩
      have hi' : i < e'.children.length := hlength ▸ hi
      exact ih _ (List.get_mem _ _) (hchildren i hi hi') (hchildren' i hi' hi'')

/-- What stands at a place is alike what stands there in an element that is alike. -/
theorem Alike.at? (h : e.Alike R e') {place : Address} (hx : e'.at? place = some x') :
    ∃ x, e.at? place = some x ∧ x.Alike R x' := by
  induction place generalizing e e' with
  | nil =>
      obtain rfl := Option.some.inj hx
      exact ⟨e, rfl, h⟩
  | cons i is ih =>
      obtain ⟨-, -, -, -, hchildren⟩ := h
      obtain ⟨c', hc', hx⟩ := Option.bind_eq_some_iff.mp hx
      obtain ⟨hlength, hchildren⟩ := List.forall₂_iff_get.mp hchildren
      obtain ⟨hi', rfl⟩ := List.getElem?_eq_some_iff.mp hc'
      have hi : i < e.children.length := hlength ▸ hi'
      obtain ⟨x, hat, halike⟩ := ih (hchildren i hi hi') hx
      refine ⟨x, ?_, halike⟩
      rw [Element.at?, List.getElem?_eq_getElem hi]
      exact hat

/-- Elements that are alike in one way are alike in another one exactly if the texts of the first have the
property on which that depends. -/
theorem Alike.alike_iff_allTexts {P : Text → Prop} (h : e.Alike R e')
    (hiff : ∀ t u, R t u → (S t u ↔ P t)) : e.Alike S e' ↔ e.AllTexts P := by
  induction e using Element.induction generalizing e' with
  | step e ih =>
      obtain ⟨hname, hattributes, htext, htail, hchildren⟩ := h
      have hinside : List.Forall₂ (Alike S) e.children e'.children ↔
          ∀ c ∈ e.children, c.AllTexts P := by
        rw [List.forall₂_iff_get] at hchildren ⊢
        obtain ⟨hlength, hchildren⟩ := hchildren
        constructor
        · rintro ⟨-, hall⟩ c hc
          obtain ⟨⟨i, hi⟩, rfl⟩ := List.get_of_mem hc
          exact (ih _ (List.get_mem _ _) (hchildren i hi (hlength ▸ hi))).mp (hall i hi (hlength ▸ hi))
        · intro hall
          refine ⟨hlength, fun i hi hi' => ?_⟩
          have hmem := List.get_mem e.children ⟨i, hi⟩
          exact (ih _ hmem (hchildren i hi hi')).mpr (hall _ hmem)
      rw [allTexts_iff, ← hinside, ← hiff _ _ htext, ← hiff _ _ htail]
      constructor
      · rintro ⟨-, -, htext, htail, hchildren⟩
        exact ⟨⟨htext, htail⟩, hchildren⟩
      · rintro ⟨⟨htext, htail⟩, hchildren⟩
        exact .intro hname hattributes htext htail hchildren

/-! ## Writing and reading -/

/-- An element that can be written is alike what is read of it, with uniform line ends. -/
theorem alike_seen (h : ∀ x ∈ e.elements, x.Writable) :
    e.Alike (fun t u => u = unifyLines t) e.seen := by
  induction e using Element.induction with
  | step e ih =>
      obtain ⟨hself, hchildren⟩ := forall_mem_elements_iff.mp h
      refine .intro e.seen_name hself.seen_attributes ?_ ?_ ?_
      · rw [seen_text, seenText, map_readBack_eq_self hself.text]
      · rw [seen_tail, seenText, map_readBack_eq_self hself.tail]
      · rw [seen_children, List.forall₂_map_right_iff, List.forall₂_same]
        exact fun c hc => ih c hc (hchildren c hc)

end Element

end SourceAtlas.Xml
