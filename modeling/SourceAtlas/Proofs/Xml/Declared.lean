import SourceAtlas.Proofs.Xml.Acceptance
import SourceAtlas.Xml.Dtd

/-!
# Declared entities and attributes that may be used

The entities that may be declared stand for legal text, and the default values of attributes are
legal.  The declared attributes of an element have different names, each of which begins as a name
does.  With such declarations every value of an attribute is normalised to a legal one.
-/

namespace SourceAtlas.Xml

open Text

/-! ## Scanned parts -/

/-- A raw name: it begins as a name does and goes on with characters of names and colons. -/
structure Worded (raw : Text) : Prop where
  start : ∃ c cs, raw = c :: cs ∧ isNameStart c = true
  characters : ∀ c ∈ raw, isClosingNameChar c = true

theorem Qualified.worded {raw : Text} (h : Qualified raw) : Worded raw :=
  ⟨h.exists_cons, h.isClosingNameChar⟩

theorem gives_scanName (t : Text) : Gives (scanName t) fun r => isName r.1 = true ∧ r.2 <:+ t := by
  rintro ⟨name, rest⟩ h
  obtain ⟨hname, rfl, -⟩ := scanName_eq_ok h
  exact ⟨hname, List.suffix_append name rest⟩

/-- A reference to an entity by its name, or to a character that a document may hold. -/
def Reference.Lawful : Reference → Prop
  | .entity name => isName name = true
  | .character c => ∀ d ∈ c, isXmlChar d = true

theorem isXmlChar_of_charOfNumber? {n : Nat} {c : Char} (h : charOfNumber? n = some c) :
    isXmlChar c = true := by
  unfold charOfNumber? at h
  split at h
  · next hn =>
      obtain rfl := Option.some.inj h
      exact hn.2.2
  · exact absurd h (by simp)

theorem isXmlChar_of_predefined? {name : Text} {c : Char} (h : predefined? name = some c) :
    isXmlChar c = true := by
  obtain ⟨⟨_, d⟩, hmem, hd⟩ := List.exists_of_findSome?_eq_some h
  simp only [Option.ite_none_right_eq_some, Option.some.injEq] at hd
  obtain ⟨-, rfl⟩ := hd
  simp only [List.mem_cons, Prod.mk.injEq, List.not_mem_nil, or_false] at hmem
  rcases hmem with ⟨-, rfl⟩ | ⟨-, rfl⟩ | ⟨-, rfl⟩ | ⟨-, rfl⟩ | ⟨-, rfl⟩ <;> decide

theorem gives_scanNumber (base : Nat) (isDigit : Char → Bool) (t : Text) :
    Gives (scanNumber base isDigit t) fun r => r.1.Lawful ∧ r.2 <:+ t := by
  have hrest := List.dropWhile_suffix (l := t) isDigit
  unfold scanNumber
  split
  · exact gives_error _
  · next heq _ =>
      rw [heq] at hrest
      exact gives_ok ⟨fun d hd => isXmlChar_of_charOfNumber? hd, (List.suffix_cons _ _).trans hrest⟩
  · exact gives_error _

theorem gives_scanReference (t : Text) :
    Gives (scanReference t) fun r => r.1.Lawful ∧ r.2 <:+ t := by
  unfold scanReference
  split
  · exact (gives_scanNumber _ _ _).imp fun r hr =>
      ⟨hr.1, hr.2.trans ((List.suffix_cons _ _).trans (List.suffix_cons _ _))⟩
  · exact (gives_scanNumber _ _ _).imp fun r hr => ⟨hr.1, hr.2.trans (List.suffix_cons _ _)⟩
  · refine (gives_scanName t).bind ?_
    rintro ⟨name, rest⟩ ⟨hname, hrest⟩
    dsimp only at hrest ⊢
    split
    · exact gives_ok ⟨hname, (List.suffix_cons _ _).trans hrest⟩
    · exact gives_error _

/-! ## Values -/

/-- The entities of a document type stand for legal text, and its attributes are as they are to be. -/
structure Dtd.Lawful (d : Dtd) : Prop where
  entities : ∀ p ∈ d.entities, ∀ t, p.2 = .internal t → Legal t
  names : ∀ a ∈ d.attributes, Worded a.name
  defaults : ∀ a ∈ d.attributes, ∀ v ∈ a.default, Legal v
  distinct : ∀ element, ((d.attributesOf element).map (·.name)).Nodup

namespace Dtd.Lawful

variable {d : Dtd} (h : d.Lawful)

theorem empty (standalone : Bool) : ({ standalone } : Dtd).Lawful := by
  constructor <;> simp [attributesOf]

include h

theorem of_eq {d' : Dtd} (hentities : d'.entities = d.entities)
    (hattributes : d'.attributes = d.attributes) : d'.Lawful where
  entities := hentities ▸ h.entities
  names := hattributes ▸ h.names
  defaults := hattributes ▸ h.defaults
  distinct := fun element => by
    rw [attributesOf, hattributes]
    exact h.distinct element

theorem entity? {name t : Text} (heq : d.entity? name = some (.internal t)) : Legal t := by
  obtain ⟨p, hfind, hp⟩ := Option.map_eq_some_iff.mp heq
  exact h.entities p (List.mem_of_find?_eq_some hfind) t hp

theorem declareEntity {body : EntityBody} (hbody : ∀ t, body = .internal t → Legal t)
    (name : Text) : (d.declareEntity name body).Lawful := by
  unfold Dtd.declareEntity
  split
  · exact h
  · refine ⟨?_, h.names, h.defaults, h.distinct⟩
    intro p hp
    rcases List.mem_append.mp hp with hp | hp
    · exact h.entities p hp
    · obtain rfl := List.mem_singleton.mp hp
      exact hbody

theorem declareAttribute {a : AttributeDeclaration} (hname : Worded a.name)
    (hdefault : ∀ v ∈ a.default, Legal v) : (d.declareAttribute a).Lawful := by
  unfold Dtd.declareAttribute
  split
  · exact h
  · next hnew =>
      simp only [Bool.or_eq_true, not_or, List.any_eq_true, not_exists, not_and,
        decide_eq_true_eq] at hnew
      refine ⟨h.entities, ?_, ?_, ?_⟩
      · intro b hb
        rcases List.mem_append.mp hb with hb | hb
        · exact h.names b hb
        · obtain rfl := List.mem_singleton.mp hb
          exact hname
      · intro b hb
        rcases List.mem_append.mp hb with hb | hb
        · exact h.defaults b hb
        · obtain rfl := List.mem_singleton.mp hb
          exact hdefault
      · intro element
        by_cases helement : a.element = element
        · subst helement
          simp only [attributesOf, List.filter_append, List.map_append]
          apply List.nodup_append.mpr
          refine ⟨h.distinct _, by simp, ?_⟩
          intro n hn m hm heq
          obtain ⟨b, hb, rfl⟩ := List.mem_map.mp hn
          simp at hm
          exact hnew.2 b hb (heq.trans hm)
        · have hsame : attributesOf { d with attributes := d.attributes ++ [a] } element =
              d.attributesOf element := by
            simp [attributesOf, helement]
          rw [hsame]
          exact h.distinct element

end Dtd.Lawful

theorem legal_pushSpace {plain : Bool} {done : Text} (h : Legal done) :
    Legal (pushSpace plain done) := by
  unfold pushSpace
  split
  · exact h
  · apply legal_cons.mpr
    exact ⟨by decide, h⟩

section Values

variable {d : Dtd} (hd : d.Lawful) (plain : Bool)

include hd

/-- Normalising keeps a value legal, if the text of entities does. -/
theorem gives_normalizeFrom {nested : Text → Text → Text → Except ValueFault Text}
    (hnested : ∀ name body done, Legal body → Legal done → Gives (nested name body done) Legal)
    (count : Nat) {t done : Text} (ht : Legal t) (hdone : Legal done) :
    Gives (normalizeFrom d plain nested count t done) Legal := by
  induction count generalizing t done with
  | zero => exact gives_ok hdone
  | succ count ih =>
      cases t with
      | nil => exact gives_ok hdone
      | cons c cs =>
          obtain ⟨hc, hcs⟩ := legal_cons.mp ht
          have hreference := gives_scanReference cs
          unfold normalizeFrom
          dsimp only
          split
          · exact gives_error _
          · split
            · split
              · exact gives_error _
              · exact gives_error _
              · exact gives_error _
              · next r rest heq =>
                  obtain ⟨hr, hrest⟩ := hreference _ heq
                  apply ih (hcs.of_suffix hrest)
                  split
                  · exact legal_pushSpace hdone
                  · apply legal_cons.mpr
                    exact ⟨hr r rfl, hdone⟩
              · next name rest heq =>
                  have hrest := hcs.of_suffix (hreference _ heq).2
                  split
                  · next hr => exact ih hrest (legal_cons.mpr ⟨isXmlChar_of_predefined? hr, hdone⟩)
                  · split
                    · exact gives_error _
                    · exact ih hrest hdone
                  · exact gives_error _
                  · exact gives_error _
                  · next body _ hbody =>
                      split
                      · next done' heq' =>
                          exact ih hrest (hnested name body done (hd.entity? hbody) hdone _ heq')
                      · exact gives_error _
            · split
              · exact ih hcs (legal_pushSpace hdone)
              · exact ih hcs (legal_cons.mpr ⟨hc, hdone⟩)

theorem gives_normalizeNested (depth : Nat) (opened : List Text) {t done : Text} (ht : Legal t)
    (hdone : Legal done) : Gives (normalizeNested d plain depth opened t done) Legal := by
  induction depth generalizing opened t done with
  | zero => exact gives_normalizeFrom hd plain (fun _ _ _ _ _ => gives_error _) _ ht hdone
  | succ depth ih =>
      refine gives_normalizeFrom hd plain ?_ _ ht hdone
      intro name body done' hbody hdone'
      split
      · exact gives_error _
      · exact ih _ hbody hdone'

/-- The normalised value of an attribute is legal. -/
theorem gives_normalize {t : Text} (ht : Legal t) : Gives (d.normalize plain t) Legal := by
  refine (gives_normalizeNested hd plain _ _ ht legal_nil).bind fun done hdone => gives_ok ?_
  rw [legal_reverse]
  split
  · exact hdone.of_suffix (List.drop_suffix 1 done)
  · exact hdone

end Values

/-- The text of an entity is legal. -/
theorem gives_entityText (count : Nat) {t : Text} (ht : Legal t) :
    Gives (entityText count t) Legal := by
  induction count generalizing t with
  | zero => exact gives_ok legal_nil
  | succ count ih =>
      cases t with
      | nil => exact gives_ok legal_nil
      | cons c cs =>
          obtain ⟨hc, hcs⟩ := legal_cons.mp ht
          have hreference := gives_scanReference cs
          unfold entityText
          dsimp only
          split
          · split <;> exact gives_error _
          · split
            · split
              · exact gives_error _
              · exact gives_error _
              · exact gives_error _
              · next r rest heq =>
                  obtain ⟨hr, hrest⟩ := hreference _ heq
                  exact (ih (hcs.of_suffix hrest)).map fun t ht => legal_cons.mpr ⟨hr r rfl, ht⟩
              · next name rest heq =>
                  obtain ⟨hname, hrest⟩ := hreference _ heq
                  refine (ih (hcs.of_suffix hrest)).map fun t ht => ?_
                  exact legal_cons.mpr ⟨by decide, legal_append.mpr
                    ⟨(Qualified.plain hname).legal, legal_cons.mpr ⟨by decide, ht⟩⟩⟩
            · exact (ih hcs).map fun t ht => legal_cons.mpr ⟨hc, ht⟩

end SourceAtlas.Xml
