import SourceAtlas.Proofs.Xml.Doctypes
import SourceAtlas.Xml.Token

/-!
# Tokens of any document

Whatever is read, a tag that is taken has raw names and values of legal characters, and so have all
other tokens: their scanners check every character.
-/

namespace SourceAtlas.Xml

open Text

/-! ## Tags -/

/-- A tag with raw names, and values that may stand in it. -/
structure Tag.Lawful (tag : Tag) : Prop where
  name : Qualified tag.name
  attributes : ∀ a ∈ tag.attributes, Worded a.name ∧ Legal a.value

theorem gives_scanQualified (t : Text) : Gives (scanQualified t) fun r => Qualified r.1 :=
  fun _ h => (scanQualified_eq_ok h).1

theorem gives_scanValue (quote : Char) (t : Text) : Gives (scanValue quote t) fun r => Legal r.1 := by
  induction t with
  | nil => exact gives_error _
  | cons c cs ih =>
      have hcheck : Gives (checkChar (c :: cs) >>= fun _ => scanValue quote cs >>= fun r =>
          .ok (c :: r.1, r.2)) fun r => Legal r.1 := by
        refine (gives_checkChar c cs).bind fun _ hc => ih.bind fun r hvalue => ?_
        exact gives_ok (legal_cons.mpr ⟨hc, hvalue⟩)
      unfold scanValue
      split
      · exact gives_ok legal_nil
      · dsimp only
        split
        · exact gives_error _
        · split
          · exact (gives_true _).bind fun _ _ => hcheck
          · exact hcheck

theorem gives_scanAttribute (t : Text) :
    Gives (scanAttribute t) fun r => Worded r.1.name ∧ Legal r.1.value := by
  refine (gives_scanQualified t).bind ?_
  rintro ⟨name, rest⟩ hname
  refine (gives_true _).bind fun rest' _ => ?_
  split
  · refine (gives_scanValue _ _).bind ?_
    rintro ⟨value, after⟩ hvalue
    exact gives_ok ⟨hname.worded, hvalue⟩
  · refine (gives_scanValue _ _).bind ?_
    rintro ⟨value, after⟩ hvalue
    exact gives_ok ⟨hname.worded, hvalue⟩
  · exact gives_error _

theorem gives_scanAttributes (refuse : Text → Stop) (count : Nat) (t : Text) :
    Gives (scanAttributes refuse count t) fun r => ∀ a ∈ r.1.1, Worded a.name ∧ Legal a.value := by
  induction count generalizing refuse t with
  | zero => exact gives_error _
  | succ count ih =>
      have hending : ∀ ending : Except Stop (Bool × Text), Gives (ending >>= fun r =>
          .ok (([], r.1), r.2)) fun r : (List RawAttribute × Bool) × Text =>
            ∀ a ∈ r.1.1, Worded a.name ∧ Legal a.value :=
        fun _ => (gives_true _).bind fun _ _ => gives_ok (by simp)
      unfold scanAttributes
      split
      · exact hending _
      · split
        · exact gives_error _
        · next c cs =>
            dsimp only
            split
            · exact gives_error _
            · split
              · exact hending _
              · refine (gives_scanAttribute _).bind ?_
                rintro ⟨first, rest⟩ hfirst
                refine (ih _ rest).bind ?_
                rintro ⟨⟨attributes, closed⟩, rest'⟩ hothers
                exact gives_ok (List.forall_mem_cons.mpr ⟨hfirst, hothers⟩)

theorem gives_scanOpening (t : Text) : Gives (scanOpening t) fun r => r.1.Lawful := by
  refine (gives_scanQualified t).bind ?_
  rintro ⟨name, rest⟩ hname
  refine (gives_scanAttributes _ _ rest).bind ?_
  rintro ⟨⟨attributes, closed⟩, rest'⟩ hattributes
  exact gives_ok ⟨hname, hattributes⟩

/-! ## Tokens -/

/-- A token whose characters may stand in a document. -/
def Token.Lawful : Token → Prop
  | .opening tag => tag.Lawful
  | .character c => isXmlChar c = true
  | .reference r => r.Lawful
  | .characters t => Legal t
  | _ => True

theorem gives_scanSection (t : Text) : Gives (scanSection t) fun r => Legal r.1 := by
  fun_induction scanSection t with
  | case1 => exact gives_error _
  | case2 => exact gives_ok legal_nil
  | case3 => exact gives_error _
  | case4 => exact gives_error _
  | case5 => exact gives_error _
  | case6 c cs _ _ _ _ hc ih => exact ih.map fun r hr => legal_cons.mpr ⟨hc, hr⟩
  | case7 => exact gives_error _

theorem gives_scanMarkup (start t : Text) : Gives (scanMarkup start t) fun r => r.1.Lawful := by
  unfold scanMarkup
  dsimp only
  split
  · exact (gives_true _).map fun _ _ => trivial
  · refine (gives_true _).map ?_
    rintro ⟨⟨target, body⟩, rest⟩ -
    dsimp only
    split <;> trivial
  · exact (gives_true _).map fun _ _ => trivial
  · refine (gives_true _).bind fun _ _ => (gives_scanSection _).bind ?_
    rintro ⟨body, rest⟩ hbody
    exact gives_ok hbody
  · exact gives_error _
  · exact ((gives_scanOpening t).mapError _).map fun _ h => h

theorem gives_scanToken (t : Text) : Gives (scanToken t) fun r => ∀ p ∈ r, p.1.Lawful := by
  unfold scanToken
  split
  · exact gives_ok (by simp)
  · exact (gives_scanMarkup _ _).map fun p hp q hq => Option.some.inj hq ▸ hp
  · exact ((gives_scanReference _).mapError _).map fun r hr q hq => Option.some.inj hq ▸ hr.1
  · exact gives_error _
  · exact ((gives_checkChar _ _).mapError _).map fun _ hc q hq => Option.some.inj hq ▸ hc

end SourceAtlas.Xml
