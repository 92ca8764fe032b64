import SourceAtlas.Proofs.Xml.Declared
import SourceAtlas.Xml.Doctype

/-!
# What a document type declares

Every mark of a prolog holds legal characters, since its scanner checks them.  So whatever a document
type declares, its entities stand for legal text and its attributes may be used.
-/

namespace SourceAtlas.Xml

open Text

/-! ## Marks -/

/-- A mark holds a legal literal, or a name that begins as a name does. -/
def Mark.Lawful : Mark → Prop
  | .literal body => Legal body
  | .name t | .qualified t => Worded t
  | _ => True

theorem gives_checkChar (c : Char) (cs : Text) :
    Gives (checkChar (c :: cs)) fun _ => isXmlChar c = true := by
  intro _ h
  rw [checkChar] at h
  split at h
  · assumption
  · exact absurd h (by simp)

theorem gives_scanQuoted (quote : Char) (t : Text) :
    Gives (scanLiteral.scanQuoted quote t) fun r => Legal r.1 := by
  induction t with
  | nil => exact gives_error _
  | cons c cs ih =>
      unfold scanLiteral.scanQuoted
      split
      · exact gives_ok legal_nil
      · refine (gives_checkChar c cs).bind fun _ hc => ih.bind ?_
        rintro ⟨body, rest⟩ hbody
        exact gives_ok (legal_cons.mpr ⟨hc, hbody⟩)

theorem gives_scanLiteral (quote : Char) (t : Text) :
    Gives (scanLiteral quote t) fun r => r.1.Lawful := by
  refine (gives_scanQuoted quote t).bind ?_
  rintro ⟨body, rest⟩ hbody
  dsimp only at hbody ⊢
  split
  · exact gives_ok hbody
  · split
    · exact gives_ok hbody
    · exact gives_error _

theorem NameKind.lawful_mark {kind : NameKind} {word : Text} (h : Worded word) :
    (kind.mark word).Lawful := by
  cases kind with
  | plain => exact h
  | qualified => exact h
  | token => trivial

/-- A word that begins as a name does is a raw name. -/
theorem worded_takeWhile {c : Char} (hc : isNameStart c = true) (cs : Text) :
    Worded ((c :: cs).takeWhile isWordChar) := by
  have hword : isWordChar c = true := by simp [isWordChar, isNameChar_of_isNameStart hc]
  constructor
  · exact ⟨c, cs.takeWhile isWordChar, by simp [hword], hc⟩
  · exact fun d hd => List.all_eq_true.mp List.all_takeWhile d hd

theorem gives_scanWord {kind : NameKind} {t : Text}
    (h : kind = .token ∨ Worded (t.takeWhile isWordChar)) :
    Gives (scanWord kind t) fun r => r.1.Lawful := by
  have hmark : ((if kind = .token then kind else .ofWord (t.takeWhile isWordChar)).mark
      (t.takeWhile isWordChar)).Lawful := by
    rcases h with rfl | h
    · trivial
    · exact NameKind.lawful_mark h
  unfold scanWord
  dsimp only
  generalize (if kind = .token then kind else .ofWord (t.takeWhile isWordChar)) = kind' at hmark ⊢
  split
  · split
    · exact gives_error _
    · exact gives_ok hmark
  · split
    · exact gives_ok hmark
    · split
      · split
        · exact gives_error _
        · exact gives_ok trivial
      · exact gives_error _

section Others

variable (t : Text)

theorem gives_scanDeclaration : Gives (scanDeclaration t) fun r => r.1.Lawful := by
  unfold scanDeclaration
  split
  · exact (gives_true _).map fun _ _ => trivial
  · exact gives_ok trivial
  · split
    · dsimp only
      split
      · exact gives_error _
      · split
        · exact gives_error _
        · split
          · exact gives_error _
          · exact gives_ok trivial
      · split
        · exact gives_ok trivial
        · exact gives_error _
    · exact gives_error _
  · exact gives_error _

theorem gives_scanPercent : Gives (scanPercent t) fun r => r.1.Lawful := by
  unfold scanPercent
  split
  · split
    · exact gives_ok trivial
    · refine (gives_true _).bind fun r _ => ?_
      obtain ⟨name, rest⟩ := r
      dsimp only
      split
      · exact gives_ok trivial
      · exact gives_error _
  · exact gives_error _

theorem gives_scanPound : Gives (scanPound t) fun r => r.1.Lawful := by
  refine (gives_true _).bind fun r _ => ?_
  obtain ⟨name, rest⟩ := r
  dsimp only
  split
  · exact gives_ok trivial
  · split
    · exact gives_ok trivial
    · exact gives_error _

theorem gives_scanParenClose : Gives (scanParenClose t) fun r => r.1.Lawful := by
  unfold scanParenClose
  split
  · exact gives_ok trivial
  · split
    · exact gives_ok trivial
    · split
      · exact gives_ok trivial
      · exact gives_error _

theorem gives_scanBracketClose : Gives (scanBracketClose t) fun r => r.1.Lawful := by
  unfold scanBracketClose
  split
  · exact gives_error _
  · exact gives_ok trivial
  · exact gives_ok trivial

theorem gives_scanMark : Gives (scanMark t) fun r => r.1.Lawful := by
  unfold scanMark
  split
  · exact gives_error _
  · exact gives_scanLiteral _ _
  · exact gives_scanLiteral _ _
  · exact gives_scanDeclaration _
  · refine (gives_true _).map ?_
    rintro ⟨⟨target, body⟩, rest⟩ -
    dsimp only
    split <;> trivial
  · exact gives_error _
  · split
    · exact gives_ok trivial
    · exact gives_error _
  · exact gives_scanPercent _
  · exact gives_ok trivial
  · exact gives_ok trivial
  · exact gives_scanBracketClose _
  · exact gives_ok trivial
  · exact gives_scanParenClose _
  · exact gives_ok trivial
  · exact gives_ok trivial
  · exact gives_scanPound _
  · split
    · next hc => exact gives_scanWord (.inr (worded_takeWhile hc _))
    · split
      · exact gives_scanWord (.inl rfl)
      · exact gives_error _

theorem gives_nextMark : Gives (nextMark t) fun m => m.mark.Lawful := by
  unfold nextMark
  dsimp only
  split
  · exact gives_error _
  · split
    · next heq => exact gives_ok (gives_scanMark _ _ heq)
    · exact gives_error _

theorem gives_expectLiteral : Gives (expectLiteral t) fun r => Legal r.1.body := by
  refine (gives_nextMark t).bind fun m hm => ?_
  split
  · next heq =>
      rw [heq] at hm
      exact gives_ok hm
  · exact gives_error _

end Others

/-! ## Entities -/

section Declarations

variable {d : Dtd} (hd : d.Lawful)

theorem gives_entityBody {l : Literal} (hl : Legal l.body) : Gives (entityBody d l) Legal := by
  unfold entityBody
  split
  · exact (gives_entityText _ hl).mapError _
  · exact gives_ok legal_nil

include hd

theorem gives_readParameterEntity (t : Text) :
    Gives (readParameterEntity d t) fun r => r.1.Lawful := by
  refine (gives_nextMark t).bind fun m _ => ?_
  split
  · exact (gives_true _).bind fun _ _ => (gives_true _).bind fun _ _ => gives_ok hd
  · exact (gives_true _).bind fun _ _ => (gives_true _).bind fun _ _ => gives_ok hd

theorem gives_readGeneralEntity (name t : Text) :
    Gives (readGeneralEntity d name t) fun r => r.1.Lawful := by
  refine (gives_nextMark t).bind fun m hm => ?_
  split
  · next heq =>
      rw [heq] at hm
      refine (gives_entityBody (l := ⟨_, m.start⟩) hm).bind fun text htext => (gives_true _).bind fun _ _ => gives_ok ?_
      refine hd.declareEntity ?_ name
      rintro t ⟨⟩
      exact htext
  · refine (gives_true _).bind fun rest _ => (gives_true _).bind fun m' _ => ?_
    split
    · exact gives_ok (hd.declareEntity (by simp) name)
    · split
      · exact (gives_true _).bind fun _ _ => (gives_true _).bind fun _ _ =>
          gives_ok (hd.declareEntity (by simp) name)
      · exact gives_error _

theorem gives_readEntity (t : Text) : Gives (readEntity d t) fun r => r.1.Lawful := by
  refine (gives_nextMark t).bind fun m _ => ?_
  split
  · exact (gives_true _).bind fun _ _ => gives_readParameterEntity hd _
  · exact gives_readGeneralEntity hd _ _
  · exact gives_error _

/-! ## Attributes -/

theorem gives_defaultValue (plain : Bool) {l : Literal} (hl : Legal l.body) :
    Gives (defaultValue d plain l) Legal := by
  unfold defaultValue
  split
  · exact (gives_normalize hd plain hl).mapError _
  · exact gives_ok legal_nil

theorem gives_readDefault (plain : Bool) (t : Text) :
    Gives (readDefault d plain t) fun r => ∀ v ∈ r.1, Legal v := by
  refine (gives_nextMark t).bind fun m hm => ?_
  split
  · split
    · exact gives_ok (by simp)
    · split
      · refine (gives_expectLiteral _).bind fun l hl => ?_
        exact (gives_defaultValue hd plain hl).bind fun v hv => gives_ok (by simpa using hv)
      · exact gives_error _
  · next heq =>
      rw [heq] at hm
      exact (gives_defaultValue hd plain (l := ⟨_, m.start⟩) hm).bind fun v hv =>
        gives_ok (by simpa using hv)
  · exact gives_error _

omit hd in
theorem gives_readAttributes (element : Text) (count : Nat) {d : Dtd} (hd : d.Lawful) (t : Text) :
    Gives (readAttributes element count d t) fun r => r.1.Lawful := by
  induction count generalizing d t with
  | zero => exact gives_error _
  | succ count ih =>
      have hattribute : ∀ (m : Marked) (n : Text), Worded n → Gives (
          readAttributeType m.rest >>= fun r => readDefault d r.1 r.2 >>= fun r' =>
            readAttributes element count (d.declareAttribute ⟨element, n, r.1, r'.1⟩) r'.2)
          fun r => r.1.Lawful := by
        intro m n hn
        refine (gives_true _).bind fun r _ => ?_
        refine (gives_readDefault hd r.1 r.2).bind fun r' hdefault => ?_
        exact ih (hd.declareAttribute hn hdefault) r'.2
      refine (gives_nextMark t).bind fun m hm => ?_
      split
      · exact gives_ok hd
      · next heq =>
          rw [heq] at hm
          exact hattribute m _ hm
      · next heq =>
          rw [heq] at hm
          exact hattribute m _ hm
      · exact gives_error _

theorem gives_readAttributeList (t : Text) :
    Gives (readAttributeList d t) fun r => r.1.Lawful :=
  (gives_true _).bind fun _ _ => gives_readAttributes _ _ hd _

/-! ## The whole declaration -/

omit hd in
theorem gives_readSubset (count : Nat) {d : Dtd} (hd : d.Lawful) (t : Text) :
    Gives (readSubset count d t) fun r => r.1.Lawful := by
  induction count generalizing d t with
  | zero => exact gives_error _
  | succ count ih =>
      refine (gives_nextMark t).bind fun m _ => ?_
      split
      · exact gives_ok hd
      · exact ih hd _
      · exact ih hd _
      · exact ih (show d.noteUnread.Lawful from hd.of_eq rfl rfl) _
      · split
        · exact (gives_readEntity hd _).bind fun r hr => ih hr _
        · split
          · exact (gives_readAttributeList hd _).bind fun r hr => ih hr _
          · split
            · exact (gives_true _).bind fun _ _ => ih hd _
            · split
              · exact (gives_true _).bind fun _ _ => ih hd _
              · exact gives_error _
      · exact gives_error _

theorem gives_readBrackets (t : Text) : Gives (readBrackets d t) fun r => r.1.Lawful :=
  (gives_readSubset _ hd t).bind fun _ hr => (gives_true _).bind fun _ _ => gives_ok hr

/-- What a document type declares may be used. -/
theorem gives_readDoctype (t : Text) : Gives (readDoctype d t) fun r => r.1.Lawful := by
  have hunread : ({ d with hasUnread := true } : Dtd).Lawful := hd.of_eq rfl rfl
  refine (gives_true _).bind fun _ _ => (gives_true _).bind fun m _ => ?_
  split
  · exact gives_readBrackets hd _
  · exact gives_ok hd
  · refine (gives_true _).bind fun _ _ => (gives_true _).bind fun m' _ => ?_
    split
    · exact gives_readBrackets hunread _
    · exact gives_ok hunread
    · exact gives_error _

end Declarations

end SourceAtlas.Xml
