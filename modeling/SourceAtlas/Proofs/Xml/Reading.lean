import SourceAtlas.Proofs.Xml.Naming
import SourceAtlas.Xml.Reader

/-!
# Elements of any document

Whatever bytes are read as a document, a tag can be given to each of its elements, and their values
and texts are legal.  The reader keeps this of all that it has built, token by token, also in the
text of entities.
-/

namespace SourceAtlas.Xml

open Text

namespace Element

/-- An element is as it is read, and so are all elements in it. -/
def Sound (e : Element) : Prop := ∀ x ∈ e.elements, x.Lawful

theorem sound_iff {e : Element} : e.Sound ↔ e.Lawful ∧ ∀ c ∈ e.children, c.Sound :=
  forall_mem_elements_iff

/-- Other legal texts around other children leave an element as it is read. -/
theorem Lawful.congr {e e' : Element} (h : e.Lawful) (hname : e'.name = e.name)
    (hattributes : e'.attributes = e.attributes) (htext : Legal e'.text) (htail : Legal e'.tail) :
    e'.Lawful :=
  ⟨h.toNamed.congr hname hattributes, hattributes ▸ h.values, htext, htail⟩

theorem Sound.addText {e : Element} (h : e.Sound) {t : Text} (ht : Legal t) : (e.addText t).Sound := by
  obtain ⟨he, hchildren⟩ := sound_iff.mp h
  unfold Element.addText
  split
  · exact sound_iff.mpr ⟨he.congr rfl rfl (legal_append.mpr ⟨he.text, ht⟩) he.tail, hchildren⟩
  · next last before heq =>
      have hmem : ∀ c ∈ last :: before, c.Sound := fun c hc =>
        hchildren c (List.mem_reverse.mp (heq ▸ hc))
      obtain ⟨hlast, hbefore⟩ := List.forall_mem_cons.mp hmem
      obtain ⟨hlast', hinside⟩ := sound_iff.mp hlast
      have hmore : ({ last with tail := last.tail ++ t } : Element).Sound :=
        sound_iff.mpr ⟨hlast'.congr rfl rfl hlast'.text (legal_append.mpr ⟨hlast'.tail, ht⟩), hinside⟩
      apply sound_iff.mpr
      constructor
      · exact he.congr rfl rfl he.text he.tail
      · intro c hc
        rcases List.mem_cons.mp (List.mem_reverse.mp hc) with rfl | hc
        · exact hmore
        · exact hbefore c hc

theorem Sound.addChild {e c : Element} (h : e.Sound) (hc : c.Sound) :
    ({ e with children := e.children ++ [c] } : Element).Sound := by
  obtain ⟨he, hchildren⟩ := sound_iff.mp h
  apply sound_iff.mpr
  constructor
  · exact he.congr rfl rfl he.text he.tail
  · intro x hx
    rcases List.mem_append.mp hx with hx | hx
    · exact hchildren x hx
    · obtain rfl := List.mem_singleton.mp hx
      exact hc

end Element

/-! ## What is built -/

/-- An open element is as it is read. -/
structure Frame.Sound (f : Frame) : Prop where
  scope : f.scope.Lawful
  element : f.element.Sound

/-- All that was built is as it is read. -/
structure Building.Sound (b : Building) : Prop where
  pending : Legal b.pending
  frames : ∀ f ∈ b.frames, f.Sound
  root : ∀ e ∈ b.root, e.Sound

namespace Building.Sound

variable {b : Building} (h : b.Sound)

theorem start : Building.Sound {} := ⟨legal_nil, by simp, by simp⟩

include h

theorem of_frames {f : Frame} {fs : List Frame} (hframes : b.frames = f :: fs) :
    f.Sound ∧ ∀ g ∈ fs, g.Sound :=
  List.forall_mem_cons.mp (hframes ▸ h.frames)

theorem push {c : Char} (hc : isXmlChar c = true) : (b.push c).Sound :=
  ⟨legal_cons.mpr ⟨hc, h.pending⟩, h.frames, h.root⟩

theorem pushAll {t : Text} (ht : Legal t) : (t.foldl Building.push b).Sound := by
  induction t generalizing b with
  | nil => exact h
  | cons c cs ih =>
      obtain ⟨hc, hcs⟩ := legal_cons.mp ht
      exact ih (h.push hc) hcs

theorem flush : b.flush.Sound := by
  unfold Building.flush
  split
  · exact h
  · exact h
  · next hframes _ =>
      obtain ⟨hf, hfs⟩ := h.of_frames hframes
      exact ⟨legal_nil, List.forall_mem_cons.mpr
        ⟨⟨hf.scope, hf.element.addText (legal_reverse.mpr h.pending)⟩, hfs⟩, h.root⟩

theorem scope : b.scope.Lawful := by
  unfold Building.scope
  split
  · exact Scope.lawful_outermost
  · next hframes => exact (h.of_frames hframes).1.scope

theorem place {e : Element} (he : e.Sound) : (b.place e).Sound := by
  unfold Building.place
  split
  · exact ⟨h.pending, h.frames, fun e' he' => Option.some.inj he' ▸ he⟩
  · next hframes =>
      obtain ⟨hf, hfs⟩ := h.of_frames hframes
      exact ⟨h.pending, List.forall_mem_cons.mpr ⟨⟨hf.scope, hf.element.addChild he⟩, hfs⟩, h.root⟩

theorem openElement (raw : Text) (closed : Bool) {e : Element} (he : e.Sound) {s : Scope}
    (hs : s.Lawful) : (b.openElement raw closed e s).Sound := by
  unfold Building.openElement
  dsimp only
  split
  · exact h.flush.place he
  · exact ⟨h.flush.pending, List.forall_mem_cons.mpr ⟨⟨hs, he⟩, h.flush.frames⟩, h.flush.root⟩

theorem closeElement : b.closeElement.Sound := by
  unfold Building.closeElement
  dsimp only
  split
  · exact h.flush
  · next f fs hframes =>
      obtain ⟨hf, hfs⟩ := h.flush.of_frames hframes
      have hrest : Building.Sound { b.flush with frames := fs } :=
        ⟨h.flush.pending, hfs, h.flush.root⟩
      exact hrest.place hf.element

end Building.Sound

/-! ## Reading content -/

section Content

variable {d : Dtd} (hd : d.Lawful)
  {nested : Text → Text → Building → Except Complaint Building}
  (hnested : ∀ name body b, b.Sound → Gives (nested name body b) Building.Sound)

include hnested in
theorem gives_readReference {b : Building} (hb : b.Sound) (start : Text) {r : Reference}
    (hr : r.Lawful) : Gives (readReference d nested b start r) Building.Sound := by
  unfold readReference
  split
  · exact gives_error _
  · exact gives_ok (hb.push (hr _ rfl))
  · split
    · next hc => exact gives_ok (hb.push (isXmlChar_of_predefined? hc))
    · exact gives_error _
    · exact gives_error _
    · exact gives_error _
    · exact (hnested _ _ _ hb).mapError _

include hd hnested

/-- A token keeps what was built as it is read. -/
theorem gives_takeToken (base : Nat) {b : Building} (hb : b.Sound) (start : Text) {token : Token}
    (htoken : token.Lawful) : Gives (takeToken d nested base b start token) Building.Sound := by
  cases token with
  | opening tag =>
      refine (gives_resolveTag hd hb.scope start htoken).bind ?_
      rintro ⟨e, s⟩ ⟨he, hchildren, hs⟩
      refine gives_ok (hb.openElement tag.name tag.closed (Element.sound_iff.mpr ⟨he, ?_⟩) hs)
      rw [hchildren]
      simp
  | closing name =>
      unfold takeToken
      dsimp only
      split
      · exact gives_error _
      · split
        · exact gives_error _
        · split
          · exact gives_ok hb.closeElement
          · exact gives_error _
  | character c => exact gives_ok (hb.push htoken)
  | characters t => exact gives_ok (hb.pushAll htoken)
  | reference r => exact gives_readReference hnested hb start htoken
  | skipped => exact gives_ok hb
  | declaration => exact gives_error _

/-- Any number of tokens keep what was built as it is read. -/
theorem gives_readTokens (base count : Nat) {b : Building} (hb : b.Sound) (t : Text) :
    Gives (readTokens d nested base count b t) fun r => r.1.Sound := by
  induction count generalizing b t with
  | zero => exact gives_ok hb
  | succ count ih =>
      unfold readTokens
      dsimp only
      split
      · exact gives_error _
      · refine (gives_scanToken t).bind fun taken htaken => ?_
        split
        · split
          · exact gives_error _
          · split
            · exact gives_ok hb
            · exact gives_error _
        · next token rest =>
            refine (gives_takeToken hd hnested base hb t (htaken _ rfl)).bind fun b' hb' => ?_
            split
            · exact gives_ok hb'
            · exact ih hb' rest

end Content

section Documents

variable {d : Dtd} (hd : d.Lawful)

include hd

theorem gives_readNested (depth : Nat) (opened : List Text) {b : Building} (hb : b.Sound) (t : Text) :
    Gives (readNested d depth opened b t) fun r => r.1.Sound := by
  induction depth generalizing opened b t with
  | zero => exact gives_readTokens hd (fun _ _ _ _ => gives_error _) _ _ hb t
  | succ depth ih =>
      refine gives_readTokens hd ?_ _ _ hb t
      intro name body b' hb'
      split
      · exact gives_error _
      · exact (ih _ hb' body).map fun _ h => h

/-- The document element is as it is read. -/
theorem gives_readElement (t : Text) : Gives (readElement d t) fun r => r.1.Sound := by
  refine (gives_readNested hd _ _ .start t).bind ?_
  rintro ⟨b, rest⟩ hb
  dsimp only
  split
  · next hroot => exact gives_ok (hb.root _ hroot)
  · exact gives_error _

omit hd in
theorem gives_readProlog (count : Nat) (typed : Bool) {d : Dtd} (hd : d.Lawful) (t : Text) :
    Gives (readProlog count typed d t) fun r => r.1.Lawful := by
  induction count generalizing typed d t with
  | zero => exact gives_error _
  | succ count ih =>
      refine (gives_true _).bind fun m _ => ?_
      split
      · exact ih typed hd _
      · exact ih typed hd _
      · exact gives_ok hd
      · split
        · exact (gives_readDoctype hd _).bind fun r hr => ih true hr _
        · exact gives_error _
      · exact gives_error _

theorem gives_readBody (t : Decoded) : Gives (readBody d t) Element.Sound := by
  unfold readBody
  dsimp only
  refine Gives.mapError ((gives_readProlog _ _ hd _).bind ?_) _
  rintro ⟨d', rest⟩ hd'
  refine (gives_readElement hd' rest).bind ?_
  rintro ⟨e, rest'⟩ he
  exact (gives_true _).bind fun _ _ => gives_ok he

end Documents

theorem gives_readIn (e : Encoding) (bytes : Bytes) (markLength : Nat) :
    Gives (readIn e bytes markLength) Element.Sound := by
  unfold readIn
  dsimp only
  split
  · exact (gives_readBody (.empty false) _).mapError _
  · split
    · exact gives_error _
    · next declaration _ =>
        have hd : Dtd.Lawful { standalone := declaration.standalone } := .empty _
        split
        · exact (gives_readBody hd _).mapError _
        · split
          · exact gives_error _
          · exact gives_error _
          · exact gives_error _
          · exact (gives_readBody hd _).mapError _

/-- Whatever bytes are read as a document, each of its elements can be given a tag, and its values and
texts are legal. -/
theorem lawful_of_read {bytes : Bytes} {root : Element} (h : read bytes = .ok root) :
    ∀ x ∈ root.elements, x.Lawful := by
  have hgives : Gives (read bytes) Element.Sound := by
    unfold read
    split
    · exact gives_error _
    · exact gives_error _
    · exact gives_readIn _ _ _
  exact hgives root h

end SourceAtlas.Xml
