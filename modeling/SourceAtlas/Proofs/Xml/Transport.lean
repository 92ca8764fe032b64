import SourceAtlas.Proofs.Xml.Prefixes

/-!
# What a reader sees of a written document

Between writing and reading, a code point that is no character becomes a mark, and line ends in texts
become uniform; a line end in an attribute value is a reference and stays.  So the reader sees a
written document again: that of the element with its characters and line ends so changed.
-/

namespace SourceAtlas.Xml

open Text

/-- What a reader sees of a written text, whatever follows it. -/
def SeenAs (s s' : Text) : Prop :=
  ∀ rest, normalizeLines (s.map readBack ++ rest) = s' ++ normalizeLines rest

theorem seenAs_self {s : Text} (hs : Legal s) (hline : '\r' ∉ s) : SeenAs s s := by
  intro rest
  rw [map_readBack_eq_self hs, normalizeLines_append hline]

theorem SeenAs.append {s s' t t' : Text} (hs : SeenAs s s') (ht : SeenAs t t') :
    SeenAs (s ++ t) (s' ++ t') := by
  intro rest
  rw [List.map_append, List.append_assoc, hs, ht, List.append_assoc]

/-! ## Escaped characters -/

theorem readBack_cases (c : Char) : readBack c = c ∨ readBack c = malformed := by
  rw [readBack_eq]
  split
  · exact .inr rfl
  · exact .inl rfl

theorem map_readBack_writtenInText (c : Char) :
    (writtenInText c).map readBack = writtenInText (readBack c) := by
  unfold writtenInText
  split
  · rfl
  · rfl
  · rfl
  · next h₁ h₂ h₃ =>
      rcases readBack_cases c with heq | heq
      · rw [heq]
        split <;> simp_all
      · rw [List.map_cons, List.map_nil, heq]
        rfl

theorem map_readBack_writtenInValue (c : Char) :
    (writtenInValue c).map readBack = writtenInValue (readBack c) := by
  unfold writtenInValue
  split
  · rfl
  · rfl
  · rfl
  · rfl
  · next h₁ h₂ h₃ h₄ =>
      rw [map_readBack_writtenInText]
      rcases readBack_cases c with heq | heq
      · rw [heq]
        split <;> simp_all
      · rw [heq]
        rfl

theorem map_readBack_escapeText (t : Text) :
    (escapeText t).map readBack = escapeText (t.map readBack) := by
  rw [escapeText, escapeText, List.map_flatMap, List.flatMap_map]
  congr 1
  exact funext map_readBack_writtenInText

theorem map_readBack_escapeValue (t : Text) :
    (escapeValue t).map readBack = escapeValue (t.map readBack) := by
  rw [escapeValue, escapeValue, List.map_flatMap, List.flatMap_map]
  congr 1
  exact funext map_readBack_writtenInValue

theorem not_mem_escapeValue (v : Text) : '\r' ∉ escapeValue v := by
  intro h
  obtain ⟨c, -, hc⟩ := List.mem_flatMap.mp h
  rcases writtenInValue_cases c with ⟨heq, hmem⟩ | ⟨body, r, heq, hbody⟩
  · rw [heq, List.mem_singleton] at hc
    subst hc
    exact absurd hmem (by decide)
  · rw [heq, List.mem_cons] at hc
    rcases hc with hc | hc
    · exact absurd hc (by decide)
    · exact absurd (List.all_eq_true.mp hbody.bare _ hc) (by decide)

/-! ## Line ends in text -/

theorem unifyLines_append {s : Text} (h : '\r' ∉ s) (t : Text) :
    unifyLines (s ++ t) = s ++ unifyLines t := by
  induction s with
  | nil => rfl
  | cons c cs ih =>
      simp only [List.mem_cons, not_or] at h
      have hc : c ≠ '\r' := Ne.symm h.1
      simp [unifyLines, hc, ih h.2]

theorem writtenInText_lineEnds (c : Char) :
    (writtenInText c = [c] ∧ c ≠ '&') ∨ ('\r' ∉ writtenInText c ∧ c ≠ '\r' ∧
      ∃ body, writtenInText c = '&' :: body) := by
  rcases writtenInText_cases c with ⟨heq, hmem⟩ | ⟨body, r, heq, hbody⟩
  · exact .inl ⟨heq, fun h => hmem (by simp [h])⟩
  · right
    refine ⟨?_, ?_, body, heq⟩
    · rw [heq, List.mem_cons]
      rintro (h | h)
      · exact absurd h (by decide)
      · exact absurd (List.all_eq_true.mp hbody.bare _ h) (by decide)
    · rintro rfl
      have hself : writtenInText '\r' = ['\r'] := rfl
      rw [hself] at heq
      exact absurd (List.cons.inj heq).1 (by decide)

/-- Uniform line ends are the same before and after a text is escaped. -/
theorem unifyLines_escapeText (t : Text) :
    unifyLines (escapeText t) = escapeText (unifyLines t) := by
  fun_induction unifyLines t with
  | case1 => rfl
  | case2 cs ih =>
      have hescape : escapeText ('\r' :: '\n' :: cs) = '\r' :: '\n' :: escapeText cs := rfl
      rw [hescape, unifyLines, ih]
      rfl
  | case3 c cs hline ih =>
      rw [escapeText_cons, escapeText_cons, ← ih]
      rcases writtenInText_lineEnds c with ⟨heq, hne⟩ | ⟨hmem, hne, -⟩
      · have hnext : ∀ more, escapeText cs = '\n' :: more → c ≠ '\r' := by
          intro more hmore hc
          cases cs with
          | nil => exact absurd hmore (by simp [escapeText])
          | cons e es =>
              rw [escapeText_cons] at hmore
              rcases writtenInText_lineEnds e with ⟨he, -⟩ | ⟨-, -, body, he⟩
              · rw [he] at hmore
                exact hline es hc (by rw [(List.cons.inj hmore).1])
              · rw [he] at hmore
                exact absurd (List.cons.inj hmore).1 (by decide)
        rw [heq]
        by_cases hc : c = '\r'
        · subst hc
          cases hcs : escapeText cs with
          | nil => rfl
          | cons e es =>
              have hen : e ≠ '\n' := fun h => hnext es (by rw [hcs, h]) rfl
              rw [List.singleton_append, unifyLines]
              · rfl
              · intro es' _ h
                exact hen (List.cons.inj h).1
        · rw [if_neg hc, heq, unifyLines_append (by simpa using Ne.symm hc)]
      · rw [if_neg hne, unifyLines_append hmem]

/-- A text as a reader sees it. -/
def seenText (t : Text) : Text := unifyLines (t.map readBack)

/-- Text is seen in front of markup. -/
theorem seenAs_text (t : Text) {u u' : Text} (hu : SeenAs ('<' :: u) u') :
    SeenAs (escapeText t ++ '<' :: u) (escapeText (seenText t) ++ u') := by
  intro rest
  have hmarkup : ('<' :: u).map readBack ++ rest = '<' :: (u.map readBack ++ rest) := rfl
  rw [List.map_append, map_readBack_escapeText, List.append_assoc, hmarkup,
    normalizeLines_append_cons _ (by decide), ← hmarkup, hu rest, unifyLines_escapeText, seenText,
    List.append_assoc]

theorem seenAs_value (v : Text) : SeenAs (escapeValue v) (escapeValue (v.map readBack)) := by
  intro rest
  rw [map_readBack_escapeValue, normalizeLines_append (not_mem_escapeValue _)]

/-! ## Elements -/

mutual

/-- An element as a reader sees it. -/
def Element.seen : Element → Element
  | ⟨name, attributes, text, children, tail⟩ =>
    ⟨name, attributes.map fun a => (a.1, a.2.map readBack), seenText text, seenAll children,
      seenText tail⟩

/-- Elements as a reader sees them. -/
def Element.seenAll : List Element → List Element
  | [] => []
  | e :: es => e.seen :: seenAll es

end

theorem Element.seenAll_eq (es : List Element) : seenAll es = es.map seen := by
  induction es with
  | nil => rfl
  | cons e es ih => rw [seenAll, ih, List.map_cons]

section Seen

variable (e : Element)

@[simp] theorem Element.seen_name : e.seen.name = e.name := by
  cases e
  rfl

@[simp] theorem Element.seen_attributes :
    e.seen.attributes = e.attributes.map fun a => (a.1, a.2.map readBack) := by
  cases e
  rfl

@[simp] theorem Element.seen_text : e.seen.text = seenText e.text := by
  cases e
  rfl

@[simp] theorem Element.seen_tail : e.seen.tail = seenText e.tail := by
  cases e
  rfl

@[simp] theorem Element.seen_children : e.seen.children = e.children.map seen := by
  cases e
  exact seenAll_eq _

end Seen

/-- The elements of a document are seen one by one. -/
theorem Element.elements_seen (e : Element) : e.seen.elements = e.elements.map seen := by
  induction e using Element.induction with
  | step e ih =>
      rw [elements_eq, elements_eq e, List.map_cons, seen_children, List.flatMap_map, List.map_flatMap]
      rw [List.flatMap_def, List.flatMap_def, List.map_congr_left ih]

theorem seenText_eq_nil_iff {t : Text} : seenText t = [] ↔ t = [] := by
  constructor
  · intro h
    cases t with
    | nil => rfl
    | cons c cs =>
        rw [seenText, List.map_cons] at h
        unfold unifyLines at h
        split at h
        · next hnil => exact absurd hnil (by simp)
        · simp at h
        · simp at h
  · rintro rfl
    rfl

variable {p : Prefixes}

/-- Raw names that a reader sees as they are written. -/
def Element.PlainlyNamed (p : Prefixes) (e : Element) : Prop :=
  ∀ n ∈ e.ownNames, ∀ c ∈ p.written n, isClosingNameChar c = true

theorem seenAs_rawName {raw : Text} (h : ∀ c ∈ raw, isClosingNameChar c = true) :
    SeenAs raw raw := by
  have hchar : ∀ c ∈ raw, isXmlChar c = true ∧ c ≠ '\r' := by
    intro c hc
    have := h c hc
    simp only [isClosingNameChar, Bool.or_eq_true, beq_iff_eq] at this
    rcases this with hname | rfl
    · exact ⟨isXmlChar_of_isNameChar hname, ne_of_isNameChar hname '\r' (by decide)⟩
    · exact ⟨by decide, by decide⟩
  exact seenAs_self (fun c hc => (hchar c hc).1) fun hmem => (hchar _ hmem).2 rfl

theorem seenAs_attributes {pairs : List (Text × Text)}
    (h : ∀ a ∈ pairs, ∀ c ∈ a.1, isClosingNameChar c = true) :
    SeenAs (writeAttributes pairs) (writeAttributes (pairs.map fun a => (a.1, a.2.map readBack))) := by
  induction pairs with
  | nil => exact seenAs_self (by simp [writeAttributes]) (by simp [writeAttributes])
  | cons a as ih =>
      have hfirst : SeenAs (writeAttribute a.1 a.2) (writeAttribute a.1 (a.2.map readBack)) := by
        have hblank : SeenAs [' '] [' '] := seenAs_self (by decide) (by decide)
        have hopen : SeenAs "=\"".toList "=\"".toList := seenAs_self (by decide) (by decide)
        have hclose : SeenAs "\"".toList "\"".toList := seenAs_self (by decide) (by decide)
        exact (((hblank.append (seenAs_rawName (h a List.mem_cons_self))).append hopen).append
          (seenAs_value a.2)).append hclose
      rw [List.map_cons, writeAttributes, writeAttributes, List.flatMap_cons, List.flatMap_cons]
      exact hfirst.append (ih fun b hb => h b (List.mem_cons_of_mem a hb))

/-- An element as it is written, without its tail. -/
def writeHead (p : Prefixes) (declarations : Text) (e : Element) : Text :=
  '<' :: (p.written e.name ++ (declarations ++ (writeAttributes (p.writtenAttributes e) ++
    writeInside p e)))

theorem writeElement_eq (p : Prefixes) (declarations : Text) (e : Element) :
    writeElement p declarations e = writeHead p declarations e ++ escapeText e.tail := by
  have h := writeElement_append p declarations e []
  simp only [List.append_nil] at h
  simp [h, writeHead]

theorem mem_escapeText {t : Text} {c : Char} (hc : writtenInText c = [c]) (h : c ∈ t) :
    c ∈ escapeText t := by
  apply List.mem_flatMap.mpr
  refine ⟨c, h, ?_⟩
  rw [hc]
  exact List.mem_singleton_self c

theorem mem_writeElements {p : Prefixes} {es : List Element} {e : Element} (he : e ∈ es) :
    writeElement p [] e ⊆ writeElements p es := by
  induction es with
  | nil => cases he
  | cons first rest ih =>
      rw [writeElements]
      obtain rfl | he := List.mem_cons.mp he
      · exact List.subset_append_left _ _
      · exact List.subset_append_of_subset_right _ (ih he)

/-- What stands in a text of an element is written, if it is written as it is. -/
theorem mem_writeElement {p : Prefixes} {declarations : Text} {e x : Element} {c : Char}
    (hc : writtenInText c = [c]) (hx : x ∈ e.elements) (h : c ∈ x.text ∨ c ∈ x.tail) :
    c ∈ writeElement p declarations e := by
  have hinside : ∀ e : Element, ¬ (e.text = [] ∧ e.children.isEmpty) →
      c ∈ e.text ∨ c ∈ writeElements p e.children → c ∈ writeInside p e := by
    intro e hsome hmem
    rw [writeInside, if_neg hsome]
    simp only [List.mem_append]
    exact .inr (hmem.imp (mem_escapeText hc) .inl)
  have hhead : ∀ (e : Element) (declarations : Text), c ∈ writeInside p e →
      c ∈ writeHead p declarations e := by
    intro e declarations hmem
    simp only [writeHead, List.mem_cons, List.mem_append]
    exact .inr (.inr (.inr (.inr hmem)))
  induction e using Element.induction generalizing declarations with
  | step e ih =>
      rw [writeElement_eq, List.mem_append]
      obtain rfl | ⟨child, hchild, hx⟩ := Element.mem_elements_iff.mp hx
      · obtain h | h := h
        · left
          apply hhead
          exact hinside x (fun hnone => List.ne_nil_of_mem h hnone.1) (.inl h)
        · exact .inr (mem_escapeText hc h)
      · left
        apply hhead
        apply hinside
        · rintro ⟨-, hempty⟩
          rw [List.isEmpty_iff] at hempty
          exact List.ne_nil_of_mem hchild hempty
        · exact .inr (mem_writeElements hchild (ih child hchild hx))

theorem Element.PlainlyNamed.name {e : Element} (h : e.PlainlyNamed p) :
    ∀ c ∈ p.written e.name, isClosingNameChar c = true :=
  h e.name List.mem_cons_self

theorem Element.PlainlyNamed.pairs {e : Element} (h : e.PlainlyNamed p) :
    ∀ a ∈ p.writtenAttributes e, ∀ c ∈ a.1, isClosingNameChar c = true := by
  intro a ha
  obtain ⟨b, hb, rfl⟩ := List.mem_map.mp ha
  exact h b.1 (List.mem_cons_of_mem _ (List.mem_map.mpr ⟨b, hb, rfl⟩))

theorem writtenAttributes_seen (p : Prefixes) (e : Element) :
    p.writtenAttributes e.seen =
      (p.writtenAttributes e).map fun a => (a.1, a.2.map readBack) := by
  simp [Prefixes.writtenAttributes]

/-- Elements are seen in front of a closing tag. -/
theorem seenAs_elements {es : List Element}
    (h : ∀ e ∈ es, SeenAs (writeHead p [] e) (writeHead p [] e.seen)) {u u' : Text}
    (hu : SeenAs ('<' :: u) u') :
    SeenAs (writeElements p es ++ '<' :: u) (writeElements p (es.map Element.seen) ++ u') := by
  induction es with
  | nil => exact hu
  | cons e es ih =>
      have hothers := ih fun c hc => h c (List.mem_cons_of_mem e hc)
      obtain ⟨more, hmore⟩ := exists_writeElements_append (p := p) es u
      rw [hmore] at hothers
      have htail := seenAs_text e.tail hothers
      rw [List.map_cons, writeElements, writeElements, writeElement_eq, writeElement_eq,
        Element.seen_tail]
      simp only [List.append_assoc]
      rw [hmore]
      exact (h e List.mem_cons_self).append htail

theorem seenAs_closingTag {raw : Text} (h : ∀ c ∈ raw, isClosingNameChar c = true) :
    SeenAs (closingTag raw) (closingTag raw) := by
  have hopen : SeenAs ['<', '/'] ['<', '/'] := seenAs_self (by decide) (by decide)
  have hclose : SeenAs ['>'] ['>'] := seenAs_self (by decide) (by decide)
  exact hopen.append ((seenAs_rawName h).append hclose)

/-- A written element is seen as the seen element is written. -/
theorem seenAs_head (e : Element) (h : ∀ x ∈ e.elements, x.PlainlyNamed p)
    {declarations declarations' : Text} (hd : SeenAs declarations declarations') :
    SeenAs (writeHead p declarations e) (writeHead p declarations' e.seen) := by
  induction e using Element.induction generalizing declarations declarations' with
  | step e ih =>
      obtain ⟨he, hchildren⟩ := Element.forall_mem_elements_iff.mp h
      have hstart : SeenAs ['<'] ['<'] := seenAs_self (by decide) (by decide)
      have hnone : SeenAs [] [] := seenAs_self (by decide) (by decide)
      have hattributes := seenAs_attributes he.pairs
      rw [← writtenAttributes_seen] at hattributes
      have hinside : SeenAs (writeInside p e) (writeInside p e.seen) := by
        have hbody : SeenAs (writeElements p e.children ++ closingTag (p.written e.name))
            (writeElements p (e.children.map Element.seen) ++ closingTag (p.written e.name)) :=
          seenAs_elements (fun c hc => ih c hc (hchildren c hc) hnone) (seenAs_closingTag he.name)
        obtain ⟨more, hmore⟩ := exists_writeElements_append (p := p) e.children
          ('/' :: (p.written e.name ++ ['>']))
        have hmarkup : writeElements p e.children ++ closingTag (p.written e.name) = '<' :: more :=
          hmore
        rw [hmarkup] at hbody
        have htext := seenAs_text e.text hbody
        have hend : SeenAs (tagEnd false) (tagEnd false) := seenAs_self (by decide) (by decide)
        unfold writeInside
        simp only [Element.seen_text, Element.seen_children, Element.seen_name,
          seenText_eq_nil_iff, List.isEmpty_map]
        split
        · exact seenAs_self (by decide) (by decide)
        · rw [hmarkup]
          exact hend.append htext
      rw [writeHead, writeHead, Element.seen_name]
      exact hstart.append ((seenAs_rawName he.name).append (hd.append (hattributes.append hinside)))

end SourceAtlas.Xml
