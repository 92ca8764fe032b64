import SourceAtlas.Proofs.Outcomes
import SourceAtlas.Proofs.Xml.RoundTrip

/-!
# Written documents that are accepted

The reader accepts no document but those of elements that can be written: it checks every character,
and every name that it takes is one.  So where a written element is accepted, its characters may
stand in a document and its names are names; what is known of it beforehand is only that its raw
names stand for its names if they are names at all.
-/

namespace SourceAtlas.Xml

open Text

/-! ## Scanners -/

theorem scanName_eq_ok {t n rest : Text} (h : scanName t = .ok (n, rest)) :
    isName n = true ∧ t = n ++ rest ∧ Stops isNameChar rest := by
  cases t with
  | nil => simp [scanName] at h
  | cons c cs =>
      rw [scanName] at h
      split at h
      · next hc =>
          simp only [Except.ok.injEq, Prod.mk.injEq] at h
          obtain ⟨rfl, rfl⟩ := h
          refine ⟨isName_cons.mpr ⟨hc, fun d hd => ?_⟩, by simp, ?_⟩
          · exact List.all_eq_true.mp List.all_takeWhile d hd
          · intro d hd
            have hstop := List.head?_dropWhile_not isNameChar cs
            rw [hd] at hstop
            exact hstop
      · simp at h

theorem scanQualified_eq_ok {t raw rest : Text} (h : scanQualified t = .ok (raw, rest)) :
    Qualified raw ∧ t = raw ++ rest := by
  obtain ⟨⟨first, more⟩, hfirst, hmore⟩ := bind_eq_ok.mp h
  obtain ⟨hname, rfl, -⟩ := scanName_eq_ok hfirst
  simp only at hmore
  split at hmore
  · obtain ⟨⟨second, rest'⟩, hsecond, hrest⟩ := bind_eq_ok.mp hmore
    obtain ⟨hlocal, rfl, -⟩ := scanName_eq_ok hsecond
    obtain ⟨rfl, rfl⟩ := Prod.mk.inj (pure_eq_ok.mp hrest)
    exact ⟨.joined hname hlocal, by simp⟩
  · obtain ⟨rfl, rfl⟩ := Prod.mk.inj (pure_eq_ok.mp hmore)
    exact ⟨.plain hname, rfl⟩

theorem not_isClosingNameChar_of_scanEquals {t r : Text} (h : scanEquals t = .ok r) :
    Stops isClosingNameChar t := by
  unfold scanEquals at h
  split at h
  · next c cs =>
      rw [stops_cons]
      split at h
      · next hspace =>
          simp only [isSpace, Bool.or_eq_true, beq_iff_eq, or_assoc] at hspace
          rcases hspace with rfl | rfl | rfl | rfl <;> decide
      · split at h
        · next hc =>
            subst hc
            decide
        · simp at h
  · simp [Stops]

/-- A written attribute that is taken has a name and a value that may stand in a tag. -/
theorem of_scanAttribute {raw v after : Text} {r : RawAttribute × Text}
    (hraw : ∀ c ∈ raw, isClosingNameChar c = true)
    (h : scanAttribute (attributeThen raw v after) = .ok r) : Qualified raw ∧ Legal v := by
  obtain ⟨⟨name, rest⟩, hname, hrest⟩ := bind_eq_ok.mp h
  obtain ⟨rest', hequals, hquoted⟩ := bind_eq_ok.mp hrest
  obtain ⟨hqualified, heq⟩ := scanQualified_eq_ok hname
  have hstop : Stops isClosingNameChar ('=' :: '"' :: (escapeValue v ++ '"' :: after)) := by
    rw [stops_cons]
    decide
  have hleft := takeWhile_append_of_stops hraw hstop
  have hright := takeWhile_append_of_stops hqualified.isClosingNameChar
    (not_isClosingNameChar_of_scanEquals hequals)
  rw [attributeThen] at heq
  rw [heq] at hleft
  obtain rfl : raw = name := hleft.1.symm.trans hright.1
  obtain rfl : rest = '=' :: '"' :: (escapeValue v ++ '"' :: after) := hright.2.symm.trans hleft.2
  obtain rfl : rest' = '"' :: (escapeValue v ++ '"' :: after) := (Except.ok.inj hequals).symm
  have hquote (t : Text) : ('"' :: t).dropWhile isSpace = '"' :: t := rfl
  simp only [hquote] at hquoted
  obtain ⟨value, hvalue, -⟩ := bind_eq_ok.mp hquoted
  exact ⟨hqualified, legal_of_scanValue hvalue⟩

theorem of_scanAttributes {pairs : List (Text × Text)}
    (hraws : ∀ a ∈ pairs, ∀ c ∈ a.1, isClosingNameChar c = true) {closed : Bool} {rest : Text}
    {refuse : Text → Stop} {count : Nat} {r : (List RawAttribute × Bool) × Text}
    (h : scanAttributes refuse count (writeAttributes pairs ++ (tagEnd closed ++ rest)) = .ok r) :
    ∀ a ∈ pairs, Qualified a.1 ∧ Legal a.2 := by
  induction pairs generalizing refuse count r with
  | nil => simp
  | cons a as ih =>
      have ha := hraws a List.mem_cons_self
      cases count with
      | zero => simp [scanAttributes] at h
      | succ count =>
          rw [writeAttributes_cons_append, scanAttributes_cons ha] at h
          obtain ⟨⟨first, rest'⟩, hfirst, hothers⟩ := bind_eq_ok.mp h
          have hvalid := of_scanAttribute ha hfirst
          rw [scanAttribute_written hvalid.1 hvalid.2] at hfirst
          obtain ⟨rfl, rfl⟩ := Prod.mk.inj (Except.ok.inj hfirst)
          obtain ⟨r', hothers', -⟩ := bind_eq_ok.mp hothers
          intro b hb
          rcases List.mem_cons.mp hb with rfl | hb
          · exact hvalid
          · exact ih (fun c hc => hraws c (List.mem_cons_of_mem a hc)) hothers' b hb

/-- A written opening tag that is taken has attributes that may stand in a tag. -/
theorem of_scanToken_opening {raw : Text} (hraw : Qualified raw) {pairs : List (Text × Text)}
    (hraws : ∀ a ∈ pairs, ∀ c ∈ a.1, isClosingNameChar c = true) {closed : Bool} {rest : Text}
    {r : Option (Token × Text)}
    (h : scanToken ('<' :: (raw ++ (writeAttributes pairs ++ (tagEnd closed ++ rest)))) = .ok r) :
    ∀ a ∈ pairs, Qualified a.1 ∧ Legal a.2 := by
  rw [scanToken_tag hraw] at h
  obtain ⟨⟨token, rest'⟩, htoken, -⟩ := map_eq_ok.mp h
  obtain ⟨⟨tag, rest''⟩, htag, -⟩ := map_eq_ok.mp htoken
  rw [scanOpening, scanQualified_append hraw (stops_writeAttributes pairs closed rest)] at htag
  obtain ⟨named, hnamed, hattributes⟩ := bind_eq_ok.mp (mapError_eq_ok.mp htag)
  obtain rfl := Except.ok.inj hnamed
  obtain ⟨r', htaken, -⟩ := bind_eq_ok.mp hattributes
  exact of_scanAttributes hraws htaken

/-! ## Content -/

variable {d : Dtd} {nested : Text → Text → Building → Except Complaint Building}

/-- Content is accepted from a state on. -/
def Accepts (d : Dtd) (nested : Text → Text → Building → Except Complaint Building) (b : Building)
    (t : Text) : Prop :=
  ∃ count r, t.length < count ∧ readTokens d nested 0 count b t = .ok r

/-- What is accepted is accepted wherever reading comes to. -/
theorem Reads.accepts {b b' : Building} {t t' : Text} (h : Reads d nested b t b' t')
    (ha : Accepts d nested b t) : Accepts d nested b' t' := by
  obtain ⟨k, hk, hcount⟩ := h
  obtain ⟨count, r, hlength, hr⟩ := ha
  obtain ⟨count', rfl⟩ : ∃ count', count = count' + k := ⟨count - k, by omega⟩
  rw [hcount] at hr
  exact ⟨count', r, by omega, hr⟩

theorem Accepts.scanToken {b : Building} {t : Text} (h : Accepts d nested b t) :
    ∃ r, scanToken t = .ok r := by
  obtain ⟨count, r, hlength, hr⟩ := h
  obtain ⟨count, rfl⟩ : ∃ n, count = n + 1 := ⟨count - 1, by omega⟩
  rw [readTokens] at hr
  split at hr
  · exact absurd hr (by simp [throw, throwThe, MonadExceptOf.throw, bind, Except.bind])
  · obtain ⟨-, -, hr⟩ := bind_eq_ok.mp hr
    obtain ⟨token, htoken, -⟩ := bind_eq_ok.mp hr
    exact ⟨token, htoken⟩

/-- Accepted text consists of characters that a document may hold. -/
theorem Accepts.legal {t : Text} (hline : '\r' ∉ t) {rest : Text} {b : Building}
    (hb : b.frames ≠ []) (h : Accepts d nested b (escapeText t ++ '<' :: rest)) : Legal t := by
  induction t generalizing b with
  | nil => exact legal_nil
  | cons c cs ih =>
      simp only [List.mem_cons, not_or] at hline
      have hc : isXmlChar c = true := by
        rcases writtenInText_cases c with ⟨heq, hmem⟩ | ⟨body, r, -, hbody⟩
        · obtain ⟨r, hr⟩ := h.scanToken
          rw [escapeText_cons, heq, List.singleton_append, List.cons_append,
            scanToken_character hmem fun more => not_sectionEnd cs rest more] at hr
          obtain ⟨_, hcheck, -⟩ := map_eq_ok.mp hr
          by_cases hc : isXmlChar c = true
          · exact hc
          · simp [checkChar, hc, mapError_error] at hcheck
        · exact hbody.legal
      have hfirst := reads_character d nested hc (Ne.symm hline.1) cs rest hb
      apply legal_cons.mpr
      exact ⟨hc, ih hline.2 (b := b.push c) hb (hfirst.accepts h)⟩

/-! ## Elements -/

/-- An element that fits in a scope if its tag and its texts are accepted. -/
structure Element.NearlyFits (s : Scope) (w : Name → Text) (e : Element) : Prop where
  name : Resolves s e.name (w e.name)
  attributes : ∀ a ∈ e.attributes, Qualified (w a.1) → Resolves s a.1 (w a.1)
  characters : ∀ a ∈ e.attributes, ∀ c ∈ w a.1, isClosingNameChar c = true
  unbound : ∀ a ∈ e.attributes, a.1 ≠ ⟨[], xmlnsName⟩
  distinct : (e.attributes.map (·.1)).Nodup
  text : '\r' ∉ e.text
  tail : '\r' ∉ e.tail

variable {s : Scope} {p : Prefixes}

/-- An element whose tag is accepted fits in the scope, its texts apart. -/
theorem Element.NearlyFits.bare {e : Element} (h : e.NearlyFits s p.written)
    {declarations : List (Text × Text)}
    (hd : ∀ a ∈ declarations, ∀ c ∈ a.1, isClosingNameChar c = true) {closed : Bool} {rest : Text}
    {r : Option (Token × Text)}
    (hscan : scanToken ('<' :: (p.written e.name ++ (writeAttributes declarations ++
      (writeAttributes (p.writtenAttributes e) ++ (tagEnd closed ++ rest))))) = .ok r) :
    Element.FitsIn s p.written { e with text := [], tail := [] } := by
  have hjoin : writeAttributes declarations ++ (writeAttributes (p.writtenAttributes e) ++
      (tagEnd closed ++ rest)) = writeAttributes (declarations ++ p.writtenAttributes e) ++
        (tagEnd closed ++ rest) := by
    simp [writeAttributes]
  have hraws : ∀ a ∈ declarations ++ p.writtenAttributes e, ∀ c ∈ a.1,
      isClosingNameChar c = true := by
    intro a ha
    rcases List.mem_append.mp ha with ha | ha
    · exact hd a ha
    · obtain ⟨b, hb, rfl⟩ := List.mem_map.mp ha
      exact h.characters b hb
  rw [hjoin] at hscan
  have hvalid := of_scanToken_opening h.name.qualified hraws hscan
  have hattribute : ∀ a ∈ e.attributes, Qualified (p.written a.1) ∧ Legal a.2 := fun a ha =>
    hvalid (p.written a.1, a.2) (List.mem_append_right _ (List.mem_map.mpr ⟨a, ha, rfl⟩))
  exact
    { name := h.name
      attributes := fun a ha => ⟨h.attributes a ha (hattribute a ha).1, h.unbound a ha⟩
      distinct := h.distinct
      values := fun a ha => (hattribute a ha).2
      text := ⟨legal_nil, List.not_mem_nil⟩
      tail := ⟨legal_nil, List.not_mem_nil⟩ }

/-- An element fits in the scope if its tag and its texts are accepted. -/
theorem Element.NearlyFits.fitsIn {e : Element} (h : e.NearlyFits s p.written)
    (hbare : Element.FitsIn s p.written { e with text := [], tail := [] }) (htext : Legal e.text)
    (htail : Legal e.tail) : e.FitsIn s p.written :=
  { name := hbare.name
    attributes := hbare.attributes
    distinct := hbare.distinct
    values := hbare.values
    text := ⟨htext, h.text⟩
    tail := ⟨htail, h.tail⟩ }

/-- All elements in an element fit in the scope where its document is accepted. -/
def FitsWhereAccepted (d : Dtd) (nested : Text → Text → Building → Except Complaint Building)
    (s : Scope) (p : Prefixes) (e : Element) : Prop :=
  ∀ (rest : Text) (b : Building) (f : Frame) (fs : List Frame) (root : Option Element),
    f.scope = s → b.flush = ⟨f :: fs, [], root⟩ →
      Accepts d nested b (writeElement p [] e ++ '<' :: rest) →
        ∀ x ∈ e.elements, x.FitsIn s p.written

theorem fits_of_accepted_elements (hd : d.attributes = []) (hnone : s.spaceOf? [] = none)
    {es : List Element} (h : ∀ e ∈ es, FitsWhereAccepted d nested s p e) {rest : Text}
    {b : Building} {f : Frame} {fs : List Frame} {root : Option Element} (hf : f.scope = s)
    (hb : b.flush = ⟨f :: fs, [], root⟩)
    (ha : Accepts d nested b (writeElements p es ++ '<' :: rest)) :
    ∀ e ∈ es, ∀ x ∈ e.elements, x.FitsIn s p.written := by
  induction es generalizing b f with
  | nil => simp
  | cons e es ih =>
      obtain ⟨more, hmore⟩ := exists_writeElements_append (p := p) es rest
      rw [writeElements, List.append_assoc, hmore] at ha
      have hfirst := h e List.mem_cons_self more b f fs root hf hb ha
      obtain ⟨b', hreads, hb'⟩ := readsBack_of_fits d nested hd hnone e hfirst more b f fs
        root hf hb
      have hrest := hreads.accepts ha
      rw [← hmore] at hrest
      intro e' he'
      rcases List.mem_cons.mp he' with rfl | he'
      · exact hfirst
      · exact ih (fun c hc => h c (List.mem_cons_of_mem e hc)) (f := f.addChild e) hf hb' hrest e' he'

/-- The inside of an accepted element: its text is legal and its children fit. -/
theorem of_accepted_inside (hd : d.attributes = []) (hnone : s.spaceOf? [] = none) {e : Element}
    (htext : '\r' ∉ e.text) (h : ∀ c ∈ e.children, FitsWhereAccepted d nested s p c) {raw : Text}
    {fs : List Frame} {root : Option Element} {rest : Text}
    (ha : Accepts d nested
      ⟨⟨raw, s, { name := e.name, attributes := e.attributes }⟩ :: fs, [], root⟩
      (escapeText e.text ++ (writeElements p e.children ++ (closingTag raw ++ rest)))) :
    Legal e.text ∧ ∀ c ∈ e.children, ∀ x ∈ c.elements, x.FitsIn s p.written := by
  obtain ⟨more, hmore⟩ := exists_writeElements_append (p := p) e.children
    ('/' :: (raw ++ ['>']) ++ rest)
  have hinside : writeElements p e.children ++ (closingTag raw ++ rest) = '<' :: more := hmore
  rw [hinside] at ha
  have hlegal : Legal e.text := ha.legal htext (by simp)
  refine ⟨hlegal, ?_⟩
  have hreads := reads_text d nested hlegal htext more
    (b := ⟨⟨raw, s, { name := e.name, attributes := e.attributes }⟩ :: fs, [], root⟩) (by simp)
  have hchildren := hreads.accepts ha
  rw [← hmore] at hchildren
  exact fits_of_accepted_elements hd hnone h rfl
    (flush_collect_text raw s fs root e.name e.attributes e.text) hchildren

theorem fitsWhereAccepted (hd : d.attributes = []) (hnone : s.spaceOf? [] = none) (e : Element)
    (h : ∀ x ∈ e.elements, x.NearlyFits s p.written) : FitsWhereAccepted d nested s p e := by
  induction e using Element.induction with
  | step e ih =>
      intro rest b f fs root hf hb ha
      obtain ⟨he, hchildren⟩ := Element.forall_mem_elements_iff.mp h
      have hs : b.scope = s := (scope_of_flush hb).trans hf
      have htag (closed : Bool) (more : Text)
          (ha : Accepts d nested b ('<' :: (p.written e.name ++ (writeAttributes [] ++
            (writeAttributes (p.writtenAttributes e) ++ (tagEnd closed ++ more)))))) :
          Element.FitsIn s p.written { e with text := [], tail := [] } ∧
            Takes d nested b ('<' :: (p.written e.name ++ (writeAttributes [] ++
              (writeAttributes (p.writtenAttributes e) ++ (tagEnd closed ++ more)))))
              (b.openElement (p.written e.name) closed
                { name := e.name, attributes := e.attributes } s) more := by
        obtain ⟨r, hr⟩ := ha.scanToken
        have hbare := he.bare (by simp) hr
        exact ⟨hbare, takes_opening d nested hd hnone hbare [] (by simp) (by simp) closed more (by simp [hs])⟩
      have htail (b' : Building) (hb' : b'.frames ≠ [])
          (ha : Accepts d nested b' (escapeText e.tail ++ '<' :: rest)) : Legal e.tail :=
        ha.legal he.tail hb'
      rw [writeElement_append, List.nil_append, writeInside] at ha
      rw [Element.forall_mem_elements_iff]
      by_cases hempty : e.text = [] ∧ e.children.isEmpty
      · rw [if_pos hempty] at ha
        obtain ⟨hbare, htakes⟩ := htag true _ ha
        rw [openElement_empty_of_flush hb] at htakes
        have hlegal := htail _ (by simp) ((htakes.reads (by simp)).accepts ha)
        refine ⟨he.fitsIn hbare (by simp [hempty.1]) hlegal, ?_⟩
        rw [List.isEmpty_iff.mp hempty.2]
        simp
      · rw [if_neg hempty] at ha
        simp only [List.append_assoc] at ha
        obtain ⟨hbare, htakes⟩ := htag false _ ha
        rw [openElement_of_flush hb] at htakes
        have hinner := (htakes.reads (by simp)).accepts ha
        obtain ⟨htext, hfits⟩ := of_accepted_inside hd hnone he.text
          (fun c hc => ih c hc (hchildren c hc)) hinner
        obtain ⟨b', hreads, hb'⟩ := reads_inside d nested ⟨htext, he.text⟩
          (fun c hc => readsBack_of_fits d nested hd hnone c (hfits c hc)) (p.written e.name) (f :: fs) root
          (escapeText e.tail ++ '<' :: rest)
        have hend := takes_closing d nested he.name.qualified s
          { e with tail := [] } (f :: fs) root (escapeText e.tail ++ '<' :: rest) hb'
        have hlegal := htail _ (by simp [Building.place])
          ((hend.reads (by simp [Building.place])).accepts (hreads.accepts hinner))
        exact ⟨he.fitsIn hbare htext hlegal, hfits⟩

/-- All elements of an accepted document fit in the scope of its root element. -/
theorem fits_of_readElement (hp : p.Assigned) (hb : ∀ q ∈ p, Bindable q.1) {root : Element}
    (h : ∀ x ∈ root.elements, x.NearlyFits (rootScope p) p.written) (htail : root.tail = [])
    {rest : Text} {r : Element × Text}
    (hread : readElement {} (writeHead p (writePrefixes p) root ++ rest) = .ok r) :
    ∀ x ∈ root.elements, x.FitsIn (rootScope p) p.written := by
  obtain ⟨hroot, hchildren⟩ := Element.forall_mem_elements_iff.mp h
  obtain ⟨nested, hnested⟩ : ∃ nested, ∀ t, readNested {} 1 [] {} t =
      readTokens {} nested 0 (t.length + 1) {} t := ⟨_, fun _ => rfl⟩
  have ha : Accepts {} nested {} (writeHead p (writePrefixes p) root ++ rest) := by
    obtain ⟨built, hbuilt, -⟩ := bind_eq_ok.mp hread
    exact ⟨_, built, Nat.lt_succ_self _, (hnested _).symm.trans hbuilt⟩
  have hdeclared : ∀ a ∈ p.declarations, ∀ c ∈ a.1, isClosingNameChar c = true := by
    intro a ha
    obtain ⟨q, hq, rfl⟩ := List.mem_map.mp ha
    exact (hp.binds hb hq).2.1.isClosingNameChar
  have hnone := hp.spaceOf?_nil
  rw [writeHead, writePrefixes_eq, writeInside] at ha
  simp only [List.cons_append, List.append_assoc] at ha
  rw [Element.forall_mem_elements_iff]
  by_cases hempty : root.text = [] ∧ root.children.isEmpty
  · rw [if_pos hempty] at ha
    obtain ⟨r, hr⟩ := ha.scanToken
    have hbare := hroot.bare hdeclared hr
    refine ⟨hroot.fitsIn hbare (by simp [hempty.1]) (by simp [htail]), ?_⟩
    rw [List.isEmpty_iff.mp hempty.2]
    simp
  · rw [if_neg hempty] at ha
    simp only [List.append_assoc] at ha
    obtain ⟨r, hr⟩ := ha.scanToken
    have hbare := hroot.bare hdeclared hr
    have htakes := takes_opening {} nested (b := {}) rfl hnone hbare p.sorted
      (fun q hq => hp.binds hb hq) hp.nodup_sorted_labels false
      (escapeText root.text ++ (writeElements p root.children ++
        (closingTag (p.written root.name) ++ rest))) rfl
    have hinner := (htakes.reads (List.cons_ne_nil _ _)).accepts ha
    obtain ⟨htext, hfits⟩ := of_accepted_inside rfl hnone hroot.text
      (fun c hc => fitsWhereAccepted rfl hnone c (hchildren c hc)) hinner
    exact ⟨hroot.fitsIn hbare htext (by simp [htail]), hfits⟩

/-! ## Documents -/

theorem Qualified.localName {label n : Text} (hl : isName label = true)
    (h : Qualified (label ++ ':' :: n)) : isName n = true := by
  generalize hraw : label ++ ':' :: n = raw at h
  cases h with
  | plain hn =>
      refine absurd ?_ (not_mem_colon hn)
      rw [← hraw]
      simp
  | @joined label' n' hl' hn' =>
      have hsplit := congrArg splitPrefix hraw
      rw [splitPrefix_joined (not_mem_colon hl), splitPrefix_joined (not_mem_colon hl')] at hsplit
      rw [(Prod.mk.inj hsplit).2]
      exact hn'

theorem Resolves.localName {n : Name} {raw : Text} (h : Resolves s n raw) :
    isName n.localName = true := by
  cases h with
  | plain hn => exact hn
  | joined hl hn => exact hn

namespace Element

/-- A named element fits in the scope of the root element if it is accepted. -/
theorem Named.nearlyFits {root x : Element} (h : x.Named) (hx : x ∈ root.elements) :
    x.seen.NearlyFits (rootScope (Prefixes.ofDocument root)) (Prefixes.ofDocument root).written := by
  have hp := assigned_ofDocument root
  have hcovers : ∀ a ∈ x.attributes, (Prefixes.ofDocument root).Covers a.1 := fun a ha =>
    covers_ofDocument hx (List.mem_cons_of_mem _ (List.mem_map.mpr ⟨a, ha, rfl⟩))
  refine ⟨?_, ?_, ?_, ?_, ?_, ?_, ?_⟩
  · rw [seen_name]
    exact hp.resolves_written h.name (covers_ofDocument hx List.mem_cons_self)
  · intro a ha hq
    rw [seen_attributes] at ha
    obtain ⟨b, hb, rfl⟩ := List.mem_map.mp ha
    refine hp.resolves_written ?_ (hcovers b hb)
    rcases hp.written_cases (hcovers b hb) with ⟨hspace, -⟩ | ⟨label, hname, -, -, -, hwritten⟩
    · exact (h.plain b hb hspace).1
    · rw [hwritten] at hq
      exact hq.localName hname
  · intro a ha
    rw [seen_attributes] at ha
    obtain ⟨b, hb, rfl⟩ := List.mem_map.mp ha
    exact hp.isClosingNameChar_written (hcovers b hb) (h.characters b hb)
  · intro a ha
    rw [seen_attributes] at ha
    obtain ⟨b, hb, rfl⟩ := List.mem_map.mp ha
    exact h.attribute_ne b hb
  · rw [seen_attributes, List.map_map]
    exact h.distinct
  · rw [seen_text]
    exact not_mem_unifyLines _
  · rw [seen_tail]
    exact not_mem_unifyLines _

/-- An element that is seen to fit can be written. -/
theorem Named.writable {x : Element} (h : x.Named) {w : Name → Text}
    (hfits : x.seen.FitsIn s w) : x.Writable := by
  have hattributes : ∀ a ∈ x.attributes, (a.1, a.2.map readBack) ∈ x.seen.attributes := by
    intro a ha
    rw [seen_attributes]
    apply List.mem_map.mpr
    exact ⟨a, ha, rfl⟩
  have htext := hfits.text.1
  have htail := hfits.tail.1
  rw [seen_text, seenText, legal_unifyLines, legal_map_readBack] at htext
  rw [seen_tail, seenText, legal_unifyLines, legal_map_readBack] at htail
  exact
    { toNamed := h
      attributeNames := fun a ha => (hfits.attributes _ (hattributes a ha)).1.localName
      values := fun a ha => legal_map_readBack.mp (hfits.values _ (hattributes a ha))
      text := htext
      tail := htail }

end Element

section Documents

variable {root : Element} (h : ∀ x ∈ root.elements, x.Named) (htail : root.tail = [])

include h htail

/-- A document that is read is that of an element that can be written. -/
theorem writable_of_read {e : Element} (hread : read (Utf8.encode (root.write ++ ['\n'])) = .ok e) :
    ∀ x ∈ root.elements, x.Writable := by
  obtain ⟨whole, heq⟩ := read_write_eq h htail
  rw [heq] at hread
  obtain ⟨r, hr, -⟩ := bind_eq_ok.mp (mapError_eq_ok.mp hread)
  have hnearly : ∀ x ∈ root.seen.elements, x.NearlyFits (rootScope (Prefixes.ofDocument root))
      (Prefixes.ofDocument root).written := by
    intro x hx
    rw [Element.elements_seen] at hx
    obtain ⟨y, hy, rfl⟩ := List.mem_map.mp hx
    exact (h y hy).nearlyFits hy
  have hseen : root.seen.tail = [] := by
    rw [Element.seen_tail, htail]
    rfl
  have hfits := fits_of_readElement (Element.assigned_ofDocument root)
    (Element.bindable_ofDocument h) hnearly hseen hr
  intro x hx
  refine (h x hx).writable (hfits x.seen ?_)
  rw [Element.elements_seen]
  apply List.mem_map.mpr
  exact ⟨x, hx, rfl⟩

/-- A document is either read, as the element with uniform line ends, or malformed. -/
theorem read_write_cases :
    ((∀ x ∈ root.elements, x.Writable) ∧ read (Utf8.encode (root.write ++ ['\n'])) = .ok root.seen) ∨
      ((¬ ∀ x ∈ root.elements, x.Writable) ∧
        ∃ message, read (Utf8.encode (root.write ++ ['\n'])) = .error (.malformed message)) := by
  by_cases hw : ∀ x ∈ root.elements, x.Writable
  · exact .inl ⟨hw, read_write hw htail⟩
  · right
    refine ⟨hw, ?_⟩
    cases hread : read (Utf8.encode (root.write ++ ['\n'])) with
    | ok e => exact absurd (writable_of_read h htail hread) hw
    | error fault =>
        obtain ⟨whole, heq⟩ := read_write_eq h htail
        rw [heq] at hread
        obtain ⟨c, -, rfl⟩ := mapError_eq_error.mp hread
        exact ⟨_, rfl⟩

end Documents

end SourceAtlas.Xml
