import SourceAtlas.Proofs.Xml.Elements
import SourceAtlas.Proofs.Xml.Scopes

/-!
# Reading written content

Written content is read token by token.  The invariant looks at what was built after the collected
text is handed on: reading a written element adds that element, its tail included, to the children
of the innermost open element and changes nothing else.
-/

namespace SourceAtlas.Xml

open Text

variable {d : Dtd} {nested : Text → Text → Building → Except Complaint Building}

/-- Reading goes on from a later state, and at least one character was taken for every token. -/
def Reads (d : Dtd) (nested : Text → Text → Building → Except Complaint Building)
    (b : Building) (t : Text) (b' : Building) (t' : Text) : Prop :=
  ∃ k, k + t'.length ≤ t.length ∧
    ∀ count, readTokens d nested 0 (count + k) b t = readTokens d nested 0 count b' t'

theorem Reads.refl (b : Building) (t : Text) : Reads d nested b t b t :=
  ⟨0, by omega, fun _ => rfl⟩

theorem Reads.trans {b b' b'' : Building} {t t' t'' : Text} (h : Reads d nested b t b' t')
    (h' : Reads d nested b' t' b'' t'') : Reads d nested b t b'' t'' := by
  obtain ⟨k, hk, heq⟩ := h
  obtain ⟨k', hk', heq'⟩ := h'
  refine ⟨k' + k, by omega, ?_⟩
  intro count
  rw [← Nat.add_assoc, heq, heq']

/-- One token is taken in. -/
def Takes (d : Dtd) (nested : Text → Text → Building → Except Complaint Building)
    (b : Building) (t : Text) (b' : Building) (t' : Text) : Prop :=
  t ≠ ['\r'] ∧ t'.length < t.length ∧
    ∃ token, scanToken t = .ok (some (token, t')) ∧ takeToken d nested 0 b t token = .ok b'

/-- Reading goes on while an element is open. -/
theorem Takes.reads {b b' : Building} {t t' : Text} (h : Takes d nested b t b' t')
    (hopen : b'.frames ≠ []) : Reads d nested b t b' t' := by
  obtain ⟨hline, hlength, token, hscan, htake⟩ := h
  refine ⟨1, by omega, ?_⟩
  intro count
  rw [readTokens, if_neg (by simp [hline])]
  simp only [hscan, htake, bind, Except.bind, List.isEmpty_iff, hopen, if_false]

/-- Reading ends with the document element. -/
theorem Takes.readTokens_eq {b b' : Building} {t t' : Text} (h : Takes d nested b t b' t')
    (hclosed : b'.frames = []) (count : Nat) :
    readTokens d nested 0 (count + 1) b t = .ok (b', t') := by
  obtain ⟨hline, hlength, token, hscan, htake⟩ := h
  rw [readTokens, if_neg (by simp [hline])]
  simp only [hscan, htake, bind, Except.bind, hclosed]
  rfl

/-- The tokens of a document are as many as it takes to its last one. -/
theorem Reads.readTokens_eq {b b' b'' : Building} {t t' rest : Text} (h : Reads d nested b t b' t')
    (hlast : Takes d nested b' t' b'' rest) (hclosed : b''.frames = []) :
    readTokens d nested 0 (t.length + 1) b t = .ok (b'', rest) := by
  obtain ⟨k, hk, hcount⟩ := h
  have hlength := hlast.2.1
  obtain ⟨count, hcount'⟩ : ∃ count, t.length + 1 = count + 1 + k := ⟨t.length - k, by omega⟩
  rw [hcount', hcount]
  exact hlast.readTokens_eq hclosed count

/-! ## Text -/

/-- Collects a text. -/
def Building.collect (b : Building) (t : Text) : Building :=
  { b with pending := t.reverse ++ b.pending }

theorem escapeText_cons (c : Char) (cs : Text) :
    escapeText (c :: cs) = writtenInText c ++ escapeText cs :=
  List.flatMap_cons

/-- No written text begins with the end of a tag. -/
theorem ne_of_escapeText_eq_cons {t rest more : Text} {c : Char}
    (h : escapeText t ++ '<' :: rest = c :: more) : c ≠ '>' := by
  cases t with
  | nil =>
      rw [← (List.cons.inj h).1]
      decide
  | cons e es =>
      rw [escapeText_cons] at h
      rcases writtenInText_cases e with ⟨heq, hmem⟩ | ⟨body, r, heq, -⟩
      · rw [heq] at h
        rw [← (List.cons.inj h).1]
        intro he
        simp [he] at hmem
      · rw [heq] at h
        rw [← (List.cons.inj h).1]
        decide

theorem not_sectionEnd (t rest more : Text) :
    escapeText t ++ '<' :: rest ≠ ']' :: '>' :: more := by
  intro h
  cases t with
  | nil => exact absurd (List.cons.inj h).1 (by decide)
  | cons e es =>
      rw [escapeText_cons] at h
      rcases writtenInText_cases e with ⟨heq, -⟩ | ⟨body, r, heq, -⟩
      · rw [heq] at h
        exact ne_of_escapeText_eq_cons (List.cons.inj h).2 rfl
      · rw [heq] at h
        exact absurd (List.cons.inj h).1 (by decide)

/-- A character of text is taken if a document may hold it. -/
theorem scanToken_character {c : Char} {rest : Text} (hmem : c ∉ ['&', '<', '>'])
    (hend : ∀ more, rest ≠ ']' :: '>' :: more) :
    scanToken (c :: rest) =
      ((checkChar (c :: rest)).mapError (Stop.complaint (c :: rest))).map
        fun _ => some (.character c, rest) := by
  simp only [List.mem_cons, List.not_mem_nil, or_false, not_or] at hmem
  unfold scanToken
  split
  · next h => exact absurd h (by simp)
  · next h => exact absurd (List.cons.inj h).1 hmem.2.1
  · next h => exact absurd (List.cons.inj h).1 hmem.1
  · next h => exact absurd (List.cons.inj h).2 (hend _)
  · next h =>
      obtain ⟨rfl, rfl⟩ := List.cons.inj h
      rfl

theorem takeToken_reference {b : Building} {r : Reference} {c : Char} (h : r.char? = some c)
    (start : Text) : takeToken d nested 0 b start (.reference r) = .ok (b.push c) := by
  cases r with
  | entity name =>
      have hname : predefined? name = some c := h
      simp only [takeToken, readReference, hname]
  | character r =>
      have hr : r = some c := h
      rw [hr]
      rfl

variable (d nested) in
/-- A written character is collected. -/
theorem reads_character {c : Char} (hc : isXmlChar c = true) (hline : c ≠ '\r') (cs rest : Text)
    {b : Building} (hb : b.frames ≠ []) :
    Reads d nested b (escapeText (c :: cs) ++ '<' :: rest) (b.push c)
      (escapeText cs ++ '<' :: rest) := by
  rw [escapeText_cons, List.append_assoc]
  rcases writtenInText_cases c with ⟨heq, hmem⟩ | ⟨body, r, heq, hbody⟩
  · have hscan := scanToken_character hmem
      (fun more => not_sectionEnd cs rest more)
    simp only [checkChar, hc, if_true] at hscan
    have htake : Takes d nested b (c :: (escapeText cs ++ '<' :: rest)) (b.push c)
        (escapeText cs ++ '<' :: rest) :=
      ⟨by simp [hline], by simp, _, hscan, rfl⟩
    rw [heq]
    exact htake.reads hb
  · have hscan : scanToken ('&' :: (body ++ (escapeText cs ++ '<' :: rest))) =
        .ok (some (.reference r, escapeText cs ++ '<' :: rest)) := by
      simp [scanToken, hbody.scan, Except.map, mapError_ok]
    have hlength : (escapeText cs ++ '<' :: rest).length <
        ('&' :: (body ++ (escapeText cs ++ '<' :: rest))).length := by
      simp only [List.length_cons, List.length_append]
      omega
    have htake : Takes d nested b ('&' :: (body ++ (escapeText cs ++ '<' :: rest))) (b.push c)
        (escapeText cs ++ '<' :: rest) :=
      ⟨by simp, hlength, _, hscan, takeToken_reference hbody.denotes _⟩
    rw [heq, List.cons_append]
    exact htake.reads hb

variable (d nested) in
/-- Written text is collected. -/
theorem reads_text {t : Text} (ht : Legal t) (hline : '\r' ∉ t) (rest : Text) {b : Building}
    (hb : b.frames ≠ []) :
    Reads d nested b (escapeText t ++ '<' :: rest) (b.collect t) ('<' :: rest) := by
  induction t generalizing b with
  | nil => exact Reads.refl b _
  | cons c cs ih =>
      obtain ⟨hc, hcs⟩ := legal_cons.mp ht
      simp only [List.mem_cons, not_or] at hline
      have hcollect : b.collect (c :: cs) = (b.push c).collect cs := by
        simp [Building.collect, Building.push]
      rw [hcollect]
      exact (reads_character d nested hc (Ne.symm hline.1) cs rest hb).trans
        (ih hcs hline.2 (b := b.push c) hb)

/-! ## Open elements -/

/-- The element with one more child. -/
def Element.addChild (e child : Element) : Element := { e with children := e.children ++ [child] }

theorem Element.addText_addChild (e child : Element) (t : Text) :
    (e.addChild child).addText t = e.addChild { child with tail := child.tail ++ t } := by
  simp [addText, addChild]

/-- A frame whose element holds one more child. -/
def Frame.addChild (f : Frame) (child : Element) : Frame :=
  { f with element := f.element.addChild child }

/-- The innermost element takes the collected text. -/
theorem flush_collect {t : Text} (ht : t ≠ []) (f : Frame) (fs : List Frame)
    (root : Option Element) :
    (Building.collect ⟨f :: fs, [], root⟩ t).flush =
      ⟨{ f with element := f.element.addText t } :: fs, [], root⟩ := by
  have hcollect : Building.collect ⟨f :: fs, [], root⟩ t = ⟨f :: fs, t.reverse, root⟩ := by
    simp [Building.collect]
  obtain ⟨c, cs, hr⟩ := List.exists_cons_of_ne_nil (mt List.reverse_eq_nil_iff.mp ht)
  rw [hcollect, hr]
  change Building.mk ({ f with element := f.element.addText (c :: cs).reverse } :: fs) [] root = _
  rw [← hr, List.reverse_reverse]

/-- Text that follows a child becomes the tail of the child. -/
theorem flush_collect_tail (f : Frame) (fs : List Frame) (root : Option Element) (e : Element)
    (t : Text) :
    (Building.collect ⟨f.addChild { e with tail := [] } :: fs, [], root⟩ t).flush =
      ⟨f.addChild { e with tail := t } :: fs, [], root⟩ := by
  cases t with
  | nil => rfl
  | cons c cs =>
      rw [flush_collect (List.cons_ne_nil c cs)]
      simp [Frame.addChild, Element.addText_addChild]

/-- Text in front of all children becomes the text of the element. -/
theorem flush_collect_text (raw : Text) (s : Scope) (fs : List Frame) (root : Option Element)
    (name : Name) (attributes : List Attribute) (t : Text) :
    (Building.collect ⟨⟨raw, s, { name, attributes }⟩ :: fs, [], root⟩ t).flush =
      ⟨⟨raw, s, { name, attributes, text := t }⟩ :: fs, [], root⟩ := by
  cases t with
  | nil => rfl
  | cons c cs => exact flush_collect (List.cons_ne_nil c cs) _ _ _

/-- Handing on the collected text leaves the open elements open. -/
theorem frames_of_flush {b : Building} {f : Frame} {fs : List Frame} {root : Option Element}
    (h : b.flush = ⟨f :: fs, [], root⟩) :
    ∃ g, b.frames = g :: fs ∧ g.raw = f.raw ∧ g.scope = f.scope := by
  unfold Building.flush at h
  split at h
  · exact ⟨f, by rw [h], rfl, rfl⟩
  · next hb => simp [h] at hb
  · next g gs hb _ =>
      simp only [Building.mk.injEq, List.cons.injEq] at h
      obtain ⟨⟨rfl, rfl⟩, -, -⟩ := h
      exact ⟨g, hb, rfl, rfl⟩

theorem scope_of_flush {b : Building} {f : Frame} {fs : List Frame} {root : Option Element}
    (h : b.flush = ⟨f :: fs, [], root⟩) : b.scope = f.scope := by
  obtain ⟨g, hframes, -, hscope⟩ := frames_of_flush h
  rw [Building.scope, hframes]
  exact hscope

/-- An opening tag opens its element inside the innermost open one. -/
theorem openElement_of_flush {b : Building} {frames : List Frame} {root : Option Element}
    (h : b.flush = ⟨frames, [], root⟩) (raw : Text) (e : Element) (s : Scope) :
    b.openElement raw false e s = ⟨⟨raw, s, e⟩ :: frames, [], root⟩ := by
  rw [Building.openElement, h]
  rfl

/-- The tag of an empty element hands it to the innermost open one. -/
theorem openElement_empty_of_flush {b : Building} {f : Frame} {fs : List Frame}
    {root : Option Element} (h : b.flush = ⟨f :: fs, [], root⟩) (raw : Text) (e : Element) (s : Scope) :
    b.openElement raw true e s = ⟨f.addChild e :: fs, [], root⟩ := by
  rw [Building.openElement, h]
  rfl

/-! ## Tags -/

/-- A closing tag. -/
def closingTag (raw : Text) : Text := '<' :: '/' :: (raw ++ ['>'])

theorem scanToken_closing {raw : Text} (h : Qualified raw) (rest : Text) :
    scanToken (closingTag raw ++ rest) = .ok (some (.closing raw, rest)) := by
  have hshape : closingTag raw ++ rest = '<' :: '/' :: (raw ++ '>' :: rest) := by simp [closingTag]
  rw [hshape]
  simp [scanToken, scanMarkup, scanClosing_append h, Except.map, mapError_ok]

/-- A bracket in front of a name opens a tag. -/
theorem scanToken_tag {raw : Text} (hraw : Qualified raw) (rest : Text) :
    scanToken ('<' :: (raw ++ rest)) =
      (((scanOpening (raw ++ rest)).mapError (Stop.complaint ('<' :: (raw ++ rest)))).map
        fun (tag, rest) => (Token.opening tag, rest)).map some := by
  obtain ⟨c, cs, rfl, hc⟩ := hraw.exists_cons
  rw [List.cons_append]
  generalize cs ++ rest = t
  have hmarkup : scanMarkup ('<' :: c :: t) (c :: t) =
      ((scanOpening (c :: t)).mapError (Stop.complaint ('<' :: c :: t))).map
        fun (tag, rest) => (Token.opening tag, rest) := by
    unfold scanMarkup
    split
    · next h => exact absurd (List.cons.inj h).1 (ne_of_isNameStart hc '/' (by decide))
    · next h => exact absurd (List.cons.inj h).1 (ne_of_isNameStart hc '?' (by decide))
    · next h => exact absurd (List.cons.inj h).1 (ne_of_isNameStart hc '!' (by decide))
    · next h => exact absurd (List.cons.inj h).1 (ne_of_isNameStart hc '!' (by decide))
    · next h => exact absurd (List.cons.inj h).1 (ne_of_isNameStart hc '!' (by decide))
    · rfl
  rw [scanToken, hmarkup]

theorem scanToken_opening {raw : Text} (hraw : Qualified raw) {pairs : List (Text × Text)}
    (hpairs : ∀ a ∈ pairs, Qualified a.1 ∧ Legal a.2) (closed : Bool) (rest : Text) :
    ∃ attributes,
      scanToken ('<' :: (raw ++ (writeAttributes pairs ++ (tagEnd closed ++ rest)))) =
        .ok (some (.opening ⟨raw, attributes, closed⟩, rest)) ∧
      rawPairs attributes = escapedPairs pairs := by
  obtain ⟨attributes, hscan, hvalues⟩ := scanOpening_written hraw hpairs closed rest
  refine ⟨attributes, ?_, hvalues⟩
  rw [scanToken_tag hraw, hscan]
  rfl

/-! ## Elements -/

/-- The attributes of an element under their raw names. -/
def Prefixes.writtenAttributes (p : Prefixes) (e : Element) : List (Text × Text) :=
  e.attributes.map fun a => (p.written a.1, a.2)

/-- What is written of an element between its attributes and its tail. -/
def writeInside (p : Prefixes) (e : Element) : Text :=
  if e.text = [] ∧ e.children.isEmpty then tagEnd true
  else
    tagEnd false ++ (escapeText e.text ++ (writeElements p e.children ++ closingTag (p.written e.name)))

theorem writeElement_append (p : Prefixes) (declarations : Text) (e : Element) (rest : Text) :
    writeElement p declarations e ++ rest =
      '<' :: (p.written e.name ++ (declarations ++ (writeAttributes (p.writtenAttributes e) ++
        (writeInside p e ++ (escapeText e.tail ++ rest))))) := by
  cases e with
  | mk name attributes text children tail =>
      rw [writeElement, writeInside]
      by_cases h : text = [] ∧ children.isEmpty
      · simp [h, tagEnd, writeAttributes, Prefixes.writtenAttributes, List.flatMap_map]
      · simp only [if_neg h]
        simp [tagEnd, writeAttributes, Prefixes.writtenAttributes, List.flatMap_map, closingTag]

/-- An element whose raw names stand for its names in a scope, and whose characters a document may
hold. -/
structure Element.FitsIn (s : Scope) (w : Name → Text) (e : Element) : Prop where
  name : Resolves s e.name (w e.name)
  attributes : ∀ a ∈ e.attributes, Resolves s a.1 (w a.1) ∧ a.1 ≠ ⟨[], xmlnsName⟩
  distinct : (e.attributes.map (·.1)).Nodup
  values : ∀ a ∈ e.attributes, Legal a.2
  text : Legal e.text ∧ '\r' ∉ e.text
  tail : Legal e.tail ∧ '\r' ∉ e.tail

theorem Element.FitsIn.pairs {s : Scope} {p : Prefixes} {e : Element} (h : e.FitsIn s p.written) :
    ∀ a ∈ p.writtenAttributes e, Qualified a.1 ∧ Legal a.2 := by
  intro a ha
  obtain ⟨b, hb, rfl⟩ := List.mem_map.mp ha
  exact ⟨(h.attributes b hb).1.qualified, h.values b hb⟩

variable {s : Scope} {p : Prefixes}

variable (d nested) in
/-- An opening tag opens its element, or places an empty one. -/
theorem takes_opening (hd : d.attributes = []) (hnone : s.spaceOf? [] = none) {e : Element}
    (he : e.FitsIn s p.written) (bindings : Prefixes)
    (hbindings : ∀ b ∈ bindings, bindingFault? b.2 b.1 = none ∧ Qualified (bindingName b.2) ∧ Legal b.1)
    (hlabels : (bindings.map (·.2)).Nodup) (closed : Bool) (rest : Text) {b : Building}
    (hs : s = (bindings.map fun q => (q.2, q.1)).reverse ++ b.scope) :
    Takes d nested b
      ('<' :: (p.written e.name ++ (writeAttributes (bindings.map fun q => (bindingName q.2, q.1)) ++
        (writeAttributes (p.writtenAttributes e) ++ (tagEnd closed ++ rest)))))
      (b.openElement (p.written e.name) closed { name := e.name, attributes := e.attributes } s)
      rest := by
  have hpairs : ∀ a ∈ (bindings.map fun q => (bindingName q.2, q.1)) ++ p.writtenAttributes e,
      Qualified a.1 ∧ Legal a.2 := by
    intro a ha
    rcases List.mem_append.mp ha with ha | ha
    · obtain ⟨q, hq, rfl⟩ := List.mem_map.mp ha
      exact (hbindings q hq).2
    · exact he.pairs a ha
  have hjoin : writeAttributes (bindings.map fun q => (bindingName q.2, q.1)) ++
      (writeAttributes (p.writtenAttributes e) ++ (tagEnd closed ++ rest)) =
        writeAttributes ((bindings.map fun q => (bindingName q.2, q.1)) ++ p.writtenAttributes e) ++
          (tagEnd closed ++ rest) := by
    simp [writeAttributes]
  rw [hjoin]
  obtain ⟨given, hscan, hgiven⟩ := scanToken_opening he.name.qualified hpairs closed rest
  have hresolve := fun start => resolveTag_eq hd b.scope start closed hs hgiven
    (fun q hq => (hbindings q hq).1) hlabels hnone he.name he.attributes he.distinct
  refine ⟨by simp, ?_, _, hscan, ?_⟩
  · simp only [List.length_cons, List.length_append]
    omega
  · simp only [takeToken, hresolve, bind, Except.bind]
    rfl

variable (d nested) in
/-- A closing tag hands its element to what is around it. -/
theorem takes_closing {raw : Text} (hraw : Qualified raw) (inner : Scope) (e : Element)
    (fs : List Frame) (root : Option Element) (rest : Text) {b : Building}
    (hb : b.flush = ⟨⟨raw, inner, e⟩ :: fs, [], root⟩) :
    Takes d nested b (closingTag raw ++ rest) (Building.place ⟨fs, [], root⟩ e) rest := by
  obtain ⟨g, hframes, hg, -⟩ := frames_of_flush hb
  have hclose : b.closeElement = Building.place ⟨fs, [], root⟩ e := by
    simp only [Building.closeElement, hb]
  refine ⟨by simp [closingTag], ?_, _, scanToken_closing hraw rest, ?_⟩
  · simp only [closingTag, List.length_append, List.length_cons]
    omega
  · simp [takeToken, hframes, hg, hclose]

/-- A frame whose element holds more children. -/
def Frame.addChildren (f : Frame) (children : List Element) : Frame :=
  { f with element := { f.element with children := f.element.children ++ children } }

theorem Frame.addChildren_nil (f : Frame) : f.addChildren [] = f := by
  simp [addChildren, Element.mk_fields]

theorem exists_writeElements_append (es : List Element) (rest : Text) :
    ∃ more, writeElements p es ++ '<' :: rest = '<' :: more := by
  cases es with
  | nil => exact ⟨rest, rfl⟩
  | cons e es => exact ⟨_, by rw [writeElements, List.append_assoc, writeElement_append]⟩

/-- Reading the element gives it back as a child of the innermost open element. -/
def ReadsBack (d : Dtd) (nested : Text → Text → Building → Except Complaint Building) (s : Scope)
    (p : Prefixes) (e : Element) : Prop :=
  ∀ (rest : Text) (b : Building) (f : Frame) (fs : List Frame) (root : Option Element),
    f.scope = s → b.flush = ⟨f :: fs, [], root⟩ →
      ∃ b', Reads d nested b (writeElement p [] e ++ '<' :: rest) b' ('<' :: rest) ∧
        b'.flush = ⟨f.addChild e :: fs, [], root⟩

theorem reads_elements {es : List Element} (h : ∀ e ∈ es, ReadsBack d nested s p e) (rest : Text)
    {b : Building} {f : Frame} {fs : List Frame} {root : Option Element} (hf : f.scope = s)
    (hb : b.flush = ⟨f :: fs, [], root⟩) :
    ∃ b', Reads d nested b (writeElements p es ++ '<' :: rest) b' ('<' :: rest) ∧
      b'.flush = ⟨f.addChildren es :: fs, [], root⟩ := by
  induction es generalizing b f with
  | nil => exact ⟨b, Reads.refl b _, by rw [hb, Frame.addChildren_nil]⟩
  | cons e es ih =>
      obtain ⟨more, hmore⟩ := exists_writeElements_append (p := p) es rest
      obtain ⟨b₁, hfirst, hb₁⟩ := h e List.mem_cons_self more b f fs root hf hb
      obtain ⟨b₂, hothers, hb₂⟩ := ih (fun e' he' => h e' (List.mem_cons_of_mem e he'))
        (f := f.addChild e) hf hb₁
      refine ⟨b₂, ?_, ?_⟩
      · rw [writeElements, List.append_assoc, hmore]
        rw [hmore] at hothers
        exact hfirst.trans hothers
      · rw [hb₂]
        simp [Frame.addChildren, Frame.addChild, Element.addChild]

variable (d nested) in
/-- The text and the children of an element are read inside its tags. -/
theorem reads_inside {e : Element} (htext : Legal e.text ∧ '\r' ∉ e.text)
    (hchildren : ∀ c ∈ e.children, ReadsBack d nested s p c) (raw : Text) (fs : List Frame)
    (root : Option Element) (rest : Text) :
    ∃ b', Reads d nested
        ⟨⟨raw, s, { name := e.name, attributes := e.attributes }⟩ :: fs, [], root⟩
        (escapeText e.text ++ (writeElements p e.children ++ (closingTag raw ++ rest))) b'
        (closingTag raw ++ rest) ∧
      b'.flush = ⟨⟨raw, s, { e with tail := [] }⟩ :: fs, [], root⟩ := by
  obtain ⟨more, hmore⟩ := exists_writeElements_append (p := p) e.children
    ('/' :: (raw ++ ['>']) ++ rest)
  have hread := reads_text d nested htext.1 htext.2 more
    (b := ⟨⟨raw, s, { name := e.name, attributes := e.attributes }⟩ :: fs, [], root⟩) (by simp)
  have hopen := flush_collect_text raw s fs root e.name e.attributes e.text
  obtain ⟨b', hinner, hb'⟩ := reads_elements hchildren ('/' :: (raw ++ ['>']) ++ rest) rfl hopen
  rw [hmore] at hinner
  refine ⟨b', ?_, ?_⟩
  · change Reads d nested _ (escapeText e.text ++ (writeElements p e.children ++
      ('<' :: ('/' :: (raw ++ ['>']) ++ rest)))) b' ('<' :: ('/' :: (raw ++ ['>']) ++ rest))
    rw [hmore]
    exact hread.trans hinner
  · rw [hb']
    simp [Frame.addChildren]

variable (d nested) in
/-- A written element is read back where all names in it stand for what they are. -/
theorem readsBack_of_fits (hd : d.attributes = []) (hnone : s.spaceOf? [] = none) (e : Element)
    (h : ∀ x ∈ e.elements, x.FitsIn s p.written) : ReadsBack d nested s p e := by
  induction e using Element.induction with
  | step e ih =>
      intro rest b f fs root hf hb
      obtain ⟨he, hchildren⟩ := Element.forall_mem_elements_iff.mp h
      have hs : b.scope = s := (scope_of_flush hb).trans hf
      have hopening := fun closed rest => takes_opening d nested hd hnone he [] (by simp)
        (by simp) closed rest (b := b) (by simp [hs])
      have htail := reads_text d nested he.tail.1 he.tail.2 rest
        (b := ⟨f.addChild { e with tail := [] } :: fs, [], root⟩) (by simp)
      refine ⟨Building.collect ⟨f.addChild { e with tail := [] } :: fs, [], root⟩ e.tail, ?_,
        by rw [flush_collect_tail, Element.mk_fields]⟩
      refine Reads.trans ?_ htail
      rw [writeElement_append, List.nil_append, writeInside]
      by_cases hempty : e.text = [] ∧ e.children.isEmpty
      · have hstart := hopening true (escapeText e.tail ++ '<' :: rest)
        have hbare : { name := e.name, attributes := e.attributes } = { e with tail := [] } := by
          rw [hempty.1, List.isEmpty_iff.mp hempty.2]
        rw [openElement_empty_of_flush hb, hbare] at hstart
        rw [if_pos hempty]
        exact hstart.reads (by simp)
      · obtain ⟨b', hinside, hb'⟩ := reads_inside d nested he.text
          (fun c hc => ih c hc (hchildren c hc)) (p.written e.name) (f :: fs) root
          (escapeText e.tail ++ '<' :: rest)
        have hstart := hopening false (escapeText e.text ++ (writeElements p e.children ++
          (closingTag (p.written e.name) ++ (escapeText e.tail ++ '<' :: rest))))
        have hend := takes_closing d nested he.name.qualified s
          { e with tail := [] } (f :: fs) root (escapeText e.tail ++ '<' :: rest) hb'
        rw [openElement_of_flush hb] at hstart
        rw [if_neg hempty]
        simp only [List.append_assoc]
        exact ((hstart.reads (by simp)).trans hinside).trans (hend.reads (by simp [Building.place]))

end SourceAtlas.Xml
