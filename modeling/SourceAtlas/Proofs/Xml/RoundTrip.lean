import SourceAtlas.Proofs.Xml.Documents

/-!
# The round trip of a document

An element can be written when its names are names, the name spaces in it can be bound, and its
characters may stand in a document.  The document of such an element is read as the element with
uniform line ends, hence as the element itself when no text in it holds a carriage return.
-/

namespace SourceAtlas.Xml

open Text

/-- An element that is given a tag: all that can go wrong with its names is that an attribute has a
local name that is none. -/
structure Element.Named (e : Element) : Prop where
  name : isName e.name.localName = true
  plain : ∀ a ∈ e.attributes, a.1.space = [] → isName a.1.localName = true ∧ a.1.localName ≠ xmlnsName
  characters : ∀ a ∈ e.attributes, ∀ c ∈ a.1.localName, isClosingNameChar c = true
  distinct : (e.attributes.map (·.1)).Nodup
  spaces : ∀ n ∈ e.ownNames, Bindable n.space

/-- An element that can be written, its children apart. -/
structure Element.Writable (e : Element) : Prop extends e.Named where
  attributeNames : ∀ a ∈ e.attributes, isName a.1.localName = true
  values : ∀ a ∈ e.attributes, Legal a.2
  text : Legal e.text
  tail : Legal e.tail

namespace Element

theorem Named.attribute_ne {e : Element} (h : e.Named) :
    ∀ a ∈ e.attributes, a.1 ≠ ⟨[], xmlnsName⟩ := by
  intro a ha heq
  have hlocal := (h.plain a ha (by rw [heq])).2
  rw [heq] at hlocal
  exact hlocal rfl

/-- The name and the attributes of an element decide what tag it can be given. -/
theorem Named.congr {e e' : Element} (h : e.Named) (hname : e'.name = e.name)
    (hattributes : e'.attributes = e.attributes) : e'.Named := by
  have hown : e'.ownNames = e.ownNames := by rw [ownNames, ownNames, hname, hattributes]
  exact
    { name := hname ▸ h.name
      plain := hattributes ▸ h.plain
      characters := hattributes ▸ h.characters
      distinct := hattributes ▸ h.distinct
      spaces := hown ▸ h.spaces }

theorem covers_ofDocument {root x : Element} (hx : x ∈ root.elements) {n : Name}
    (hn : n ∈ x.ownNames) : (Prefixes.ofDocument root).Covers n := by
  rw [Prefixes.ofDocument_eq]
  exact (Prefixes.foldl_add _ Prefixes.assigned_nil).2.1 n
    (.inr (List.mem_flatMap.mpr ⟨x, hx, hn⟩))

theorem assigned_ofDocument (root : Element) : (Prefixes.ofDocument root).Assigned := by
  rw [Prefixes.ofDocument_eq]
  exact (Prefixes.foldl_add _ Prefixes.assigned_nil).1

section Documents

variable {root : Element} (h : ∀ x ∈ root.elements, x.Named)

include h

theorem bindable_ofDocument : ∀ q ∈ Prefixes.ofDocument root, Bindable q.1 := by
  intro q hq
  rw [Prefixes.ofDocument_eq] at hq
  rcases (Prefixes.foldl_add _ Prefixes.assigned_nil).2.2 q hq with hq | ⟨n, hn, hspace⟩
  · simp at hq
  · obtain ⟨x, hx, hn⟩ := List.mem_flatMap.mp hn
    rw [← hspace]
    exact (h x hx).spaces n hn

theorem plainlyNamed_ofDocument :
    ∀ x ∈ root.elements, x.PlainlyNamed (Prefixes.ofDocument root) := by
  intro x hx n hn
  apply (assigned_ofDocument root).isClosingNameChar_written (covers_ofDocument hx hn)
  rcases List.mem_cons.mp hn with rfl | hn
  · exact isClosingNameChar_of_isName (h x hx).name
  · obtain ⟨a, ha, rfl⟩ := List.mem_map.mp hn
    exact (h x hx).characters a ha

end Documents

end Element

/-! ## Reading -/

/-- A document after its first line, with the line ends around its element. -/
def bodyOf (p : Prefixes) (root : Element) : Text :=
  '\n' :: (writeHead p (writePrefixes p) root ++ ['\n'])

theorem write_eq {root : Element} (htail : root.tail = []) :
    root.write ++ ['\n'] = declarationMark ++ bodyOf (Prefixes.ofDocument root) root := by
  rw [Element.write, writeElement_eq, htail, declarationLine_eq, bodyOf]
  simp [escapeText]

section Reading

variable {root : Element} (h : ∀ x ∈ root.elements, x.Named)

include h

/-- A reader sees the document of the seen element. -/
theorem normalizeLines_bodyOf :
    normalizeLines ((bodyOf (Prefixes.ofDocument root) root).map readBack) =
      bodyOf (Prefixes.ofDocument root) root.seen := by
  have hp := Element.assigned_ofDocument root
  have hb := Element.bindable_ofDocument h
  have hlegal : ∀ a ∈ (Prefixes.ofDocument root).declarations,
      (∀ c ∈ a.1, isClosingNameChar c = true) ∧ Legal a.2 := by
    intro a ha
    obtain ⟨q, hq, rfl⟩ := List.mem_map.mp ha
    obtain ⟨-, hname, hspace⟩ := hp.binds hb hq
    exact ⟨hname.isClosingNameChar, hspace⟩
  have hprefixes : SeenAs (writePrefixes (Prefixes.ofDocument root))
      (writePrefixes (Prefixes.ofDocument root)) := by
    have hsame : (Prefixes.ofDocument root).declarations.map (fun a => (a.1, a.2.map readBack)) =
        (Prefixes.ofDocument root).declarations := by
      rw [List.map_congr_left fun a ha => by rw [map_readBack_eq_self (hlegal a ha).2]]
      exact List.map_id' _
    have hseen := seenAs_attributes fun a ha => (hlegal a ha).1
    rw [hsame] at hseen
    rwa [writePrefixes_eq]
  have hline : SeenAs ['\n'] ['\n'] := seenAs_self (by decide) (by decide)
  have hhead := seenAs_head root (Element.plainlyNamed_ofDocument h) hprefixes
  have hall := hline.append (hhead.append hline) []
  simpa [bodyOf, normalizeLines] using hall

/-- What is read of a written document is what is read of its element. -/
theorem read_write_eq (htail : root.tail = []) :
    ∃ whole, read (Utf8.encode (root.write ++ ['\n'])) = (do
      let (e, rest) ← readElement {} (writeHead (Prefixes.ofDocument root)
        (writePrefixes (Prefixes.ofDocument root)) root.seen ++ ['\n'])
      readEnd false (rest.length + 1) rest
      return e : Except Complaint Element).mapError fun c => .malformed (c.message whole) := by
  have hp := Element.assigned_ofDocument root
  have hself := Element.self_mem_elements root
  have hname : Qualified ((Prefixes.ofDocument root).written root.name) :=
    (hp.resolves_written (h root hself).name
      (Element.covers_ofDocument hself List.mem_cons_self)).qualified
  obtain ⟨c, cs, hraw, hc⟩ := hname.exists_cons
  obtain ⟨whole, hread⟩ := read_declarationMark (bodyOf (Prefixes.ofDocument root) root)
  refine ⟨whole, ?_⟩
  rw [write_eq htail, hread, readBody_written hc
    ((normalizeLines_bodyOf h).trans (by rw [bodyOf, writeHead, Element.seen_name, hraw]; rfl))]
  rw [writeHead, Element.seen_name, hraw]
  rfl

end Reading

namespace Element

/-- A writable element fits in the scope of the root element of its document. -/
theorem Writable.fitsIn {root x : Element} (h : x.Writable) (hx : x ∈ root.elements) :
    x.seen.FitsIn (rootScope (Prefixes.ofDocument root)) (Prefixes.ofDocument root).written := by
  have hp := assigned_ofDocument root
  refine ⟨?_, ?_, ?_, ?_, ?_, ?_⟩
  · rw [seen_name]
    exact hp.resolves_written h.name (covers_ofDocument hx List.mem_cons_self)
  · intro a ha
    rw [seen_attributes] at ha
    obtain ⟨b, hb, rfl⟩ := List.mem_map.mp ha
    have hown : b.1 ∈ x.ownNames := List.mem_cons_of_mem _ (List.mem_map.mpr ⟨b, hb, rfl⟩)
    exact ⟨hp.resolves_written (h.attributeNames b hb) (covers_ofDocument hx hown),
      h.attribute_ne b hb⟩
  · rw [seen_attributes, List.map_map]
    exact h.distinct
  · intro a ha
    rw [seen_attributes] at ha
    obtain ⟨b, hb, rfl⟩ := List.mem_map.mp ha
    exact legal_map_readBack.mpr (h.values b hb)
  · rw [seen_text]
    exact ⟨legal_unifyLines.mpr (legal_map_readBack.mpr h.text), not_mem_unifyLines _⟩
  · rw [seen_tail]
    exact ⟨legal_unifyLines.mpr (legal_map_readBack.mpr h.tail), not_mem_unifyLines _⟩

end Element

/-- The document of an element that can be written is read as the element with uniform line ends. -/
theorem read_write {root : Element} (h : ∀ x ∈ root.elements, x.Writable) (htail : root.tail = []) :
    read (Utf8.encode (root.write ++ ['\n'])) = .ok root.seen := by
  have hnamed : ∀ x ∈ root.elements, x.Named := fun x hx => (h x hx).toNamed
  have hfits : ∀ x ∈ root.seen.elements, x.FitsIn (rootScope (Prefixes.ofDocument root))
      (Prefixes.ofDocument root).written := by
    intro x hx
    rw [Element.elements_seen] at hx
    obtain ⟨y, hy, rfl⟩ := List.mem_map.mp hx
    exact (h y hy).fitsIn hy
  have hself : ({ root.seen with tail := [] } : Element) = root.seen := by
    rw [← Element.mk_fields root.seen, Element.seen_tail, htail]
    rfl
  obtain ⟨whole, hread⟩ := read_write_eq hnamed htail
  rw [hread, readElement_written (Element.assigned_ofDocument root)
    (Element.bindable_ofDocument hnamed) hfits, hself]
  rfl

/-! ## Documents without carriage returns -/

theorem seenText_eq_self {t : Text} (h : Legal t) (hline : '\r' ∉ t) : seenText t = t := by
  rw [seenText, map_readBack_eq_self h, unifyLines_eq_self hline]

theorem Element.Writable.seen_attributes {e : Element} (h : e.Writable) :
    e.seen.attributes = e.attributes := by
  rw [Element.seen_attributes, List.map_congr_left fun a ha => by
    rw [map_readBack_eq_self (h.values a ha)]]
  exact List.map_id' _

/-- An element is seen as it is if it can be written and no text in it holds a carriage return. -/
theorem Element.seen_eq_self {e : Element} (h : ∀ x ∈ e.elements, x.Writable)
    (hline : ∀ x ∈ e.elements, '\r' ∉ x.text ∧ '\r' ∉ x.tail) : e.seen = e := by
  induction e using Element.induction with
  | step e ih =>
      obtain ⟨hself, hchildren⟩ := forall_mem_elements_iff.mp h
      obtain ⟨hline, hlines⟩ := forall_mem_elements_iff.mp hline
      have hinner : e.children.map seen = e.children := by
        rw [List.map_congr_left fun c hc => ih c hc (hchildren c hc) (hlines c hc)]
        exact List.map_id' _
      rw [← mk_fields e.seen, seen_name, hself.seen_attributes, seen_text, seen_children, seen_tail,
        hinner, seenText_eq_self hself.text hline.1, seenText_eq_self hself.tail hline.2,
        mk_fields]

end SourceAtlas.Xml
