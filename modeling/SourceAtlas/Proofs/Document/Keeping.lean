import SourceAtlas.Proofs.Document.Repetition
import SourceAtlas.Proofs.Xml.Alike

/-!
# What is kept of an element that is taken over

A document that is described over an earlier one holds the elements that it takes over as they were
read: laying it out replaces white space by white space, also in elements that stand at several places.
Only a carriage return in a text is lost, since a text is written with it and read without.
-/

namespace SourceAtlas

open Text Xml

/-! ## Texts -/

/-- The same text, or white space in place of white space. -/
def SameText (t u : Text) : Prop := u = t ∨ allBlank t = true ∧ allBlank u = true

/-- The text with uniform line ends, or white space in place of white space. -/
def KeptText (t u : Text) : Prop := u = unifyLines t ∨ allBlank t = true ∧ allBlank u = true

/-- A text that is kept as it is: white space, or one without carriage returns. -/
def IsLasting (t : Text) : Prop := allBlank t = true ∨ '\r' ∉ t

theorem sameText_settle (level : Nat) (t : Text) : SameText t (settle (lineAt level) t) := by
  rw [settle]
  split
  · next hblank => exact .inr ⟨hblank, Element.allBlank_lineAt level⟩
  · exact .inl rfl

theorem allBlank_unifyLines (t : Text) : allBlank (unifyLines t) = allBlank t := by
  fun_induction unifyLines t with
  | case1 => rfl
  | case2 cs ih =>
      simp only [allBlank, List.all_cons] at ih ⊢
      rw [ih, show isBlank '\r' = true by decide, Bool.true_and]
  | case3 c cs hnext ih =>
      simp only [allBlank, List.all_cons] at ih ⊢
      rw [ih]
      split
      · next hc =>
          rw [hc]
          rfl
      · rfl

theorem SameText.keptText {t u v : Text} (h : SameText t u) (hv : v = unifyLines u) : KeptText t v := by
  subst hv
  obtain rfl | ⟨ht, hu⟩ := h
  · exact .inl rfl
  · exact .inr ⟨ht, by rwa [allBlank_unifyLines]⟩

theorem KeptText.sameText_iff {t u : Text} (h : KeptText t u) : SameText t u ↔ IsLasting t := by
  constructor
  · rintro (rfl | ⟨ht, -⟩)
    · obtain hsame | ⟨ht, -⟩ := h
      · right
        rw [hsame]
        exact not_mem_unifyLines u
      · exact .inl ht
    · exact .inl ht
  · intro hlasting
    obtain rfl | hblank := h
    · obtain ht | hline := hlasting
      · exact .inr ⟨ht, by rwa [allBlank_unifyLines]⟩
      · exact .inl (unifyLines_eq_self hline)
    · exact .inr hblank

/-! ## Indenting -/

namespace Xml.Element

theorem forall₂_indentChildren {es : List Element}
    (h : ∀ e ∈ es, ∀ level, e.Alike SameText (indentInside level e)) (level : Nat) :
    List.Forall₂ (Alike SameText) es (indentChildren level es) := by
  induction es with
  | nil => exact .nil
  | cons e es ih =>
      rw [indentChildren]
      refine .cons ?_ (ih fun c hc => h c (List.mem_cons_of_mem e hc))
      obtain ⟨hname, hattributes, htext, -, hchildren⟩ := h e List.mem_cons_self (level + 1)
      refine .intro hname hattributes htext ?_ hchildren
      rw [indentInside_tail]
      exact sameText_settle _ e.tail

/-- Indenting changes white space only. -/
theorem alike_indentInside (level : Nat) (e : Element) : e.Alike SameText (indentInside level e) := by
  induction e using Element.induction generalizing level with
  | step e ih =>
      refine .intro (indentInside_name level e) (indentInside_attributes level e) ?_ ?_ ?_
      · rw [indentInside_text]
        split
        · exact .inl rfl
        · exact sameText_settle _ e.text
      · rw [indentInside_tail]
        exact .inl rfl
      · rw [indentInside_children]
        exact forall₂_indentChildren ih level

end Xml.Element

/-! ## Sharing white space -/

section Spaces

variable {old : Element} {spaces : Address → Option (Text × Text)}

theorem forall₂_setSpacesFrom {R : Element → Element → Prop} {place : Address} {es es' : List Element}
    {n : Nat} (hlength : es.length = es'.length)
    (h : ∀ i c c', es[i]? = some c → es'[i]? = some c' →
      R c (setSpaces spaces (place ++ [n + i]) c')) :
    List.Forall₂ R es (setSpacesFrom spaces place n es') := by
  induction es' generalizing es n with
  | nil =>
      obtain rfl := List.length_eq_zero_iff.mp hlength
      exact .nil
  | cons e' es' ih =>
      obtain ⟨e, es, rfl⟩ := List.exists_cons_of_length_eq_add_one hlength
      refine .cons (h 0 e e' rfl rfl) (ih (by simpa using hlength) fun i c c' hc hc' => ?_)
      rw [show n + 1 + i = n + (i + 1) by omega]
      exact h (i + 1) c c' hc hc'

/-- Setting white space in place of white space changes nothing else. -/
theorem alike_setSpaces
    (hspaces : ∀ place x t u, old.at? place = some x → spaces place = some (t, u) →
      SameText x.text t ∧ SameText x.tail u)
    {place : Address} {e e' : Element} (hat : old.at? place = some e) (h : e.Alike SameText e') :
    e.Alike SameText (setSpaces spaces place e') := by
  induction e using Element.induction generalizing place e' with
  | step e ih =>
      obtain ⟨hname, hattributes, htext, htail, hchildren⟩ := h
      obtain ⟨hlength, halike⟩ := List.forall₂_iff_get.mp hchildren
      have hset : SameText e.text ((spaces place).getD (e'.text, e'.tail)).1 ∧
          SameText e.tail ((spaces place).getD (e'.text, e'.tail)).2 := by
        cases hfound : spaces place with
        | none => exact ⟨htext, htail⟩
        | some found => exact hspaces place e found.1 found.2 hat hfound
      rw [setSpaces_eq]
      refine .intro hname hattributes hset.1 hset.2 (forall₂_setSpacesFrom hlength ?_)
      intro i c c' hc hc'
      obtain ⟨hi, rfl⟩ := List.getElem?_eq_some_iff.mp hc
      obtain ⟨hi', rfl⟩ := List.getElem?_eq_some_iff.mp hc'
      refine ih _ (List.getElem_mem hi) ?_ (halike i hi hi')
      rw [Element.at?_append, hat, Option.bind_some, Nat.zero_add, Element.at?, hc]
      rfl

/-- The white space at a place is that of an element which was taken over from there. -/
theorem sameText_of_lastSpaces? {items : List Item}
    (hitems : ∀ item ∈ items, ∀ place, item.origin = some place →
      ∃ e, old.at? place = some e ∧ e.Alike SameText item.element)
    {place : Address} {x : Element} {t u : Text} (hat : old.at? place = some x)
    (h : lastSpaces? items place = some (t, u)) : SameText x.text t ∧ SameText x.tail u := by
  obtain ⟨item, hitem, hfound⟩ := List.exists_of_findSome?_eq_some h
  obtain ⟨origin, horigin, hfound⟩ := Option.bind_eq_some_iff.mp hfound
  split at hfound
  · next hprefix =>
      obtain ⟨inner, rfl⟩ := List.isPrefixOf_iff_prefix.mp hprefix
      rw [List.drop_left] at hfound
      obtain ⟨x', hx', hspaces⟩ := Option.bind_eq_some_iff.mp hfound
      obtain ⟨rfl, rfl⟩ := Prod.mk.inj (Option.some.inj hspaces)
      obtain ⟨e, he, halike⟩ := hitems item (List.mem_reverse.mp hitem) origin horigin
      obtain ⟨y, hy, -, -, htext, htail, -⟩ := halike.at? hx'
      rw [Element.at?_append, he, Option.bind_some, hy] at hat
      obtain rfl := Option.some.inj hat
      exact ⟨htext, htail⟩
  · cases hfound

end Spaces

/-- An item with its element indented. -/
structure Item.Indents (item item' : Item) : Prop where
  origin : item'.origin = item.origin
  element : item.element.Alike SameText item'.element

theorem indents_indentedItems (items : List Item) :
    List.Forall₂ Item.Indents items (indentedItems items) := by
  have hzip : ∀ {items : List Item} {es : List Element},
      List.Forall₂ (fun item e => item.element.Alike SameText e) items es →
        List.Forall₂ Item.Indents items
          ((items.zip es).map fun p => { p.1 with element := p.2 }) := by
    intro items es h
    induction h with
    | nil => exact .nil
    | cons halike _ ih => exact .cons ⟨rfl, halike⟩ ih
  refine hzip (List.forall₂_map_left_iff.mp ?_)
  exact Element.forall₂_indentChildren (fun e _ level => Element.alike_indentInside level e) 0

/-- In a document, an element that was taken over changes in white space only. -/
theorem exists_alike_indentItems {old : Element} (root : Element) {items : List Item}
    (hitems : ∀ item ∈ items, ∀ place, item.origin = some place → old.at? place = some item.element)
    {i : Nat} {item : Item} (hi : items[i]? = some item) {place : Address}
    (horigin : item.origin = some place) :
    ∃ c, (indentItems root items).children[i]? = some c ∧ item.element.Alike SameText c := by
  obtain ⟨hlength, hindents⟩ := List.forall₂_iff_get.mp (indents_indentedItems items)
  have hplaced : ∀ item' ∈ indentedItems items, ∀ place, item'.origin = some place →
      ∃ e, old.at? place = some e ∧ e.Alike SameText item'.element := by
    intro item' hitem' place horigin
    obtain ⟨⟨j, hj⟩, rfl⟩ := List.get_of_mem hitem'
    have hj' : j < items.length := hlength ▸ hj
    obtain ⟨hsame, halike⟩ := hindents j hj' hj
    exact ⟨_, hitems _ (List.get_mem items ⟨j, hj'⟩) place (hsame ▸ horigin), halike⟩
  obtain ⟨hi', rfl⟩ := List.getElem?_eq_some_iff.mp hi
  have hindented : i < (indentedItems items).length := hlength ▸ hi'
  obtain ⟨hsame, halike⟩ := hindents i hi' hindented
  have horigin' : ((indentedItems items)[i]).origin = some place := hsame.trans horigin
  refine ⟨setSpaces (lastSpaces? (indentedItems items)) place (indentedItems items)[i].element, ?_, ?_⟩
  · rw [indentItems_eq]
    dsimp only
    rw [shareSpaces, List.getElem?_map, List.getElem?_eq_getElem hindented, Option.map_some]
    simp only [horigin']
  · have hspaces : ∀ q x t u, old.at? q = some x →
        lastSpaces? (indentedItems items) q = some (t, u) →
          SameText x.text t ∧ SameText x.tail u :=
      fun q x t u hat hfound => sameText_of_lastSpaces? hplaced hat hfound
    exact alike_setSpaces hspaces (hitems _ (List.getElem_mem hi') place horigin) halike

/-! ## Describing -/

/-- The element of a file in a document: the last one that gives its path, if it also gives its
digest. -/
structure Previous.IsLatest (root : Element) (path digest : Text) (e : Element) : Prop where
  name : e.name = fileName
  pathOf : Previous.pathOf e = path
  digest : e.attribute? hashKey = some digest
  last : ∃ before after, root.elements = before ++ e :: after ∧
    ∀ x ∈ after, x.name = fileName → Previous.pathOf x ≠ path

/-- The element that is taken over is the last one of the file. -/
theorem Previous.isLatest_iff {root e : Element} {path digest : Text} :
    IsLatest root path digest e ↔
      ∃ place, (ofDocument root).unchanged? path digest = some (place, e) := by
  constructor
  · rintro ⟨hname, hpath, hdigest, before, after, helements, hafter⟩
    obtain ⟨places, places', hplaces, -, hrest⟩ := List.map_eq_append_iff.mp helements
    obtain ⟨⟨place, e'⟩, later, rfl, rfl, rfl⟩ := List.map_eq_cons_iff.mp hrest
    have hfind : (ofDocument root).find? path = some (place, e') := by
      rw [find?, ofDocument, hplaces, List.filter_append,
        List.filter_cons_of_pos (by simpa using hname), List.reverse_append, List.reverse_cons,
        List.append_assoc, List.find?_append, List.find?_eq_none.mpr, Option.none_or,
        List.singleton_append, List.find?_cons_of_pos (by simpa using hpath)]
      intro entry hentry
      obtain ⟨hmem, hname⟩ := List.mem_filter.mp (List.mem_reverse.mp hentry)
      simpa using hafter entry.2 (List.mem_map_of_mem hmem) (by simpa using hname)
    refine ⟨place, ?_⟩
    rw [unchanged?, hfind]
    exact if_pos hdigest
  · rintro ⟨place, h⟩
    obtain ⟨hmem, hpath, hdigest⟩ := Describer.of_unchanged? h
    have hname : e.name = fileName := by simpa using (List.mem_filter.mp hmem).2
    refine ⟨hname, hpath, hdigest, ?_⟩
    have hfind : (ofDocument root).find? path = some (place, e) := by
      rw [unchanged?] at h
      split at h
      · next hfound =>
          split at h
          · rw [hfound, Option.some.inj h]
          · cases h
      · cases h
    obtain ⟨-, later, earlier, hsplit, hlater⟩ := List.find?_eq_some_iff_append.mp hfind
    rw [List.reverse_eq_iff, List.reverse_append, List.reverse_cons, List.append_assoc,
      List.singleton_append] at hsplit
    obtain ⟨places, rest, hplaces, -, hrest⟩ := List.filter_eq_append_iff.mp hsplit
    obtain ⟨skipped, after, rfl, -, -, hafter⟩ := List.filter_eq_cons_iff.mp hrest
    refine ⟨(places ++ skipped).map (·.2), after.map (·.2), ?_, ?_⟩
    · rw [Element.elements, hplaces]
      simp
    · intro x hx hname'
      obtain ⟨entry, hentry, rfl⟩ := List.mem_map.mp hx
      have hkept : entry ∈ later := by
        rw [← List.mem_reverse, ← hafter]
        exact List.mem_filter.mpr ⟨hentry, by simpa using hname'⟩
      simpa using hlater entry hkept

namespace Describer

variable {d : Describer} {ws : Workspace} {includeSource : Bool} {files : List Path}
  {bytesOf : Path → Bytes}

theorem exists_alike_projectFor {old : Element} {i : Nat} {file : Path} (hi : files[i]? = some file)
    {e : Element} (h : Previous.IsLatest old (d.shownPath file) (Md5.hexDigest (bytesOf file)) e) :
    ∃ c, (d.projectFor includeSource bytesOf files (.ofDocument old)).children[i]? = some c ∧
      e.Alike SameText c := by
  obtain ⟨place, hfound⟩ := Previous.isLatest_iff.mp h
  have hitem : (d.itemOf includeSource (.ofDocument old) file (bytesOf file)).1 = ⟨some place, e⟩ := by
    rw [itemOf_of_some hfound]
  have hitems : ∀ item ∈ d.itemsFor includeSource bytesOf files (.ofDocument old), ∀ place,
      item.origin = some place → old.at? place = some item.element := by
    intro item hmem place horigin
    obtain ⟨other, -, rfl⟩ := List.mem_map.mp hmem
    obtain ⟨x, hx⟩ := unchanged?_of_origin horigin
    rw [itemOf_of_some hx]
    exact (places_ofDocument old _ (of_unchanged? hx).1).1
  have hat : (d.itemsFor includeSource bytesOf files (.ofDocument old))[i]? = some ⟨some place, e⟩ := by
    rw [itemsFor, List.getElem?_map, hi, Option.map_some, hitem]
  exact exists_alike_indentItems _ hitems hat rfl

/-- Files are described over an earlier document with the right settings.  If their document can be read,
the element of a file in the earlier one that gives its path and its digest is found in its place: with
its names, attributes and children, with its texts up to their line ends, and with white space for white
space.  It is the same apart from white space exactly if no other text in it holds a carriage return. -/
theorem reused_elements_are_kept {path : Path} {bytes : Bytes} {old : Element}
    (hearlier : d.earlier = some path) (hforce : d.description.force = false)
    (hbytes : ws.read path.text = .ok bytes) (hold : Xml.read bytes = .ok old)
    (hsettings : old.attribute? "settings".toList = some (d.description.fingerprint includeSource))
    (hfiles : files ≠ []) (hread : ∀ file ∈ files, ws.read file.text = .ok (bytesOf file)) :
    ∃ content, (d.describe ws includeSource files).outcome = .ok content ∧
      (d.description.LegalStrings → (∀ file ∈ files, Legal file.text) →
        ((∃ root, Xml.read (Utf8.encode content) = .ok root) ↔
          ∀ file ∈ files, d.CanWrite (.ofDocument old) file (bytesOf file))) ∧
      ∀ root, Xml.read (Utf8.encode content) = .ok root →
        ∀ (i : Nat) (file : Path) (e : Element), files[i]? = some file →
          Previous.IsLatest old (d.shownPath file) (Md5.hexDigest (bytesOf file)) e →
            ∃ c, root.children[i]? = some c ∧ e.Alike KeptText c ∧
              (e.Alike SameText c ↔ e.AllTexts IsLasting) := by
  obtain ⟨loading, hload, hprevious⟩ := exists_loading_of_read hearlier hforce hbytes hold hsettings
  have hlawful := lawful_of_load hload
  have hcontent := describe_projectFor hfiles hread hload
  rw [hprevious] at hlawful hcontent
  have hcases := @read_projectFor d includeSource files bytesOf _ hlawful
  refine ⟨_, hcontent, fun hstrings hpaths => ?_, fun root hroot i file e hi he => ?_⟩
  · rw [← writable_indentItems_iff hlawful hstrings hpaths]
    obtain ⟨hwritable, hok⟩ | ⟨hwritable, message, herror⟩ := hcases
    · exact iff_of_true ⟨_, hok⟩ hwritable
    · refine iff_of_false ?_ hwritable
      rintro ⟨root, hroot⟩
      cases herror.symm.trans hroot
  · obtain ⟨hwritable, hok⟩ | ⟨-, message, herror⟩ := hcases
    · obtain rfl := Except.ok.inj (hok.symm.trans hroot)
      obtain ⟨c, hc, halike⟩ := exists_alike_projectFor hi he
      have hseen := Element.alike_seen fun x hx =>
        hwritable x (Element.mem_elements_of_child (List.mem_of_getElem? hc) hx)
      have hkept : e.Alike KeptText c.seen := halike.trans hseen fun _ _ _ => SameText.keptText
      refine ⟨c.seen, ?_, hkept, hkept.alike_iff_allTexts fun _ _ => KeptText.sameText_iff⟩
      rw [Element.seen_children, List.getElem?_map, hc, Option.map_some]
    · cases herror.symm.trans hroot

/-- The earlier document of a file with the given content in its element. -/
def earlierDocument (content : Text) : Bytes :=
  Utf8.encode ("<project settings=\"213c713d4d172469a5fa90cfe1a20e64\"><file path=\"a.php\"".toList ++
    " hash=\"d1457b72c3fb323a2671125aef3eab5d\">".toList ++ content ++ "</file></project>".toList)

/-- A working directory with the file and the document. -/
def described (content : Text) : Workspace :=
  { files := ⟨[(["w".toList], .directory), (["w".toList, "a.php".toList], .file [63]),
      (["w".toList, "d.xml".toList], .file (earlierDocument content))]⟩
    workingDirectory := ["w".toList]
    homes := [] }

/-- A describer that takes over from the document. -/
def renewing : Describer :=
  { earlier := some (.ofText "/w/d.xml".toList), root := .ofText "/w".toList }

/-- An element with text and an element of a name space in it is kept. -/
theorem mixed_content_is_kept :
    ∃ old e content root c,
      Xml.read (earlierDocument "a<n:b xmlns:n=\"u\"> </n:b>".toList) = .ok old ∧
      Previous.IsLatest old "a.php".toList (Md5.hexDigest [63]) e ∧
      (renewing.describe (described "a<n:b xmlns:n=\"u\"> </n:b>".toList) false
        [.ofText "/w/a.php".toList]).outcome = .ok content ∧
      Xml.read (Utf8.encode content) = .ok root ∧ root.children[0]? = some c ∧
        e.Alike SameText c := by
  have hearlier : ((Xml.read (earlierDocument "a<n:b xmlns:n=\"u\"> </n:b>".toList)).map fun old =>
      decide (old.attribute? "settings".toList = some (renewing.description.fingerprint false) ∧
        ((Previous.ofDocument old).unchanged? "a.php".toList (Md5.hexDigest [63])).isSome ∧
        ∀ x ∈ old.elements, (∀ a ∈ x.attributes, isName a.1.localName = true) ∧
          '\r' ∉ x.text ∧ '\r' ∉ x.tail)).toOption = some true := by
    decide +kernel
  obtain ⟨old, hold, hfacts⟩ := map_eq_ok.mp (toOption_eq_some.mp hearlier)
  obtain ⟨hsettings, hunchanged, hinside⟩ := of_decide_eq_true hfacts
  obtain ⟨⟨place, e⟩, he⟩ := Option.isSome_iff_exists.mp hunchanged
  have hlatest : Previous.IsLatest old "a.php".toList (Md5.hexDigest [63]) e :=
    Previous.isLatest_iff.mpr ⟨place, he⟩
  have hmem : ∀ x ∈ e.elements, x ∈ old.elements := fun x hx =>
    Element.mem_elements_trans hx (Element.mem_elements_of_at? (places_ofDocument old _
      (of_unchanged? he).1).1)
  have hread : ∀ file ∈ [Path.ofText "/w/a.php".toList],
      (described "a<n:b xmlns:n=\"u\"> </n:b>".toList).read file.text = .ok [63] := by
    simp only [List.forall_mem_singleton]
    rfl
  have hpath : renewing.earlier = some (.ofText "/w/d.xml".toList) := rfl
  obtain ⟨content, hcontent, hiff, hkept⟩ :=
    reused_elements_are_kept hpath rfl rfl hold hsettings (by simp) hread
  have hcanWrite : ∀ file ∈ [Path.ofText "/w/a.php".toList],
      renewing.CanWrite (.ofDocument old) file [63] := by
    rw [List.forall_mem_singleton, CanWrite]
    have hshown : renewing.shownPath (.ofText "/w/a.php".toList) = "a.php".toList := by decide
    rw [hshown, he]
    exact fun x hx => (hinside x (hmem x hx)).1
  obtain ⟨root, hroot⟩ :=
    (hiff ⟨by decide, by decide, by decide, by decide⟩ (by decide)).mpr hcanWrite
  obtain ⟨c, hc, -, hsame⟩ := hkept root hroot 0 _ e rfl hlatest
  refine ⟨old, e, content, root, c, hold, hlatest, hcontent, hroot, hc, hsame.mpr fun x hx => ?_⟩
  exact ⟨.inr (hinside x (hmem x hx)).2.1, .inr (hinside x (hmem x hx)).2.2⟩

/-- A carriage return is not kept: it is read as a line feed. -/
theorem carriage_return_is_not_kept :
    ∃ old e content root c,
      Xml.read (earlierDocument "a&#13;b".toList) = .ok old ∧
      old.attribute? "settings".toList = some (renewing.description.fingerprint false) ∧
      Previous.IsLatest old "a.php".toList (Md5.hexDigest [63]) e ∧
      (renewing.describe (described "a&#13;b".toList) false
        [.ofText "/w/a.php".toList]).outcome = .ok content ∧
      Xml.read (Utf8.encode content) = .ok root ∧ root.children[0]? = some c ∧
        ¬ e.Alike SameText c := by
  have hearlier : ((Xml.read (earlierDocument "a&#13;b".toList)).map fun old =>
      (old.attribute? "settings".toList, ((Previous.ofDocument old).unchanged? "a.php".toList
        (Md5.hexDigest [63])).map fun entry => entry.2.text)).toOption =
          some (some (renewing.description.fingerprint false), some ['a', '\r', 'b']) := by
    decide +kernel
  have hafter : ((renewing.describe (described "a&#13;b".toList) false
      [.ofText "/w/a.php".toList]).outcome.map fun content =>
        ((Xml.read (Utf8.encode content)).map fun root => root.children.map (·.text)).toOption) =
          .ok (some [['a', '\n', 'b']]) := by
    decide +kernel
  obtain ⟨old, hold, hfacts⟩ := map_eq_ok.mp (toOption_eq_some.mp hearlier)
  obtain ⟨hsettings, hunchanged⟩ := Prod.mk.inj hfacts
  obtain ⟨⟨place, e⟩, he, htext⟩ := Option.map_eq_some_iff.mp hunchanged
  obtain ⟨content, hcontent, hread⟩ := map_eq_ok.mp hafter
  obtain ⟨root, hroot, hchildren⟩ := map_eq_ok.mp (toOption_eq_some.mp hread)
  obtain ⟨c, cs, hc, htext', -⟩ := List.map_eq_cons_iff.mp hchildren
  refine ⟨old, e, content, root, c, hold, hsettings, Previous.isLatest_iff.mpr ⟨place, he⟩, hcontent,
    hroot, by rw [hc]; rfl, ?_⟩
  rintro ⟨-, -, hsame, -, -⟩
  rw [show e.text = _ from htext, show c.text = _ from htext'] at hsame
  obtain heq | ⟨hblank, -⟩ := hsame
  · cases heq
  · exact absurd hblank (by decide)

end Describer

end SourceAtlas
