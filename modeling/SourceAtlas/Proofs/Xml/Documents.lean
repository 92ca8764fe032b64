import SourceAtlas.Proofs.Xml.Transport
import SourceAtlas.Xml.Reader

/-!
# Reading a written document

A written document begins with a declaration that names its encoding and has no document type, so
what is read of it is decided by its element alone.  If all names in the element are names, its name
spaces can be bound and its characters may stand in a document, then the reader gives back the
element with uniform line ends.
-/

namespace SourceAtlas.Xml

open Text

/-! ## The declaration -/

/-- The first line of a document, without its end. -/
def declarationMark : Text := "<?xml version='1.0' encoding='utf-8'?>".toList

/-- What stands in the declaration after its target. -/
def declarationSettings : Text := " version='1.0' encoding='utf-8'".toList

theorem declarationLine_eq : declarationLine = declarationMark ++ ['\n'] := by
  rfl

theorem declarationBody?_declarationMark (t : Text) :
    declarationBody? (declarationMark ++ t) = some (declarationSettings, t) := by
  rfl

theorem readDeclaration_settings :
    readDeclaration declarationSettings = .ok ⟨some ("utf-8".toList, "utf-8'".toList), false⟩ := by
  rfl

theorem named_utf8 : Encoding.named .utf8 "utf-8".toList = .ok .utf8 := by
  rfl

theorem encode_append (s t : Text) : Utf8.encode (s ++ t) = Utf8.encode s ++ Utf8.encode t :=
  List.flatMap_append

theorem map_readBack_declarationMark_append (t : Text) :
    (declarationMark ++ t).map readBack = declarationMark ++ t.map readBack := by
  rw [List.map_append, map_readBack_eq_self (by decide)]

theorem drop_declarationMark (t : Text) :
    (Utf8.encode (declarationMark ++ t)).drop
      ((declarationMark ++ t).length - t.length) = Utf8.encode t := by
  have hlength : (declarationMark ++ t).length - t.length = (Utf8.encode declarationMark).length := by
    have hmark : (Utf8.encode declarationMark).length = declarationMark.length := by decide
    rw [List.length_append, hmark]
    omega
  rw [encode_append, hlength, List.drop_left]

/-- A document with a written first line is read as UTF-8 after its declaration. -/
theorem read_declarationMark (t : Text) :
    ∃ whole, read (Utf8.encode (declarationMark ++ t)) =
      (readBody {} { text := t.map readBack }).mapError fun c => .malformed (c.message whole) := by
  have hlength : ((declarationMark ++ t.map readBack).length - (t.map readBack).length) =
      (declarationMark ++ t).length - t.length := by
    simp
  refine ⟨normalizeLines (declarationMark ++ t.map readBack), ?_⟩
  have hread : read (Utf8.encode (declarationMark ++ t)) =
      readIn .utf8 (Utf8.encode (declarationMark ++ t)) 0 := by
    rw [encode_append]
    rfl
  rw [hread]
  simp only [readIn, Encoding.decode, List.drop_zero, decodeUtf8_encode,
    map_readBack_declarationMark_append, declarationBody?_declarationMark,
    readDeclaration_settings, named_utf8, hlength, Encoding.unitSize, Nat.mul_one, Nat.add_zero,
    drop_declarationMark]

/-! ## The document element -/

theorem scanMark_elementStart {c : Char} (hc : isNameStart c = true) (t : Text) :
    scanMark ('<' :: c :: t) = .ok (.elementStart, '<' :: c :: t) := by
  have hbang : c ≠ '!' := ne_of_isNameStart hc '!' (by decide)
  have hquery : c ≠ '?' := ne_of_isNameStart hc '?' (by decide)
  simp [scanMark, hc]

/-- The prolog of a written document ends with its first line. -/
theorem readProlog_written {c : Char} (hc : isNameStart c = true) (t : Text) (count : Nat) (d : Dtd) :
    readProlog (count + 1) false d ('\n' :: '<' :: c :: t) = .ok (d, '<' :: c :: t) := by
  have hmark : nextMark ('\n' :: '<' :: c :: t) =
      .ok ⟨.elementStart, '<' :: c :: t, '<' :: c :: t⟩ := by
    have hdrop : ('\n' :: '<' :: c :: t).dropWhile isSpace = '<' :: c :: t := rfl
    simp only [nextMark, hdrop, scanMark_elementStart hc]
    rfl
  simp only [readProlog, hmark, bind, Except.bind]
  rfl

theorem readBody_written {t more : Text} {c : Char} (hc : isNameStart c = true)
    (ht : normalizeLines t = '\n' :: '<' :: c :: more) :
    readBody {} { text := t } = (do
      let (e, rest) ← readElement {} ('<' :: c :: more)
      readEnd false (rest.length + 1) rest
      return e) := by
  have hid : (fun k : Complaint => if (false : Bool) = true ∧ k = ⟨.noElement, []⟩ then
      (⟨.unclosedToken, []⟩ : Complaint) else k) = id := by
    funext k
    exact if_neg fun h => Bool.noConfusion h.1
  have hsame (r : Except Complaint Element) : r.mapError id = r := by cases r <;> rfl
  simp only [readBody, ht, readProlog_written hc, hid, hsame]
  rfl

variable {p : Prefixes}

/-- The document element is read from its tags and what is between them. -/
theorem readElement_written (hp : p.Assigned) (hb : ∀ q ∈ p, Bindable q.1) {root : Element}
    (h : ∀ x ∈ root.elements, x.FitsIn (rootScope p) p.written) (rest : Text) :
    readElement {} (writeHead p (writePrefixes p) root ++ rest) =
      .ok ({ root with tail := [] }, rest) := by
  obtain ⟨hroot, hchildren⟩ := Element.forall_mem_elements_iff.mp h
  obtain ⟨nested, hnested⟩ : ∃ nested, ∀ t, readNested {} 1 [] {} t =
      readTokens {} nested 0 (t.length + 1) {} t := ⟨_, fun _ => rfl⟩
  have hopening := fun closed rest => takes_opening {} nested (b := {}) rfl
    hp.spaceOf?_nil hroot p.sorted (fun q hq => hp.binds hb hq) hp.nodup_sorted_labels closed rest rfl
  have htokens : ∀ t, readTokens {} nested 0 (t.length + 1) {} t =
      .ok (⟨[], [], some { root with tail := [] }⟩, rest) →
        readElement {} t = .ok ({ root with tail := [] }, rest) := by
    intro t ht
    simp only [readElement, List.length_nil, Nat.zero_add, hnested, ht, bind, Except.bind]
    rfl
  apply htokens
  rw [writeHead, writePrefixes_eq, writeInside]
  by_cases hempty : root.text = [] ∧ root.children.isEmpty
  · have hstart := hopening true rest
    have hplace : Building.openElement {} (p.written root.name) true
        { name := root.name, attributes := root.attributes } (rootScope p) =
          ⟨[], [], some { root with tail := [] }⟩ := by
      rw [hempty.1, List.isEmpty_iff.mp hempty.2]
      rfl
    rw [hplace] at hstart
    rw [if_pos hempty]
    simp only [List.cons_append, List.append_assoc]
    exact hstart.readTokens_eq rfl _
  · have hinside := reads_inside {} nested (p := p) hroot.text
      (fun c hc => readsBack_of_fits {} nested rfl hp.spaceOf?_nil c (hchildren c hc)) (p.written root.name) []
      none rest
    obtain ⟨b', hreads, hb'⟩ := hinside
    have hstart := (hopening false (escapeText root.text ++ (writeElements p root.children ++
      (closingTag (p.written root.name) ++ rest)))).reads (List.cons_ne_nil _ _)
    have hend := takes_closing {} nested hroot.name.qualified (rootScope p)
      { root with tail := [] } [] none rest hb'
    have hall := (hstart.trans hreads).readTokens_eq hend rfl
    rw [if_neg hempty]
    simp only [List.cons_append, List.append_assoc]
    exact hall

end SourceAtlas.Xml
