import SourceAtlas.Proofs.Xml.Escapes

/-!
# Written tags

A written tag gives its attributes back, with the values still escaped; resolving it gives the
element that was written.  Names are compared through the scope in force: a raw name stands for at
most one name there, so attributes with different names have different raw names.
-/

namespace SourceAtlas.Xml

open Text

/-! ## Scanning -/

/-- What ends a tag. -/
def tagEnd (closed : Bool) : Text := if closed then " />".toList else ['>']

/-- Attributes as they are written, given by their raw names. -/
def writeAttributes (pairs : List (Text × Text)) : Text :=
  pairs.flatMap fun a => writeAttribute a.1 a.2

/-- What a scanner gives back of attributes: their raw names and their values as they are written. -/
def rawPairs (attributes : List RawAttribute) : List (Text × Text) :=
  attributes.map fun a => (a.name, a.value)

/-- What a scanner finds for attributes: their values are still escaped. -/
def escapedPairs (pairs : List (Text × Text)) : List (Text × Text) :=
  pairs.map fun a => (a.1, escapeValue a.2)

/-- An attribute without the space in front of it, and what follows. -/
def attributeThen (raw v after : Text) : Text := raw ++ '=' :: '"' :: (escapeValue v ++ '"' :: after)

theorem writeAttribute_append (raw v after : Text) :
    writeAttribute raw v ++ after = ' ' :: attributeThen raw v after := by
  simp [writeAttribute, attributeThen]

theorem writeAttributes_cons_append (a : Text × Text) (pairs : List (Text × Text)) (after : Text) :
    writeAttributes (a :: pairs) ++ after =
      ' ' :: attributeThen a.1 a.2 (writeAttributes pairs ++ after) := by
  rw [← writeAttribute_append, writeAttributes, List.flatMap_cons, List.append_assoc]
  rfl

theorem scanAttribute_written {raw v : Text} (hraw : Qualified raw) (hv : Legal v) (after : Text) :
    scanAttribute (attributeThen raw v after) =
      .ok (⟨raw, escapeValue v, attributeThen raw v after, '"' :: after⟩, after) := by
  have hname : scanQualified (attributeThen raw v after) =
      .ok (raw, '=' :: '"' :: (escapeValue v ++ '"' :: after)) :=
    scanQualified_append hraw (by rw [stops_cons]; decide)
  have hequals (t : Text) : scanEquals ('=' :: t) = .ok t := rfl
  have hquote (t : Text) : ('"' :: t).dropWhile isSpace = '"' :: t := rfl
  simp only [scanAttribute, hname, bind, Except.bind, hequals, hquote, scanValue_escapeValue hv]
  rfl

theorem exists_attributeThen_eq_cons {raw : Text} (hraw : ∀ c ∈ raw, isClosingNameChar c = true)
    (v after : Text) :
    ∃ c cs, attributeThen raw v after = c :: cs ∧ isSpace c = false ∧ c ≠ '>' ∧ c ≠ '/' := by
  cases raw with
  | nil => exact ⟨'=', _, rfl, by decide, by decide, by decide⟩
  | cons c cs =>
      have hc := hraw c List.mem_cons_self
      have hne (d : Char) (hd : isClosingNameChar d = false) : c ≠ d := by
        rintro rfl
        rw [hc] at hd
        exact Bool.noConfusion hd
      refine ⟨c, _, rfl, ?_, hne '>' (by decide), hne '/' (by decide)⟩
      simp [isSpace, hne ' ' (by decide), hne '\t' (by decide), hne '\n' (by decide),
        hne '\r' (by decide)]

/-- The scanner takes one attribute after the other. -/
theorem scanAttributes_cons {raw : Text} (hraw : ∀ c ∈ raw, isClosingNameChar c = true)
    (v after : Text) (refuse : Text → Stop) (count : Nat) :
    scanAttributes refuse (count + 1) (' ' :: attributeThen raw v after) = (do
      let (first, rest) ← scanAttribute (attributeThen raw v after)
      let ((attributes, closed), rest) ← scanAttributes Stop.mismatch count rest
      return ((first :: attributes, closed), rest)) := by
  obtain ⟨c, cs, heq, hspace, hclose, hslash⟩ := exists_attributeThen_eq_cons hraw v after
  have hblank (t : Text) : scanTagEnd? (' ' :: t) = none := rfl
  have hend : scanTagEnd? (c :: cs) = none := by
    unfold scanTagEnd?
    split
    · next h => exact absurd (List.cons.inj h).1 hclose
    · next h => exact absurd (List.cons.inj h).1 hslash
    · rfl
  have hdrop : (' ' :: c :: cs).dropWhile isSpace = c :: cs := by
    simp [hspace, show isSpace ' ' = true by decide]
  rw [heq, scanAttributes, hblank]
  simp only [hdrop, hend, show isSpace ' ' = true by decide, Bool.not_true, Bool.false_eq_true,
    if_false]

theorem scanAttributes_written {pairs : List (Text × Text)}
    (hpairs : ∀ a ∈ pairs, Qualified a.1 ∧ Legal a.2) (closed : Bool) (rest : Text)
    (refuse : Text → Stop) (count : Nat) (hcount : pairs.length < count) :
    ∃ attributes, scanAttributes refuse count (writeAttributes pairs ++ (tagEnd closed ++ rest)) =
        .ok ((attributes, closed), rest) ∧
      rawPairs attributes = escapedPairs pairs := by
  obtain ⟨count, rfl⟩ : ∃ n, count = n + 1 := ⟨count - 1, by omega⟩
  induction pairs generalizing refuse count with
  | nil =>
      refine ⟨[], ?_, rfl⟩
      cases closed <;> rfl
  | cons a as ih =>
      obtain ⟨hraw, hv⟩ := hpairs a List.mem_cons_self
      simp only [List.length_cons] at hcount
      obtain ⟨count, rfl⟩ : ∃ n, count = n + 1 := ⟨count - 1, by omega⟩
      obtain ⟨attributes, hrest, hvalues⟩ := ih (fun b hb => hpairs b (List.mem_cons_of_mem a hb))
        Stop.mismatch count (by omega)
      rw [writeAttributes_cons_append]
      generalize writeAttributes as ++ (tagEnd closed ++ rest) = after at hrest
      refine ⟨⟨a.1, escapeValue a.2, attributeThen a.1 a.2 after, '"' :: after⟩ :: attributes, ?_, ?_⟩
      · rw [scanAttributes_cons hraw.isClosingNameChar]
        simp only [bind, Except.bind, scanAttribute_written hraw hv, hrest]
        rfl
      · simpa [rawPairs, escapedPairs] using hvalues

theorem length_le_writeAttributes (pairs : List (Text × Text)) :
    pairs.length ≤ (writeAttributes pairs).length := by
  induction pairs with
  | nil => simp
  | cons a as ih =>
      have h := congrArg List.length (writeAttributes_cons_append a as [])
      simp only [List.append_nil, List.length_cons, attributeThen, List.length_append] at h ⊢
      omega

theorem stops_writeAttributes (pairs : List (Text × Text)) (closed : Bool) (rest : Text) :
    Stops isClosingNameChar (writeAttributes pairs ++ (tagEnd closed ++ rest)) := by
  cases pairs with
  | nil => cases closed <;> simp [writeAttributes, tagEnd] <;> decide
  | cons a as =>
      rw [writeAttributes_cons_append, stops_cons]
      decide

/-- A written opening tag gives back its name and its attributes. -/
theorem scanOpening_written {raw : Text} (hraw : Qualified raw) {pairs : List (Text × Text)}
    (hpairs : ∀ a ∈ pairs, Qualified a.1 ∧ Legal a.2) (closed : Bool) (rest : Text) :
    ∃ attributes,
      scanOpening (raw ++ (writeAttributes pairs ++ (tagEnd closed ++ rest))) =
        .ok (⟨raw, attributes, closed⟩, rest) ∧
      rawPairs attributes = escapedPairs pairs := by
  have hlength : pairs.length < (writeAttributes pairs ++ (tagEnd closed ++ rest)).length + 1 := by
    have := length_le_writeAttributes pairs
    rw [List.length_append]
    omega
  obtain ⟨attributes, hscan, hvalues⟩ :=
    scanAttributes_written hpairs closed rest Stop.unexpected _ hlength
  refine ⟨attributes, ?_, hvalues⟩
  rw [scanOpening, scanQualified_append hraw (stops_writeAttributes pairs closed rest)]
  simp only [bind, Except.bind, hscan]
  rfl

end SourceAtlas.Xml
