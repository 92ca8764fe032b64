import SourceAtlas.Proofs.Xml.Names
import SourceAtlas.Xml.Content

/-!
# Escaped characters

A character that would be read as markup, or that a reader would normalise, is written as a
reference to it.  All that a reader does with written text is done one written character at a time:
taking an attribute value, normalising it, and taking the characters of content.
-/

namespace SourceAtlas.Xml

open Text

/-- The character that a reference stands for in every document. -/
def Reference.char? : Reference → Option Char
  | .entity name => predefined? name
  | .character c => c

/-- A character that stands for itself in an attribute value. -/
def isBareValueChar (c : Char) : Bool :=
  isXmlChar c && !(['"', '<', '&', '\t', '\n', '\r'].contains c)

/-- What follows the ampersand of the reference that a character is written as. -/
structure EscapeOf (c : Char) (body : Text) (r : Reference) : Prop where
  scan : ∀ rest, scanReference (body ++ rest) = .ok (r, rest)
  denotes : r.char? = some c
  bare : body.all isBareValueChar = true
  notSpace : c ≠ ' '
  legal : isXmlChar c = true

theorem writtenInText_cases (c : Char) :
    (writtenInText c = [c] ∧ c ∉ ['&', '<', '>']) ∨
      ∃ body r, writtenInText c = '&' :: body ∧ EscapeOf c body r := by
  unfold writtenInText
  split
  · exact .inr ⟨"amp;".toList, .entity "amp".toList, rfl, fun _ => rfl, rfl, by decide, by decide, by decide⟩
  · exact .inr ⟨"lt;".toList, .entity "lt".toList, rfl, fun _ => rfl, rfl, by decide, by decide, by decide⟩
  · exact .inr ⟨"gt;".toList, .entity "gt".toList, rfl, fun _ => rfl, rfl, by decide, by decide, by decide⟩
  · next h₁ h₂ h₃ =>
      left
      refine ⟨rfl, ?_⟩
      simp only [List.mem_cons, List.not_mem_nil, or_false, not_or]
      exact ⟨h₁, h₂, h₃⟩

theorem writtenInValue_cases (c : Char) :
    (writtenInValue c = [c] ∧ c ∉ ['&', '<', '>', '"', '\r', '\n', '\t']) ∨
      ∃ body r, writtenInValue c = '&' :: body ∧ EscapeOf c body r := by
  unfold writtenInValue
  split
  · exact .inr ⟨"quot;".toList, .entity "quot".toList, rfl, fun _ => rfl, rfl, by decide, by decide, by decide⟩
  · exact .inr ⟨"#13;".toList, .character (some '\r'), rfl, fun _ => rfl, rfl, by decide, by decide, by decide⟩
  · exact .inr ⟨"#10;".toList, .character (some '\n'), rfl, fun _ => rfl, rfl, by decide, by decide, by decide⟩
  · exact .inr ⟨"#09;".toList, .character (some '\t'), rfl, fun _ => rfl, rfl, by decide, by decide, by decide⟩
  · next h₁ h₂ h₃ h₄ =>
      rcases writtenInText_cases c with ⟨heq, hmem⟩ | hescape
      · left
        refine ⟨heq, ?_⟩
        simp only [List.mem_cons, List.not_mem_nil, or_false, not_or] at hmem ⊢
        exact ⟨hmem.1, hmem.2.1, hmem.2.2, h₁, h₂, h₃, h₄⟩
      · exact .inr hescape

theorem isBareValueChar_of_not_mem {c : Char} (hc : isXmlChar c = true)
    (h : c ∉ ['&', '<', '>', '"', '\r', '\n', '\t']) : isBareValueChar c = true := by
  simp only [List.mem_cons, List.not_mem_nil, or_false, not_or] at h
  simp [isBareValueChar, hc, h]

/-! ## Attribute values -/

theorem scanValue_bare_append {s : Text} (hs : ∀ d ∈ s, isBareValueChar d = true) (rest : Text) :
    scanValue '"' (s ++ rest) = (scanValue '"' rest).map fun r => (s ++ r.1, r.2) := by
  induction s with
  | nil => cases h : scanValue '"' rest <;> simp [h, Except.map]
  | cons d ds ih =>
      have hd : isXmlChar d = true ∧ d ≠ '"' ∧ d ≠ '<' ∧ d ≠ '&' := by
        have := hs d List.mem_cons_self
        simp only [isBareValueChar, Bool.and_eq_true, Bool.not_eq_true', List.contains_cons,
          Bool.or_eq_false_iff, beq_eq_false_iff_ne] at this
        exact ⟨this.1, this.2.1, this.2.2.1, this.2.2.2.1⟩
      rw [List.cons_append, scanValue, ih fun e he => hs e (List.mem_cons_of_mem d he)]
      cases scanValue '"' rest <;>
        simp [hd, checkChar, bind, Except.bind, pure, Except.pure, Except.map]

/-- A written character is taken if a document may hold it. -/
theorem scanValue_written_append {c : Char} (hc : isXmlChar c = true) (rest : Text) :
    scanValue '"' (writtenInValue c ++ rest) =
      (scanValue '"' rest).map fun r => (writtenInValue c ++ r.1, r.2) := by
  rcases writtenInValue_cases c with ⟨heq, hmem⟩ | ⟨body, r, heq, hbody⟩
  · rw [heq]
    exact scanValue_bare_append (by simpa using isBareValueChar_of_not_mem hc hmem) rest
  · rw [heq, List.cons_append, scanValue, hbody.scan, scanValue_bare_append (List.all_eq_true.mp hbody.bare)]
    cases scanValue '"' rest <;> rfl

/-- The value of a written attribute ends at the quote that closes it. -/
theorem scanValue_escapeValue {v : Text} (hv : Legal v) (after : Text) :
    scanValue '"' (escapeValue v ++ '"' :: after) = .ok (escapeValue v, after) := by
  induction v with
  | nil => rfl
  | cons c cs ih =>
      obtain ⟨hc, hcs⟩ := legal_cons.mp hv
      rw [escapeValue, List.flatMap_cons, ← escapeValue, List.append_assoc,
        scanValue_written_append hc, ih hcs]
      rfl

/-- A written value that is taken consists of characters that a document may hold. -/
theorem legal_of_scanValue {v after : Text} {r : Text × Text}
    (h : scanValue '"' (escapeValue v ++ '"' :: after) = .ok r) : Legal v := by
  induction v generalizing r with
  | nil => exact legal_nil
  | cons c cs ih =>
      rw [escapeValue, List.flatMap_cons, ← escapeValue, List.append_assoc] at h
      have hc : isXmlChar c = true := by
        rcases writtenInValue_cases c with ⟨heq, hmem⟩ | ⟨body, r', heq, hbody⟩
        · simp only [List.mem_cons, List.not_mem_nil, or_false, not_or] at hmem
          by_cases hc : isXmlChar c = true
          · exact hc
          · rw [heq, List.singleton_append, scanValue] at h
            simp [hmem, checkChar, hc, bind, Except.bind] at h
        · exact hbody.legal
      rw [scanValue_written_append hc] at h
      cases hrest : scanValue '"' (escapeValue cs ++ '"' :: after) with
      | error e =>
          rw [hrest] at h
          exact absurd h (by simp [Except.map])
      | ok r' => exact legal_cons.mpr ⟨hc, ih hrest⟩

/-- Normalising gives a written value back, whatever was collected before it. -/
theorem normalizeFrom_escapeValue (d : Dtd)
    (nested : Text → Text → Text → Except ValueFault Text) (v done : Text) (count : Nat)
    (hcount : (escapeValue v).length ≤ count) :
    normalizeFrom d true nested count (escapeValue v) done = .ok (v.reverse ++ done) := by
  induction v generalizing done count with
  | nil => cases count <;> rfl
  | cons c cs ih =>
      rw [escapeValue, List.flatMap_cons, ← escapeValue] at hcount ⊢
      rw [List.length_append] at hcount
      rcases writtenInValue_cases c with ⟨heq, hmem⟩ | ⟨body, r, heq, hbody⟩
      · rw [heq, List.length_singleton] at hcount
        obtain ⟨count, rfl⟩ : ∃ n, count = n + 1 := ⟨count - 1, by omega⟩
        have hstep : normalizeFrom d true nested (count + 1) (c :: escapeValue cs) done =
            normalizeFrom d true nested count (escapeValue cs) (c :: done) := by
          simp only [List.mem_cons, List.not_mem_nil, or_false, not_or] at hmem
          rw [normalizeFrom, if_neg hmem.2.1, if_neg hmem.1]
          by_cases hspace : c = ' '
          · subst hspace
            rfl
          · rw [if_neg (by simp [isSpace, hspace, hmem])]
        rw [heq, List.singleton_append, hstep, ih (c :: done) count (by omega)]
        simp
      · rw [heq, List.length_cons] at hcount
        obtain ⟨count, rfl⟩ : ∃ n, count = n + 1 := ⟨count - 1, by omega⟩
        have hstep : normalizeFrom d true nested (count + 1) ('&' :: (body ++ escapeValue cs)) done =
            normalizeFrom d true nested count (escapeValue cs) (c :: done) := by
          rw [normalizeFrom, if_neg (by decide), if_pos rfl, hbody.scan]
          cases r with
          | entity name =>
              have hname : predefined? name = some c := hbody.denotes
              simp only [hname]
          | character r =>
              have hr : r = some c := hbody.denotes
              simp only [hr, if_neg hbody.notSpace]
        rw [heq, List.cons_append, hstep, ih (c :: done) count (by omega)]
        simp

/-- The value of an attribute without declared type is read as it was given. -/
theorem normalize_escapeValue (d : Dtd) (v : Text) : d.normalize true (escapeValue v) = .ok v := by
  have h := fun nested => normalizeFrom_escapeValue d nested v [] _ (Nat.le_refl _)
  simp only [Dtd.normalize, normalizeNested, h]
  simp [bind, Except.bind, pure, Except.pure]

end SourceAtlas.Xml
