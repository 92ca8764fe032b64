import SourceAtlas.Proofs.Xml.Decoding
import SourceAtlas.Xml.Scope

/-!
# Characters and names

Which characters a document may hold, what a name consists of, and how a scanner takes a name from
a text.  A name ends where no character of a name follows; in a tag a colon may join a prefix to
it, and both parts are names.
-/

namespace SourceAtlas.Xml

open Text

/-! ## Characters -/

/-- A text of characters that a document may hold. -/
def Legal (t : Text) : Prop := ∀ c ∈ t, isXmlChar c = true

instance (t : Text) : Decidable (Legal t) := List.decidableBAll (fun c => isXmlChar c = true) t

@[simp] theorem legal_nil : Legal [] := by simp [Legal]

@[simp] theorem legal_cons {c : Char} {t : Text} :
    Legal (c :: t) ↔ isXmlChar c = true ∧ Legal t := by
  simp [Legal]

@[simp] theorem legal_append {s t : Text} : Legal (s ++ t) ↔ Legal s ∧ Legal t := by
  simp [Legal, or_imp, forall_and]

@[simp] theorem legal_reverse {t : Text} : Legal t.reverse ↔ Legal t := by simp [Legal]

theorem Legal.of_suffix {s t : Text} (h : Legal t) (hs : s <:+ t) : Legal s :=
  fun c hc => h c (hs.subset hc)

theorem legal_unifyLines {t : Text} : Legal (unifyLines t) ↔ Legal t :=
  forall_mem_unifyLines_iff (p := fun c => isXmlChar c = true) (by decide) (by decide) t

theorem isXmlChar_iff {c : Char} :
    isXmlChar c = true ↔
      c.toNat = 9 ∨ c.toNat = 10 ∨ c.toNat = 13 ∨ (0x20 ≤ c.toNat ∧ c.toNat ≤ 0xFFFD) ∨
        0x10000 ≤ c.toNat := by
  simp only [isXmlChar, Bool.or_eq_true, beq_iff_eq, Bool.and_eq_true, decide_eq_true_eq, or_assoc]

/-- A character that a document may hold is read as it was written. -/
theorem readBack_eq_self {c : Char} (h : isXmlChar c = true) : readBack c = c := by
  rw [readBack_eq, if_neg]
  rw [isXmlChar_iff] at h
  omega

/-- Writing and reading turns no other character into one that a document may hold. -/
theorem isXmlChar_readBack (c : Char) : isXmlChar (readBack c) = isXmlChar c := by
  rw [readBack_eq]
  split
  · next h =>
      have hc : isXmlChar c = false := by
        rw [Bool.eq_false_iff, ne_eq, isXmlChar_iff]
        omega
      rw [hc]
      decide
  · rfl

theorem map_readBack_eq_self {t : Text} (h : Legal t) : t.map readBack = t := by
  rw [List.map_congr_left fun c hc => readBack_eq_self (h c hc)]
  exact List.map_id' t

theorem legal_map_readBack {t : Text} : Legal (t.map readBack) ↔ Legal t := by
  simp [Legal, isXmlChar_readBack]

/-! ## Names -/

theorem ne_of_isNameStart {c : Char} (h : isNameStart c = true) (d : Char)
    (hd : isNameStart d = false) : c ≠ d := by
  rintro rfl
  rw [h] at hd
  exact Bool.noConfusion hd

theorem ne_of_isNameChar {c : Char} (h : isNameChar c = true) (d : Char)
    (hd : isNameChar d = false) : c ≠ d := by
  rintro rfl
  rw [h] at hd
  exact Bool.noConfusion hd

theorem isXmlChar_of_isAlphanum {c : Char} (h : c.isAlphanum = true) : isXmlChar c = true := by
  have hbounds : 48 ≤ c.toNat ∧ c.toNat ≤ 122 := by
    unfold Char.isAlphanum Char.isAlpha Char.isUpper Char.isLower Char.isDigit at h
    simp only [Bool.or_eq_true, Bool.and_eq_true, decide_eq_true_eq, ge_iff_le,
      UInt32.le_iff_toNat_le] at h
    have hc : c.val.toNat = c.toNat := rfl
    have hlit : 'A'.val.toNat = 65 ∧ 'Z'.val.toNat = 90 ∧ 'a'.val.toNat = 97 ∧
        'z'.val.toNat = 122 ∧ '0'.val.toNat = 48 ∧ '9'.val.toNat = 57 := by decide
    omega
  rw [isXmlChar_iff]
  omega

/-- What is left of ascending ranges when those inside the wider ones are taken away in turn. -/
def uncovered (ranges wider : List (Nat × Nat)) : List (Nat × Nat) :=
  wider.foldl (fun rs w => rs.dropWhile fun r => w.1 ≤ r.1 && r.2 ≤ w.2) ranges

theorem exists_wider {ranges wider : List (Nat × Nat)} (h : uncovered ranges wider = [])
    {r : Nat × Nat} (hr : r ∈ ranges) : ∃ w ∈ wider, w.1 ≤ r.1 ∧ r.2 ≤ w.2 := by
  induction wider generalizing ranges with
  | nil =>
      rw [uncovered, List.foldl_nil] at h
      simp [h] at hr
  | cons w ws ih =>
      rw [← List.takeWhile_append_dropWhile (p := fun r => w.1 ≤ r.1 && r.2 ≤ w.2) (l := ranges),
        List.mem_append] at hr
      rcases hr with hr | hr
      · have := List.all_eq_true.mp List.all_takeWhile r hr
        simp only [Bool.and_eq_true, decide_eq_true_eq] at this
        exact ⟨w, List.mem_cons_self, this⟩
      · obtain ⟨w', hw', hle⟩ := ih h hr
        exact ⟨w', List.mem_cons_of_mem w hw', hle⟩

/-- A character of one class is one of another, if the ranges of the first lie in ranges of the
second. -/
theorem inRanges_of_inRanges {ranges wider : List (Nat × Nat)} {n : Nat}
    (h : inRanges ranges n = true) (hw : uncovered ranges wider = []) :
    inRanges wider n = true := by
  obtain ⟨r, hr, hlow, hhigh⟩ := inRanges_iff.mp h
  obtain ⟨w, hmem, hwr⟩ := exists_wider hw hr
  apply inRanges_iff.mpr
  exact ⟨w, hmem, by omega, by omega⟩

theorem isNameChar_of_isNameStart {c : Char} (h : isNameStart c = true) : isNameChar c = true := by
  simp only [isNameStart, Bool.or_eq_true, beq_iff_eq, Bool.and_eq_true, decide_eq_true_eq] at h
  rcases h with (h | rfl) | ⟨hlow, h⟩
  · simp [isNameChar, Char.isAlphanum, h]
  · decide
  · have hname : inRanges nameRanges c.toNat = true := inRanges_of_inRanges h (by decide +kernel)
    simp [isNameChar, hlow, hname]

theorem isXmlChar_of_isNameChar {c : Char} (h : isNameChar c = true) : isXmlChar c = true := by
  simp only [isNameChar, Bool.or_eq_true, beq_iff_eq, Bool.and_eq_true, decide_eq_true_eq] at h
  rcases h with (((h | rfl) | rfl) | rfl) | ⟨hlow, h⟩
  · exact isXmlChar_of_isAlphanum h
  · decide
  · decide
  · decide
  · have hhigh : inRanges [(0, 0xFFFD)] c.toNat = true := inRanges_of_inRanges h (by decide)
    simp only [inRanges, List.any_cons, List.any_nil, Bool.or_false, Bool.and_eq_true,
      decide_eq_true_eq] at hhigh
    rw [isXmlChar_iff]
    omega

/-- A name without colon. -/
def isName : Text → Bool
  | [] => false
  | c :: cs => isNameStart c && cs.all isNameChar

theorem isName_cons {c : Char} {cs : Text} :
    isName (c :: cs) = true ↔ isNameStart c = true ∧ ∀ d ∈ cs, isNameChar d = true := by
  simp [isName]

/-- No character of a class begins the text. -/
def Stops (p : Char → Bool) (t : Text) : Prop := ∀ c ∈ t.head?, p c = false

@[simp] theorem stops_cons {p : Char → Bool} {c : Char} {t : Text} :
    Stops p (c :: t) ↔ p c = false := by
  simp [Stops]

theorem takeWhile_append_of_stops {p : Char → Bool} {s rest : Text} (hs : ∀ c ∈ s, p c = true)
    (hr : Stops p rest) : (s ++ rest).takeWhile p = s ∧ (s ++ rest).dropWhile p = rest := by
  rw [List.takeWhile_append_of_pos hs, List.dropWhile_append_of_pos hs]
  cases rest with
  | nil => simp
  | cons c cs =>
      have hc : p c = false := by simpa using hr
      simp [hc]

theorem scanName_append {n rest : Text} (hn : isName n = true) (hr : Stops isNameChar rest) :
    scanName (n ++ rest) = .ok (n, rest) := by
  cases n with
  | nil => simp [isName] at hn
  | cons c cs =>
      obtain ⟨hc, hcs⟩ := isName_cons.mp hn
      obtain ⟨htake, hdrop⟩ := takeWhile_append_of_stops hcs hr
      rw [List.cons_append, scanName, if_pos hc, htake, hdrop]

/-- A name as a tag gives it: a name, perhaps after a prefix. -/
inductive Qualified : Text → Prop
  | plain {n : Text} (hn : isName n = true) : Qualified n
  | joined {label n : Text} (hl : isName label = true) (hn : isName n = true) :
      Qualified (label ++ ':' :: n)

theorem stops_isNameChar {t : Text} (h : Stops isClosingNameChar t) : Stops isNameChar t := by
  intro c hc
  have := h c hc
  simp only [isClosingNameChar, Bool.or_eq_false_iff] at this
  exact this.1

theorem scanQualified_append {raw rest : Text} (h : Qualified raw)
    (hr : Stops isClosingNameChar rest) : scanQualified (raw ++ rest) = .ok (raw, rest) := by
  have hrest := stops_isNameChar hr
  cases h with
  | plain hn =>
      rw [scanQualified, scanName_append hn hrest]
      cases rest with
      | nil => rfl
      | cons c cs =>
          have hc : c ≠ ':' := by
            rintro rfl
            simp [isClosingNameChar] at hr
          simp only [bind, Except.bind]
          split
          · next heq => exact absurd (List.cons.inj heq).1 hc
          · rfl
  | @joined label n hl hn =>
      rw [scanQualified, List.append_assoc, List.cons_append,
        scanName_append hl (by rw [stops_cons]; decide)]
      simp only [bind, Except.bind, scanName_append hn hrest]
      rfl

theorem isClosingNameChar_of_isName {n : Text} (hn : isName n = true) :
    ∀ c ∈ n, isClosingNameChar c = true := by
  intro c hc
  cases n with
  | nil => simp at hc
  | cons d ds =>
      obtain ⟨hd, hds⟩ := isName_cons.mp hn
      rcases List.mem_cons.mp hc with rfl | hc
      · simp [isClosingNameChar, isNameChar_of_isNameStart hd]
      · simp [isClosingNameChar, hds c hc]

theorem Qualified.isClosingNameChar {raw : Text} (h : Qualified raw) :
    ∀ c ∈ raw, isClosingNameChar c = true := by
  cases h with
  | plain hn => exact isClosingNameChar_of_isName hn
  | joined hl hn =>
      intro c hc
      simp only [List.mem_append, List.mem_cons] at hc
      rcases hc with hc | rfl | hc
      · exact isClosingNameChar_of_isName hl c hc
      · rfl
      · exact isClosingNameChar_of_isName hn c hc

theorem Qualified.exists_cons {raw : Text} (h : Qualified raw) :
    ∃ c cs, raw = c :: cs ∧ isNameStart c = true := by
  have hname {n : Text} (hn : isName n = true) : ∃ c cs, n = c :: cs ∧ isNameStart c = true := by
    cases n with
    | nil => simp [isName] at hn
    | cons c cs => exact ⟨c, cs, rfl, (isName_cons.mp hn).1⟩
  cases h with
  | plain hn => exact hname hn
  | @joined label n hl hn =>
      obtain ⟨c, cs, rfl, hc⟩ := hname hl
      exact ⟨c, cs ++ ':' :: n, rfl, hc⟩

theorem Qualified.legal {raw : Text} (h : Qualified raw) : Legal raw := by
  intro c hc
  have := h.isClosingNameChar c hc
  simp only [Xml.isClosingNameChar, Bool.or_eq_true, beq_iff_eq] at this
  rcases this with hname | rfl
  · exact isXmlChar_of_isNameChar hname
  · decide

theorem scanClosing_append {raw rest : Text} (h : Qualified raw) :
    scanClosing (raw ++ '>' :: rest) = .ok (raw, rest) := by
  obtain ⟨c, cs, rfl, hc⟩ := h.exists_cons
  have hcs : ∀ d ∈ cs, isClosingNameChar d = true := fun d hd =>
    h.isClosingNameChar d (List.mem_cons_of_mem c hd)
  have hstop : Stops isClosingNameChar ('>' :: rest) := by
    simp
    decide
  obtain ⟨htake, hdrop⟩ := takeWhile_append_of_stops hcs hstop
  simp only [List.cons_append, scanClosing, hc, if_true, htake, hdrop]
  rfl

/-! ## Prefixes -/

theorem not_mem_colon {n : Text} (hn : isName n = true) : ':' ∉ n := by
  intro hc
  cases n with
  | nil => simp at hc
  | cons d ds =>
      obtain ⟨hd, hds⟩ := isName_cons.mp hn
      rcases List.mem_cons.mp hc with rfl | hc
      · exact absurd hd (by decide)
      · exact absurd (hds _ hc) (by decide)

theorem splitPrefix_plain {n : Text} (hn : ':' ∉ n) : splitPrefix n = ([], n) := by
  have hall : ∀ c ∈ n, decide (c ≠ ':') = true := by
    intro c hc
    exact decide_eq_true fun h => hn (h ▸ hc)
  have hdrop : n.dropWhile (· ≠ ':') = [] := by
    have hstop : Stops (fun c => decide (c ≠ ':')) [] := by simp [Stops]
    simpa using (takeWhile_append_of_stops hall hstop).2
  rw [splitPrefix, hdrop]

theorem splitPrefix_joined {label : Text} (hl : ':' ∉ label) (n : Text) :
    splitPrefix (label ++ ':' :: n) = (label, n) := by
  have hall : ∀ c ∈ label, decide (c ≠ ':') = true := by
    intro c hc
    exact decide_eq_true fun h => hl (h ▸ hc)
  have hstop : Stops (fun c => decide (c ≠ ':')) (':' :: n) := by simp
  obtain ⟨htake, hdrop⟩ := takeWhile_append_of_stops hall hstop
  simp only [splitPrefix, hdrop, htake]

end SourceAtlas.Xml
