import SourceAtlas.Text.Utf8
import SourceAtlas.Xml.Encoding

/-!
# Reading the characters of a written document

Writing and reading meet in three steps.  The bytes of a written text decode to the text itself,
except that the two code points that are no characters become one mark.  Line ends are then made
uniform, piece by piece, since no piece of a document begins with a line feed after one that ends
in a carriage return.
-/

namespace SourceAtlas.Xml

open Text

/-! ## UTF-8 -/

/-- The byte of a number below 256. -/
theorem toNat_byte {n : Nat} (h : n < 256) : (UInt8.ofNat n).toNat = n := UInt8.toNat_ofNat_of_lt' h

theorem isTail_byte {n : Nat} (h : n < 64) : isTail (UInt8.ofNat (n + 0x80)) = true := by
  simp only [isTail, UInt8.le_iff_toNat_le, toNat_byte (show n + 0x80 < 256 by omega), UInt8.reduceToNat]
  simp; omega

theorem tailBits_byte {n : Nat} (h : n < 64) : tailBits (UInt8.ofNat (n + 0x80)) = n := by
  simp only [tailBits, toNat_byte (show n + 0x80 < 256 by omega)]
  omega

theorem decodeUtf8_one {n : Nat} (h : n < 0x80) (bs : Bytes) :
    decodeUtf8 (UInt8.ofNat n :: bs) = Char.ofNat n :: decodeUtf8 bs := by
  have hn := toNat_byte (show n < 256 by omega)
  rw [decodeUtf8.eq_def]
  simp only [UInt8.lt_iff_toNat_lt, hn, UInt8.reduceToNat, h, if_true]

theorem decodeUtf8_two {x y : Nat} (hx : 2 ≤ x) (hx' : x < 32) (hy : y < 64) (bs : Bytes) :
    decodeUtf8 (UInt8.ofNat (x + 0xC0) :: UInt8.ofNat (y + 0x80) :: bs) =
      Char.ofNat (x * 64 + y) :: decodeUtf8 bs := by
  have hn := toNat_byte (show x + 0xC0 < 256 by omega)
  rw [decodeUtf8.eq_def]
  simp only [UInt8.lt_iff_toNat_lt, UInt8.le_iff_toNat_le, hn, UInt8.reduceToNat, isTail_byte hy, tailBits_byte hy]
  rw [if_neg (by omega), if_neg (by omega), if_pos (by omega), if_pos (by simp; omega),
    show (x + 0xC0) % 32 = x by omega]

theorem decodeUtf8_three {x y z : Nat} (hx : x < 16) (hy : y < 64) (hz : z < 64)
    (h : 0x800 ≤ x * 4096 + y * 64 + z)
    (h' : ¬ (0xD800 ≤ x * 4096 + y * 64 + z ∧ x * 4096 + y * 64 + z < 0xE000)) (bs : Bytes) :
    decodeUtf8 (UInt8.ofNat (x + 0xE0) :: UInt8.ofNat (y + 0x80) :: UInt8.ofNat (z + 0x80) :: bs) =
      charOr malformed (x * 4096 + y * 64 + z) :: decodeUtf8 bs := by
  have hn := toNat_byte (show x + 0xE0 < 256 by omega)
  have hm := toNat_byte (show y + 0x80 < 256 by omega)
  have hsecond : isSecondOfThree (UInt8.ofNat (x + 0xE0)) (UInt8.ofNat (y + 0x80)) = true := by
    simp only [isSecondOfThree, ← UInt8.toNat_inj, UInt8.le_iff_toNat_le, hn, hm, UInt8.reduceToNat, isTail_byte hy]
    split
    · simp; omega
    · split
      · simp; omega
      · rfl
  rw [decodeUtf8.eq_def]
  simp only [UInt8.lt_iff_toNat_lt, UInt8.le_iff_toNat_le, hn, UInt8.reduceToNat, hsecond, isTail_byte hz,
    tailBits_byte hy, tailBits_byte hz]
  rw [if_neg (by omega), if_neg (by omega), if_neg (by omega), if_pos (by omega),
    if_pos (by rfl), show (x + 0xE0) % 16 = x by omega]

theorem decodeUtf8_four {x y z w : Nat} (hx : x < 5) (hy : y < 64) (hz : z < 64) (hw : w < 64)
    (h : 0x10000 ≤ x * 262144 + y * 4096 + z * 64 + w)
    (h' : x * 262144 + y * 4096 + z * 64 + w < 0x110000) (bs : Bytes) :
    decodeUtf8 (UInt8.ofNat (x + 0xF0) :: UInt8.ofNat (y + 0x80) :: UInt8.ofNat (z + 0x80) ::
        UInt8.ofNat (w + 0x80) :: bs) =
      Char.ofNat (x * 262144 + y * 4096 + z * 64 + w) :: decodeUtf8 bs := by
  have hn := toNat_byte (show x + 0xF0 < 256 by omega)
  have hm := toNat_byte (show y + 0x80 < 256 by omega)
  have hsecond : isSecondOfFour (UInt8.ofNat (x + 0xF0)) (UInt8.ofNat (y + 0x80)) = true := by
    simp only [isSecondOfFour, ← UInt8.toNat_inj, UInt8.le_iff_toNat_le, hn, hm, UInt8.reduceToNat, isTail_byte hy]
    split
    · simp; omega
    · split
      · simp; omega
      · rfl
  rw [decodeUtf8.eq_def]
  simp only [UInt8.lt_iff_toNat_lt, UInt8.le_iff_toNat_le, hn, UInt8.reduceToNat, hsecond, isTail_byte hz,
    isTail_byte hw, tailBits_byte hy, tailBits_byte hz, tailBits_byte hw]
  rw [if_neg (by omega), if_neg (by omega), if_neg (by omega), if_neg (by omega),
    if_pos (by rfl), show (x + 0xF0) % 8 = x by omega]


/-- What a reader finds for a character that was written. -/
def readBack (c : Char) : Char := charOr malformed c.toNat

theorem readBack_eq (c : Char) :
    readBack c = if 0xFFFE ≤ c.toNat ∧ c.toNat ≤ 0xFFFF then malformed else c := by
  simp only [readBack, charOr, Char.ofNat_toNat]

theorem Char.toNat_scalar (c : Char) :
    c.toNat < 0x110000 ∧ ¬ (0xD800 ≤ c.toNat ∧ c.toNat < 0xE000) := by
  rcases c.valid with h | ⟨h, h'⟩ <;> simp only [UInt32.toNat, Char.toNat] at * <;> omega

theorem decodeUtf8_encodeChar_append (c : Char) (bs : Bytes) :
    decodeUtf8 (String.utf8EncodeChar c ++ bs) = readBack c :: decodeUtf8 bs := by
  obtain ⟨hlt, hgap⟩ := Char.toNat_scalar c
  have hback (h : c.toNat < 0xFFFE ∨ 0xFFFF < c.toNat) : Char.ofNat c.toNat = readBack c := by
    rw [readBack_eq, if_neg (by omega), Char.ofNat_toNat]
  fun_cases String.utf8EncodeChar with
  | case1 v h =>
      change c.toNat ≤ 127 at h
      rw [← hback (by omega)]
      exact decodeUtf8_one (n := c.toNat) (by omega) bs
  | case2 v h₁ h =>
      change ¬ c.toNat ≤ 127 at h₁
      change c.toNat ≤ 2047 at h
      rw [← hback (by omega)]
      have := decodeUtf8_two (x := c.toNat / 64 % 32) (y := c.toNat % 64)
        (by omega) (by omega) (by omega) bs
      rwa [show c.toNat / 64 % 32 * 64 + c.toNat % 64 = c.toNat by omega] at this
  | case3 v h₁ h₂ h =>
      change ¬ c.toNat ≤ 2047 at h₂
      change c.toNat ≤ 65535 at h
      have hsum : c.toNat / 4096 % 16 * 4096 + c.toNat / 64 % 64 * 64 + c.toNat % 64 = c.toNat := by
        omega
      have := decodeUtf8_three (x := c.toNat / 4096 % 16) (y := c.toNat / 64 % 64)
        (z := c.toNat % 64) (by omega) (by omega) (by omega) (by omega) (by omega) bs
      rwa [hsum] at this
  | case4 v h₁ h₂ h₃ =>
      change ¬ c.toNat ≤ 65535 at h₃
      rw [← hback (by omega)]
      have hsum : c.toNat / 262144 % 8 * 262144 + c.toNat / 4096 % 64 * 4096 +
          c.toNat / 64 % 64 * 64 + c.toNat % 64 = c.toNat := by omega
      have := decodeUtf8_four (x := c.toNat / 262144 % 8) (y := c.toNat / 4096 % 64)
        (z := c.toNat / 64 % 64) (w := c.toNat % 64) (by omega) (by omega) (by omega) (by omega)
        (by omega) (by omega) bs
      rwa [hsum] at this

theorem decodeUtf8_encode_append (t : Text) (bs : Bytes) :
    decodeUtf8 (Utf8.encode t ++ bs) = t.map readBack ++ decodeUtf8 bs := by
  induction t with
  | nil => rfl
  | cons c cs ih =>
      rw [Utf8.encode, List.flatMap_cons, List.append_assoc, decodeUtf8_encodeChar_append,
        ← Utf8.encode, ih]
      rfl

theorem decodeUtf8_encode (t : Text) : decodeUtf8 (Utf8.encode t) = t.map readBack := by
  simpa [decodeUtf8] using decodeUtf8_encode_append t []

/-! ## Line ends -/

/-- A text with uniform line ends, as it is read in front of a character that is no line feed. -/
def unifyLines : Text → Text
  | [] => []
  | '\r' :: '\n' :: cs => '\n' :: unifyLines cs
  | c :: cs => (if c = '\r' then '\n' else c) :: unifyLines cs

theorem unifyLines_eq_self {t : Text} (h : '\r' ∉ t) : unifyLines t = t := by
  fun_induction unifyLines t with
  | case1 => rfl
  | case2 cs ih => simp at h
  | case3 c cs hcr ih =>
      simp only [List.mem_cons, not_or] at h
      rw [ih h.2, if_neg (Ne.symm h.1)]

theorem not_mem_unifyLines (t : Text) : '\r' ∉ unifyLines t := by
  fun_induction unifyLines t with
  | case1 => simp
  | case2 cs ih => simpa using ih
  | case3 c cs hcr ih =>
      simp only [List.mem_cons, not_or]
      refine ⟨?_, ih⟩
      split
      · decide
      · next hne => exact Ne.symm hne

theorem forall_mem_unifyLines_iff {p : Char → Prop} (hn : p '\n') (hr : p '\r') (t : Text) :
    (∀ c ∈ unifyLines t, p c) ↔ ∀ c ∈ t, p c := by
  fun_induction unifyLines t with
  | case1 => simp
  | case2 cs ih => simp [ih, hn, hr]
  | case3 c cs hcr ih =>
      simp only [List.mem_cons, forall_eq_or_imp, ih]
      split
      · next h => simp [h, hn, hr]
      · rfl

theorem normalizeLines_append {s : Text} (h : '\r' ∉ s) (rest : Text) :
    normalizeLines (s ++ rest) = s ++ normalizeLines rest := by
  induction s with
  | nil => rfl
  | cons c cs ih =>
      simp only [List.mem_cons, not_or] at h
      have hc : c ≠ '\r' := Ne.symm h.1
      rw [List.cons_append, List.cons_append, ← ih h.2]
      cases hcs : cs ++ rest <;> simp [normalizeLines, hc]

theorem normalizeLines_append_cons (t : Text) {c : Char} (hc : c ≠ '\n') (rest : Text) :
    normalizeLines (t ++ c :: rest) = unifyLines t ++ normalizeLines (c :: rest) := by
  fun_induction unifyLines t with
  | case1 => rfl
  | case2 cs ih => simp [normalizeLines, ih]
  | case3 d cs hcr ih =>
      rw [List.cons_append, List.cons_append, ← ih]
      cases cs with
      | nil => by_cases hd : d = '\r' <;> simp [normalizeLines, hd, hc]
      | cons e es =>
          have he : ¬ (d = '\r' ∧ e = '\n') := fun h => hcr es h.1 (by rw [h.2])
          by_cases hd : d = '\r'
          · have hen : e ≠ '\n' := fun h => he ⟨hd, h⟩
            simp [normalizeLines, hd, hen]
          · simp [normalizeLines, hd]

end SourceAtlas.Xml
