import SourceAtlas.Text.Utf8

/-!
# Valid UTF-8

A byte string is valid if it is the encoding of a text.  The decoder finds a malformed part in a byte
string exactly if it is not valid: it reads the bytes of a character as that character, and what it
reads as a character are the bytes of one.
-/

namespace SourceAtlas.Utf8

/-- Bytes that are the encoding of a text. -/
def Valid (bytes : Bytes) : Prop := ∃ t, encode t = bytes

/-! ## Bytes as numbers -/

theorem toNat_and_low (b : UInt8) :
    (b &&& 0x1F).toNat = b.toNat % 32 ∧ (b &&& 0x0F).toNat = b.toNat % 16 ∧
      (b &&& 0x07).toNat = b.toNat % 8 ∧ (b &&& 0x3F).toNat = b.toNat % 64 := by
  simp only [UInt8.toNat_and, UInt8.reduceToNat]
  exact ⟨Nat.and_two_pow_sub_one_eq_mod b.toNat 5, Nat.and_two_pow_sub_one_eq_mod b.toNat 4,
    Nat.and_two_pow_sub_one_eq_mod b.toNat 3, Nat.and_two_pow_sub_one_eq_mod b.toNat 6⟩

theorem toNat_ofNat {n : Nat} (h : n < 256) : (UInt8.ofNat n).toNat = n :=
  UInt8.toNat_ofNat_of_lt' h

/-! ## The bytes of a character -/

/-- The bytes of the character with a number. -/
inductive Sequence : Bytes → Nat → Prop
  | one {n : Nat} (h : n < 0x80) : Sequence [UInt8.ofNat n] n
  | two {x y : Nat} (hx : 2 ≤ x) (hx' : x < 32) (hy : y < 64) :
      Sequence [UInt8.ofNat (x + 0xC0), UInt8.ofNat (y + 0x80)] (x * 64 + y)
  | three {x y z : Nat} (hx : x < 16) (hy : y < 64) (hz : z < 64)
      (hlong : 0x800 ≤ x * 4096 + y * 64 + z)
      (hscalar : ¬ (0xD800 ≤ x * 4096 + y * 64 + z ∧ x * 4096 + y * 64 + z < 0xE000)) :
      Sequence [UInt8.ofNat (x + 0xE0), UInt8.ofNat (y + 0x80), UInt8.ofNat (z + 0x80)]
        (x * 4096 + y * 64 + z)
  | four {x y z w : Nat} (hx : x < 5) (hy : y < 64) (hz : z < 64) (hw : w < 64)
      (hlong : 0x10000 ≤ x * 262144 + y * 4096 + z * 64 + w)
      (hscalar : x * 262144 + y * 4096 + z * 64 + w < 0x110000) :
      Sequence [UInt8.ofNat (x + 0xF0), UInt8.ofNat (y + 0x80), UInt8.ofNat (z + 0x80),
        UInt8.ofNat (w + 0x80)] (x * 262144 + y * 4096 + z * 64 + w)

theorem sequence_encodeChar (c : Char) : Sequence (String.utf8EncodeChar c) c.toNat := by
  have hscalar : c.toNat < 0x110000 ∧ ¬ (0xD800 ≤ c.toNat ∧ c.toNat < 0xE000) := by
    rcases c.valid with h | ⟨h, h'⟩ <;> simp only [UInt32.toNat, Char.toNat] at * <;> omega
  fun_cases String.utf8EncodeChar with
  | case1 v h =>
      apply Sequence.one
      change c.toNat ≤ 127 at h
      exact Nat.lt_succ_of_le h
  | case2 v h₁ h =>
      change ¬ c.toNat ≤ 127 at h₁
      change c.toNat ≤ 2047 at h
      have hsequence := Sequence.two (x := c.toNat / 64 % 32) (y := c.toNat % 64) (by omega)
        (by omega) (by omega)
      rwa [show c.toNat / 64 % 32 * 64 + c.toNat % 64 = c.toNat by omega] at hsequence
  | case3 v h₁ h₂ h =>
      change ¬ c.toNat ≤ 2047 at h₂
      change c.toNat ≤ 65535 at h
      have hsum : c.toNat / 4096 % 16 * 4096 + c.toNat / 64 % 64 * 64 + c.toNat % 64 = c.toNat := by
        omega
      have hsequence := Sequence.three (x := c.toNat / 4096 % 16) (y := c.toNat / 64 % 64)
        (z := c.toNat % 64) (by omega) (by omega) (by omega) (by omega) (by omega)
      rwa [hsum] at hsequence
  | case4 v h₁ h₂ h₃ =>
      change ¬ c.toNat ≤ 65535 at h₃
      have hsum : c.toNat / 262144 % 8 * 262144 + c.toNat / 4096 % 64 * 4096 +
          c.toNat / 64 % 64 * 64 + c.toNat % 64 = c.toNat := by omega
      have hsequence := Sequence.four (x := c.toNat / 262144 % 8) (y := c.toNat / 4096 % 64)
        (z := c.toNat / 64 % 64) (w := c.toNat % 64) (by omega) (by omega) (by omega) (by omega)
        (by omega) (by omega)
      rwa [hsum] at hsequence

/-- A number that stands for a character. -/
theorem toNat_charOfNat {n : Nat} (h : n < 0xD800 ∨ 0xDFFF < n ∧ n < 0x110000) :
    (Char.ofNat n).toNat = n := by
  rw [Char.ofNat, dif_pos h]
  rfl

/-- The bytes of a character are what it is encoded as. -/
theorem Sequence.eq_encodeChar {bytes : Bytes} {n : Nat} (h : Sequence bytes n) :
    bytes = String.utf8EncodeChar (Char.ofNat n) := by
  cases h with
  | @one n h =>
      have hn : (Char.ofNat n).val.toNat = n := toNat_charOfNat (by omega)
      rw [String.utf8EncodeChar, hn]
      exact (if_pos (by omega)).symm
  | @two x y hx hx' hy =>
      have hn : (Char.ofNat (x * 64 + y)).val.toNat = x * 64 + y := toNat_charOfNat (by omega)
      rw [String.utf8EncodeChar, hn]
      rw [if_neg (by omega), if_pos (by omega),
        show (x * 64 + y) / 64 % 32 = x by omega, show (x * 64 + y) % 64 = y by omega]
  | @three x y z hx hy hz hlong hscalar =>
      have hn : (Char.ofNat (x * 4096 + y * 64 + z)).val.toNat = x * 4096 + y * 64 + z :=
        toNat_charOfNat (by omega)
      rw [String.utf8EncodeChar, hn]
      rw [if_neg (by omega), if_neg (by omega), if_pos (by omega),
        show (x * 4096 + y * 64 + z) / 4096 % 16 = x by omega,
        show (x * 4096 + y * 64 + z) / 64 % 64 = y by omega,
        show (x * 4096 + y * 64 + z) % 64 = z by omega]
  | @four x y z w hx hy hz hw hlong hscalar =>
      have hn : (Char.ofNat (x * 262144 + y * 4096 + z * 64 + w)).val.toNat =
          x * 262144 + y * 4096 + z * 64 + w := toNat_charOfNat (by omega)
      rw [String.utf8EncodeChar, hn]
      rw [if_neg (by omega), if_neg (by omega), if_neg (by omega),
        show (x * 262144 + y * 4096 + z * 64 + w) / 262144 % 8 = x by omega,
        show (x * 262144 + y * 4096 + z * 64 + w) / 4096 % 64 = y by omega,
        show (x * 262144 + y * 4096 + z * 64 + w) / 64 % 64 = z by omega,
        show (x * 262144 + y * 4096 + z * 64 + w) % 64 = w by omega]

theorem Sequence.ne_nil {bytes : Bytes} {n : Nat} (h : Sequence bytes n) : bytes ≠ [] := by
  cases h <;> exact List.cons_ne_nil _ _

/-! ## Reading a first byte -/

/-- The bytes that may follow a first byte with the low bits `x` in a sequence of three. -/
def secondOfThree (x : Nat) : UInt8 × UInt8 :=
  if x = 0 then (0xA0, 0xBF) else if x = 13 then (0x80, 0x9F) else tailRange

/-- The bytes that may follow a first byte with the low bits `x` in a sequence of four. -/
def secondOfFour (x : Nat) : UInt8 × UInt8 :=
  if x = 0 then (0x90, 0xBF) else if x = 4 then (0x80, 0x8F) else tailRange

theorem readFirst_one {n : Nat} (h : n < 0x80) :
    readFirst (UInt8.ofNat n) = ([.char (Char.ofNat n)], none) := by
  simp only [readFirst, UInt8.lt_iff_toNat_lt, toNat_ofNat (show n < 256 by omega),
    UInt8.reduceToNat]
  exact if_pos h

theorem readFirst_two {x : Nat} (hx : 2 ≤ x) (hx' : x < 32) :
    readFirst (UInt8.ofNat (x + 0xC0)) =
      ([], some ⟨UInt8.ofNat (x + 0xC0), 1, x, [tailRange]⟩) := by
  have hlow := (toNat_and_low (UInt8.ofNat (x + 0xC0))).1
  have hb : (UInt8.ofNat (x + 0xC0)).toNat = x + 0xC0 := toNat_ofNat (by omega)
  simp only [readFirst, opens?, UInt8.lt_iff_toNat_lt, UInt8.reduceToNat, hlow, hb]
  rw [if_neg (by omega), if_neg (by omega), if_pos (by omega), show (x + 0xC0) % 32 = x by omega]

theorem readFirst_three {x : Nat} (hx : x < 16) :
    readFirst (UInt8.ofNat (x + 0xE0)) =
      ([], some ⟨UInt8.ofNat (x + 0xE0), 1, x, [secondOfThree x, tailRange]⟩) := by
  have hlow := (toNat_and_low (UInt8.ofNat (x + 0xE0))).2.1
  have hb : (UInt8.ofNat (x + 0xE0)).toNat = x + 0xE0 := toNat_ofNat (by omega)
  have hzero : x + 0xE0 = 0xE0 ↔ x = 0 := by omega
  have hlast : x + 0xE0 = 0xED ↔ x = 13 := by omega
  simp only [readFirst, opens?, UInt8.lt_iff_toNat_lt, ← UInt8.toNat_inj, UInt8.reduceToNat, hlow, hb,
    hzero, hlast]
  rw [if_neg (by omega), if_neg (by omega), if_neg (by omega), if_pos (by omega),
    show (x + 0xE0) % 16 = x by omega, secondOfThree]

theorem readFirst_four {x : Nat} (hx : x < 5) :
    readFirst (UInt8.ofNat (x + 0xF0)) =
      ([], some ⟨UInt8.ofNat (x + 0xF0), 1, x, [secondOfFour x, tailRange, tailRange]⟩) := by
  have hlow := (toNat_and_low (UInt8.ofNat (x + 0xF0))).2.2.1
  have hb : (UInt8.ofNat (x + 0xF0)).toNat = x + 0xF0 := toNat_ofNat (by omega)
  have hzero : x + 0xF0 = 0xF0 ↔ x = 0 := by omega
  have hlast : x + 0xF0 = 0xF4 ↔ x = 4 := by omega
  simp only [readFirst, opens?, UInt8.lt_iff_toNat_lt, ← UInt8.toNat_inj, UInt8.reduceToNat, hlow, hb,
    hzero, hlast]
  rw [if_neg (by omega), if_neg (by omega), if_neg (by omega), if_neg (by omega), if_pos (by omega),
    show (x + 0xF0) % 8 = x by omega, secondOfFour]

theorem readFirst_other {b : UInt8} (h : 0x80 ≤ b.toNat ∧ b.toNat < 0xC2 ∨ 0xF5 ≤ b.toNat) :
    readFirst b = ([.malformed b 1 .invalidStart], none) := by
  simp only [readFirst, opens?, UInt8.lt_iff_toNat_lt, UInt8.reduceToNat]
  rw [if_neg (by omega)]
  obtain h | h := h
  · rw [if_pos h.2]
  · rw [if_neg (by omega), if_neg (by omega), if_neg (by omega), if_neg (by omega)]

/-- What a first byte is. -/
theorem first_cases (b : UInt8) :
    (∃ n < 0x80, b = UInt8.ofNat n) ∨ (∃ x, 2 ≤ x ∧ x < 32 ∧ b = UInt8.ofNat (x + 0xC0)) ∨
      (∃ x < 16, b = UInt8.ofNat (x + 0xE0)) ∨ (∃ x < 5, b = UInt8.ofNat (x + 0xF0)) ∨
      (0x80 ≤ b.toNat ∧ b.toNat < 0xC2 ∨ 0xF5 ≤ b.toNat) := by
  have hbelow : ∀ {base}, base ≤ b.toNat → b = UInt8.ofNat (b.toNat - base + base) := fun h => by
    rw [Nat.sub_add_cancel h, UInt8.ofNat_toNat]
  by_cases h0 : b.toNat < 0x80
  · exact .inl ⟨b.toNat, h0, UInt8.ofNat_toNat.symm⟩
  by_cases h1 : b.toNat < 0xC2
  · exact .inr (.inr (.inr (.inr (.inl ⟨by omega, h1⟩))))
  by_cases h2 : b.toNat < 0xE0
  · exact .inr (.inl ⟨b.toNat - 0xC0, by omega, by omega, hbelow (by omega)⟩)
  by_cases h3 : b.toNat < 0xF0
  · exact .inr (.inr (.inl ⟨b.toNat - 0xE0, by omega, hbelow (by omega)⟩))
  by_cases h4 : b.toNat < 0xF5
  · exact .inr (.inr (.inr (.inl ⟨b.toNat - 0xF0, by omega, hbelow (by omega)⟩)))
  · exact .inr (.inr (.inr (.inr (.inr (by omega)))))

/-! ## Reading the bytes after it -/

variable {first : UInt8} {length bits y : Nat} {range next : UInt8 × UInt8}
  {expected : List (UInt8 × UInt8)} {bs : Bytes}

/-- The byte with the six bits `y` lies in a range. -/
def InRange (range : UInt8 × UInt8) (y : Nat) : Prop :=
  range.1.toNat ≤ y + 0x80 ∧ y + 0x80 ≤ range.2.toNat

theorem inRange_tailRange : InRange tailRange y ↔ y < 64 := by
  simp only [InRange, tailRange, UInt8.reduceToNat]
  omega

theorem inRange_secondOfThree {x : Nat} (hx : x < 16) :
    InRange (secondOfThree x) y ↔ y < 64 ∧ 0x20 ≤ x * 64 + y ∧
      ¬ (0x360 ≤ x * 64 + y ∧ x * 64 + y < 0x380) := by
  rw [secondOfThree]
  split
  next h => simp only [InRange, UInt8.reduceToNat]; omega
  next h =>
    split
    next h' => simp only [InRange, UInt8.reduceToNat]; omega
    next h' => rw [inRange_tailRange]; omega

theorem inRange_secondOfFour {x : Nat} (hx : x < 5) :
    InRange (secondOfFour x) y ↔ y < 64 ∧ 0x10 ≤ x * 64 + y ∧ x * 64 + y < 0x110 := by
  rw [secondOfFour]
  split
  next h => simp only [InRange, UInt8.reduceToNat]; omega
  next h =>
    split
    next h' => simp only [InRange, UInt8.reduceToNat]; omega
    next h' => rw [inRange_tailRange]; omega

theorem le_secondOfThree (x : Nat) : 0x80 ≤ (secondOfThree x).1.toNat := by
  rw [secondOfThree]
  split
  next => decide
  next => split <;> decide

theorem le_secondOfFour (x : Nat) : 0x80 ≤ (secondOfFour x).1.toNat := by
  rw [secondOfFour]
  split
  next => decide
  next => split <;> decide

theorem scan_some (hy : y < 64) (hrange : InRange range y) :
    scan (some ⟨first, length, bits, range :: expected⟩) (UInt8.ofNat (y + 0x80) :: bs) =
      match expected with
      | [] => .char (Char.ofNat (bits * 64 + y)) :: scan none bs
      | _ => scan (some ⟨first, length + 1, bits * 64 + y, expected⟩) bs := by
  have hb : (UInt8.ofNat (y + 0x80)).toNat = y + 0x80 := toNat_ofNat (by omega)
  have hlow : (UInt8.ofNat (y + 0x80) &&& 0x3F).toNat = y := by
    rw [(toNat_and_low _).2.2.2, hb]
    omega
  have hin : (range.1 ≤ UInt8.ofNat (y + 0x80) && UInt8.ofNat (y + 0x80) ≤ range.2) = true := by
    simp only [UInt8.le_iff_toNat_le, hb, Bool.and_eq_true, decide_eq_true_eq]
    exact hrange
  cases expected with
  | nil => simp only [scan, readByte, hin, if_true, hlow, List.singleton_append]
  | cons next expected => simp only [scan, readByte, hin, if_true, hlow, List.nil_append]

/-- Where a sequence is open and nothing malformed follows, the next byte continues it. -/
theorem exists_continuation (hlow : 0x80 ≤ range.1.toNat)
    (h : ∀ piece ∈ scan (some ⟨first, length, bits, range :: expected⟩) bs, ∃ c, piece = .char c) :
    ∃ y bs', bs = UInt8.ofNat (y + 0x80) :: bs' ∧ InRange range y := by
  cases bs with
  | nil =>
      obtain ⟨c, hc⟩ := h _ (List.mem_singleton_self _)
      cases hc
  | cons b bs =>
      by_cases hin : (range.1 ≤ b && b ≤ range.2) = true
      · rw [Bool.and_eq_true, decide_eq_true_eq, decide_eq_true_eq, UInt8.le_iff_toNat_le,
          UInt8.le_iff_toNat_le] at hin
        have hb : b.toNat - 0x80 + 0x80 = b.toNat := by omega
        refine ⟨b.toNat - 0x80, bs, ?_, ?_⟩
        · rw [hb, UInt8.ofNat_toNat]
        · rw [InRange, hb]
          exact hin
      · obtain ⟨c, hc⟩ := h (.malformed first length .invalidContinuation) (by
          simp only [scan, readByte, hin]
          exact List.mem_append_left _ List.mem_cons_self)
        cases hc

/-! ## Reading a character -/

theorem Sequence.scan_eq {bytes : Bytes} {n : Nat} (h : Sequence bytes n) (rest : Bytes) :
    scan none (bytes ++ rest) = .char (Char.ofNat n) :: scan none rest := by
  cases h with
  | one h => simp only [List.singleton_append, scan, readByte, readFirst_one h]
  | @two x y hx hx' hy =>
      simp only [List.cons_append, List.nil_append, scan.eq_3, readByte, readFirst_two hx hx',
        scan_some hy (inRange_tailRange.mpr hy)]
  | @three x y z hx hy hz hlong hscalar =>
      have hsecond := (inRange_secondOfThree (y := y) hx).mpr ⟨hy, by omega, by omega⟩
      simp only [List.cons_append, List.nil_append, scan.eq_3, readByte, readFirst_three hx,
        scan_some hy hsecond, scan_some hz (inRange_tailRange.mpr hz)]
      rw [show (x * 64 + y) * 64 + z = x * 4096 + y * 64 + z by omega]
  | @four x y z w hx hy hz hw hlong hscalar =>
      have hsecond := (inRange_secondOfFour (y := y) hx).mpr ⟨hy, by omega, by omega⟩
      simp only [List.cons_append, List.nil_append, scan.eq_3, readByte, readFirst_four hx,
        scan_some hy hsecond, scan_some hz (inRange_tailRange.mpr hz),
        scan_some hw (inRange_tailRange.mpr hw)]
      rw [show ((x * 64 + y) * 64 + z) * 64 + w = x * 262144 + y * 4096 + z * 64 + w by omega]

/-- What is read without a malformed part begins with the bytes of a character. -/
theorem exists_sequence {b : UInt8} (h : ∀ piece ∈ scan none (b :: bs), ∃ c, piece = .char c) :
    ∃ bytes n rest, b :: bs = bytes ++ rest ∧ Sequence bytes n := by
  obtain ⟨n, hn, rfl⟩ | ⟨x, hx, hx', rfl⟩ | ⟨x, hx, rfl⟩ | ⟨x, hx, rfl⟩ | hother := first_cases b
  · exact ⟨_, n, bs, rfl, .one hn⟩
  · simp only [scan.eq_3, readByte, readFirst_two hx hx', List.nil_append] at h
    obtain ⟨y, bs, rfl, hy⟩ := exists_continuation (by decide) h
    rw [inRange_tailRange] at hy
    exact ⟨_, _, bs, rfl, .two hx hx' hy⟩
  · simp only [scan.eq_3, readByte, readFirst_three hx, List.nil_append] at h
    obtain ⟨y, bs, rfl, hsecond⟩ := exists_continuation (le_secondOfThree x) h
    obtain ⟨hy, hlong, hscalar⟩ := (inRange_secondOfThree hx).mp hsecond
    simp only [scan_some hy hsecond] at h
    obtain ⟨z, bs, rfl, hz⟩ := exists_continuation (by decide) h
    rw [inRange_tailRange] at hz
    exact ⟨_, _, bs, rfl, .three hx hy hz (by omega) (by omega)⟩
  · simp only [scan.eq_3, readByte, readFirst_four hx, List.nil_append] at h
    obtain ⟨y, bs, rfl, hsecond⟩ := exists_continuation (le_secondOfFour x) h
    obtain ⟨hy, hlong, hscalar⟩ := (inRange_secondOfFour hx).mp hsecond
    simp only [scan_some hy hsecond] at h
    obtain ⟨z, bs, rfl, hz⟩ := exists_continuation (by decide) h
    have hz' := inRange_tailRange.mp hz
    simp only [scan_some hz' hz] at h
    obtain ⟨w, bs, rfl, hw⟩ := exists_continuation (by decide) h
    rw [inRange_tailRange] at hw
    exact ⟨_, _, bs, rfl, .four hx hy hz' hw (by omega) (by omega)⟩
  · simp only [scan.eq_3, readByte, readFirst_other hother] at h
    obtain ⟨c, hc⟩ := h _ (List.mem_append_left _ (List.mem_singleton_self _))
    cases hc

theorem firstMalformedFrom_eq_none {ps : List Piece} {position : Nat} :
    firstMalformedFrom position ps = none ↔ ∀ piece ∈ ps, ∃ c, piece = .char c := by
  induction ps generalizing position with
  | nil => simp only [firstMalformedFrom, List.not_mem_nil, false_implies, implies_true]
  | cons piece ps ih =>
      cases piece with
      | char c => simp only [firstMalformedFrom, ih, List.forall_mem_cons, Piece.char.injEq,
          exists_eq', true_and]
      | malformed first length cause =>
          simp only [firstMalformedFrom, List.forall_mem_cons, reduceCtorEq, exists_false, false_and]

theorem scan_encode (t : Text) : scan none (encode t) = t.map .char := by
  induction t with
  | nil => rfl
  | cons c t ih =>
      calc scan none (encode (c :: t))
          = scan none (String.utf8EncodeChar c ++ encode t) := by rw [encode, List.flatMap_cons, encode]
        _ = .char (Char.ofNat c.toNat) :: scan none (encode t) := (sequence_encodeChar c).scan_eq _
        _ = (c :: t).map .char := by rw [ih, Char.ofNat_toNat, List.map_cons]

theorem encode_injective : Function.Injective encode := by
  intro t u h
  have hscan := congrArg (scan none) h
  rw [scan_encode, scan_encode] at hscan
  exact (List.map_inj_right fun _ _ => Piece.char.inj).mp hscan

theorem valid_of_scan {bytes : Bytes} (h : ∀ piece ∈ scan none bytes, ∃ c, piece = .char c) :
    Valid bytes := by
  -- What is left after a character is shorter.
  induction hlength : bytes.length using Nat.strongRecOn generalizing bytes with
  | ind length ih =>
      cases bytes with
      | nil => exact ⟨[], rfl⟩
      | cons b bs =>
          obtain ⟨head, n, rest, heq, hsequence⟩ := exists_sequence h
          rw [heq, hsequence.scan_eq] at h
          rw [heq, List.length_append] at hlength
          have hpos := List.length_pos_iff.mpr hsequence.ne_nil
          obtain ⟨t, ht⟩ := ih rest.length (by omega) (List.forall_mem_cons.mp h).2 rfl
          refine ⟨Char.ofNat n :: t, ?_⟩
          rw [heq, hsequence.eq_encodeChar, ← ht, encode, List.flatMap_cons, encode]

/-- A byte string holds a malformed part exactly if it is not valid. -/
theorem firstMalformed_eq_none_iff {bytes : Bytes} : firstMalformed bytes = none ↔ Valid bytes := by
  rw [firstMalformed, firstMalformedFrom_eq_none, pieces]
  constructor
  · exact valid_of_scan
  · rintro ⟨t, rfl⟩ piece hpiece
    rw [scan_encode, List.mem_map] at hpiece
    obtain ⟨c, -, rfl⟩ := hpiece
    exact ⟨c, rfl⟩

end SourceAtlas.Utf8
