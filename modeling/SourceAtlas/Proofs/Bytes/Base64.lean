import SourceAtlas.Bytes.Base64

/-!
# Base64 gives the bytes back

Every group of letters decodes to the bytes that it was made of, since the letters stand for their
six bits each; the text of a byte string holds nothing but letters and the filling.
-/

namespace SourceAtlas.Base64

theorem letter_spec : ∀ n < 64, value? (letter n) = some n ∧ letter n ≠ '=' := by decide

theorem value?_letter {n : Nat} (h : n < 64) : value? (letter n) = some n := (letter_spec n h).1

theorem letter_ne {n : Nat} (h : n < 64) : letter n ≠ '=' := (letter_spec n h).2

/-! ## The bits of three bytes -/

section Bits

variable (a b c : UInt8)

theorem first_letter_lt : a.toNat / 4 < 64 := by
  have := a.toNat_lt
  omega

theorem second_letter_lt : a.toNat % 4 * 16 + b.toNat / 16 < 64 := by
  have := b.toNat_lt
  omega

theorem third_letter_lt : b.toNat % 16 * 4 + c.toNat / 64 < 64 := by
  have := c.toNat_lt
  omega

theorem fourth_letter_lt : c.toNat % 64 < 64 := Nat.mod_lt _ (by decide)

theorem first_byte {n : Nat} (h : n < 16) :
    UInt8.ofNat (a.toNat / 4 * 4 + (a.toNat % 4 * 16 + n) / 16) = a := by
  have hbits : a.toNat / 4 * 4 + (a.toNat % 4 * 16 + n) / 16 = a.toNat := by omega
  rw [hbits, UInt8.ofNat_toNat]

theorem second_byte {n : Nat} (h : n < 4) :
    UInt8.ofNat ((a.toNat % 4 * 16 + b.toNat / 16) % 16 * 16 + (b.toNat % 16 * 4 + n) / 4) = b := by
  have hb := b.toNat_lt
  have hbits : (a.toNat % 4 * 16 + b.toNat / 16) % 16 * 16 + (b.toNat % 16 * 4 + n) / 4 = b.toNat := by
    omega
  rw [hbits, UInt8.ofNat_toNat]

theorem third_byte :
    UInt8.ofNat ((b.toNat % 16 * 4 + c.toNat / 64) % 4 * 64 + c.toNat % 64) = c := by
  have hc := c.toNat_lt
  have hbits : (b.toNat % 16 * 4 + c.toNat / 64) % 4 * 64 + c.toNat % 64 = c.toNat := by omega
  rw [hbits, UInt8.ofNat_toNat]

end Bits

/-! ## Decoding -/

/-- Four letters are decoded before the rest. -/
theorem decode?_letters {x y z w : Nat} (hx : x < 64) (hy : y < 64) (hz : z < 64) (hw : w < 64)
    (rest : Text) :
    decode? (letter x :: letter y :: letter z :: letter w :: rest) =
      (decode? rest).map fun bytes => UInt8.ofNat (x * 4 + y / 16) ::
        UInt8.ofNat (y % 16 * 16 + z / 4) :: UInt8.ofNat (z % 4 * 64 + w) :: bytes := by
  rw [decode?]
  · rw [value?_letter hx, value?_letter hy, value?_letter hz, value?_letter hw]
    cases decode? rest <;> rfl
  · exact fun h => absurd h (letter_ne hz)
  · exact fun h => absurd h (letter_ne hw)

/-- The bytes of the text of a byte string are that byte string. -/
theorem decode?_encode (bytes : Bytes) : decode? (encode bytes) = some bytes := by
  fun_induction encode bytes with
  | case1 => rfl
  | case2 a =>
      have hsecond : a.toNat % 4 * 16 < 64 := by omega
      have hbyte := first_byte a (n := 0) (by decide)
      rw [decode?, value?_letter (first_letter_lt a), value?_letter hsecond]
      exact congrArg (fun byte => some [byte]) hbyte
  | case3 a b =>
      have hthird : b.toNat % 16 * 4 < 64 := by omega
      have hn : b.toNat / 16 < 16 := by
        have := b.toNat_lt
        omega
      have hfirst := first_byte a hn
      have hsecond := second_byte a b (n := 0) (by decide)
      rw [decode?, value?_letter (first_letter_lt a), value?_letter (second_letter_lt a b),
        value?_letter hthird]
      · exact congrArg some (List.cons_eq_cons.mpr ⟨hfirst, congrArg (fun byte => [byte]) hsecond⟩)
      · exact fun h => absurd h (letter_ne hthird)
  | case4 a b c rest ih =>
      have hn : b.toNat / 16 < 16 := by
        have := b.toNat_lt
        omega
      have hm : c.toNat / 64 < 4 := by
        have := c.toNat_lt
        omega
      rw [decode?_letters (first_letter_lt a) (second_letter_lt a b) (third_letter_lt b c)
        (fourth_letter_lt c), ih, Option.map_some, first_byte a hn, second_byte a b hm,
        third_byte b c]

/-! ## Characters -/

/-- A text of a byte string holds letters and the filling. -/
theorem of_mem_encode {bytes : Bytes} {x : Char} (h : x ∈ encode bytes) :
    (∃ n < 64, x = letter n) ∨ x = '=' := by
  fun_induction encode bytes with
  | case1 => simp at h
  | case2 a =>
      simp only [List.mem_cons, List.not_mem_nil, or_false] at h
      rcases h with h | h | h | h
      · exact .inl ⟨_, first_letter_lt a, h⟩
      · exact .inl ⟨a.toNat % 4 * 16, by omega, h⟩
      · exact .inr h
      · exact .inr h
  | case3 a b =>
      simp only [List.mem_cons, List.not_mem_nil, or_false] at h
      rcases h with h | h | h | h
      · exact .inl ⟨_, first_letter_lt a, h⟩
      · exact .inl ⟨_, second_letter_lt a b, h⟩
      · exact .inl ⟨b.toNat % 16 * 4, by omega, h⟩
      · exact .inr h
  | case4 a b c rest ih =>
      simp only [List.mem_cons] at h
      rcases h with h | h | h | h | h
      · exact .inl ⟨_, first_letter_lt a, h⟩
      · exact .inl ⟨_, second_letter_lt a b, h⟩
      · exact .inl ⟨_, third_letter_lt b c, h⟩
      · exact .inl ⟨_, fourth_letter_lt c, h⟩
      · exact ih h

end SourceAtlas.Base64
