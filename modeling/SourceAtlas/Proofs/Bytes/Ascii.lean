import SourceAtlas.Proofs.Bytes.Utf8

/-!
# ASCII bytes between others

No sequence of bytes goes on with an ASCII byte.  Wherever one stands, the decoder closes what is open,
reads the byte as the character that it is, and starts afresh behind it.  So what is in front of it
and what is behind it, malformed or not, are decoded independently.
-/

namespace SourceAtlas.Utf8

/-- The sequence that is open, if there is one, does not go on with an ASCII byte. -/
def BarsAscii (state : Option Open) : Prop :=
  ∀ o, state = some o → ∀ range ∈ o.expected, 0x80 ≤ range.1.toNat

variable {b : UInt8} {state : Option Open}

theorem barsAscii_none : BarsAscii none := fun _ h => nomatch h

theorem barsAscii_some {o : Open} (h : ∀ range ∈ o.expected, 0x80 ≤ range.1.toNat) :
    BarsAscii (some o) := by
  intro o' ho'
  obtain rfl := Option.some.inj ho'
  exact h

/-- No byte opens a sequence that goes on with an ASCII byte. -/
theorem barsAscii_readFirst (b : UInt8) : BarsAscii (readFirst b).2 := by
  have htail : 0x80 ≤ tailRange.1.toNat := by decide
  obtain ⟨n, hn, rfl⟩ | ⟨x, hx, hx', rfl⟩ | ⟨x, hx, rfl⟩ | ⟨x, hx, rfl⟩ | hother := first_cases b
  · rw [readFirst_one hn]
    exact barsAscii_none
  · rw [readFirst_two hx hx']
    exact barsAscii_some (by simp [htail])
  · rw [readFirst_three hx]
    exact barsAscii_some (by simp [htail, le_secondOfThree x])
  · rw [readFirst_four hx]
    exact barsAscii_some (by simp [htail, le_secondOfFour x])
  · rw [readFirst_other hother]
    exact barsAscii_none

/-- A sequence that goes on expects no other bytes than before. -/
theorem BarsAscii.readByte (h : BarsAscii state) (b : UInt8) : BarsAscii (readByte state b).2 := by
  have hfirst := barsAscii_readFirst b
  cases state with
  | none => exact hfirst
  | some o =>
      have hbars := h o rfl
      unfold Utf8.readByte
      dsimp only
      split
      · exact hfirst
      · next range expected hexpected =>
          rw [hexpected, List.forall_mem_cons] at hbars
          split
          · split
            · exact barsAscii_none
            · exact barsAscii_some hbars.2
          · exact hfirst

theorem readFirst_ascii (hb : b.toNat < 0x80) :
    readFirst b = ([.char (Char.ofNat b.toNat)], none) := by
  have hread := readFirst_one hb
  rwa [UInt8.ofNat_toNat] at hread

/-- An ASCII byte closes what is open and stands for itself. -/
theorem readByte_ascii (h : BarsAscii state) (hb : b.toNat < 0x80) :
    ∃ broken, readByte state b = (broken ++ [.char (Char.ofNat b.toNat)], none) := by
  cases state with
  | none => exact ⟨[], readFirst_ascii hb⟩
  | some o =>
      refine ⟨[.malformed o.first o.length .invalidContinuation], ?_⟩
      have hbars := h o rfl
      unfold readByte
      dsimp only
      rw [readFirst_ascii hb]
      split
      · rfl
      · next range expected hexpected =>
          rw [hexpected, List.forall_mem_cons] at hbars
          have hout : ¬ (range.1 ≤ b && b ≤ range.2) = true := by
            simp only [Bool.and_eq_true, decide_eq_true_eq, UInt8.le_iff_toNat_le]
            omega
          rw [if_neg hout]
          rfl

theorem scan_cons (state : Option Open) (b : UInt8) (bs : Bytes) :
    scan state (b :: bs) = (readByte state b).1 ++ scan (readByte state b).2 bs := by
  rw [scan.eq_3]

theorem exists_scan_ascii (h : BarsAscii state) (hb : b.toNat < 0x80) (front : Bytes) :
    ∃ before, ∀ rest, scan state (front ++ b :: rest) =
      before ++ .char (Char.ofNat b.toNat) :: scan none rest := by
  induction front generalizing state with
  | nil =>
      obtain ⟨broken, hread⟩ := readByte_ascii h hb
      refine ⟨broken, fun rest => ?_⟩
      rw [List.nil_append, scan_cons, hread, List.append_assoc, List.singleton_append]
  | cons d ds ih =>
      obtain ⟨before, hbefore⟩ := ih (h.readByte d)
      refine ⟨(readByte state d).1 ++ before, fun rest => ?_⟩
      rw [List.cons_append, scan_cons, hbefore rest, List.append_assoc]

/-- What precedes an ASCII byte is decoded alike whatever follows it, and what follows is decoded as if
nothing preceded. -/
theorem exists_decode_ascii (hb : b.toNat < 0x80) (front : Bytes) :
    ∃ before, ∀ rest, decode (front ++ b :: rest) =
      before ++ Char.ofNat b.toNat :: decode rest := by
  obtain ⟨before, hbefore⟩ := exists_scan_ascii barsAscii_none hb front
  refine ⟨before.map Piece.toChar, fun rest => ?_⟩
  rw [decode, pieces, hbefore rest, List.map_append, List.map_cons]
  rfl

end SourceAtlas.Utf8
