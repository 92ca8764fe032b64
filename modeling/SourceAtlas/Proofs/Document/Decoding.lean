import SourceAtlas.Document.Decoding
import SourceAtlas.Proofs.Bytes.Utf8

/-!
# Decoding with and without validation

Without validation a source file is read with replacements at once.  With validation it is read
strictly, and with replacements only after it was complained of.  Both give the same text: the strict
reader accepts the bytes in which nothing has to be replaced, and reads the same characters there.
-/

namespace SourceAtlas

namespace Utf8

variable {bytes : Bytes} {t : Text}

/-! ## Reading strictly -/

/-- The text of bytes that are valid as a whole, read by the decoder of the standard library. -/
def readStrictly? (bytes : Bytes) : Option Text := bytes.toByteArray.utf8Decode?.map Array.toList

theorem readStrictly?_encode (t : Text) : readStrictly? (encode t) = some t := by
  have hbytes : (encode t).toByteArray = t.utf8Encode := rfl
  rw [readStrictly?, hbytes, List.utf8Decode?_utf8Encode]
  rfl

/-- The strict reader inverts encoding. -/
theorem readStrictly?_eq_some_iff : readStrictly? bytes = some t ↔ encode t = bytes := by
  constructor
  · intro h
    obtain ⟨characters, hdecode, rfl⟩ := Option.map_eq_some_iff.mp h
    have hsome : bytes.toByteArray.utf8Decode?.isSome = true := by rw [hdecode]; rfl
    have hencode := ByteArray.utf8Encode_get_utf8Decode? (h := hsome)
    simp only [hdecode, Option.get_some] at hencode
    exact List.toByteArray_inj.mp hencode
  · rintro rfl
    exact readStrictly?_encode t

/-! ## Reading with replacements -/

theorem decode_encode (t : Text) : decode (encode t) = t := by
  have hchar : Piece.toChar ∘ Piece.char = id := rfl
  rw [decode, pieces, scan_encode, List.map_map, hchar, List.map_id]

theorem mem_of_firstMalformedFrom {ps : List Piece} {position : Nat} {m : Malformed}
    (h : firstMalformedFrom position ps = some m) : .malformed m.first m.length m.cause ∈ ps := by
  induction ps generalizing position with
  | nil => cases h
  | cons piece ps ih =>
      cases piece with
      | char c => exact List.mem_cons_of_mem _ (ih h)
      | malformed first length cause =>
          obtain rfl := Option.some.inj h
          exact List.mem_cons_self

/-- What is malformed is replaced. -/
theorem replacement_mem_decode {m : Malformed} (h : firstMalformed bytes = some m) :
    replacement ∈ decode bytes :=
  List.mem_map.mpr ⟨_, mem_of_firstMalformedFrom h, rfl⟩

end Utf8

/-- Validation changes no text: it gives the text that the strict reader reads where that reads one,
without an event.  Other bytes give a text with replacements and, with validation alone, a single
error. -/
theorem validation_changes_no_text (name : Text) (bytes : Bytes) :
    (decodeSource true name bytes).1 = (decodeSource false name bytes).1 ∧
      (∀ t, Utf8.encode t = bytes → ∀ validate, decodeSource validate name bytes = (t, [])) ∧
      ((∀ t, Utf8.encode t ≠ bytes) →
        (∀ validate, Utf8.replacement ∈ (decodeSource validate name bytes).1) ∧
          (decodeSource false name bytes).2 = [] ∧
          ∃ e, (decodeSource true name bytes).2 = [e] ∧ e.priority = 3) ∧
      ∀ t, decodeSource true name bytes = (t, []) ↔ Utf8.readStrictly? bytes = some t := by
  have hvalid : ∀ t, Utf8.encode t = bytes → ∀ validate,
      decodeSource validate name bytes = (t, []) := by
    rintro t rfl validate
    have hnone : Utf8.firstMalformed (Utf8.encode t) = none :=
      Utf8.firstMalformed_eq_none_iff.mpr ⟨t, rfl⟩
    unfold decodeSource
    rw [Utf8.decode_encode, hnone]
    cases validate <;> rfl
  have hinvalid : ¬ Utf8.Valid bytes →
      Utf8.replacement ∈ Utf8.decode bytes ∧
        ∃ e, (decodeSource true name bytes).2 = [e] ∧ e.priority = 3 := by
    intro h
    obtain ⟨m, hm⟩ := Option.ne_none_iff_exists'.mp (mt Utf8.firstMalformed_eq_none_iff.mp h)
    refine ⟨Utf8.replacement_mem_decode hm,
      ⟨name ++ " is not valid UTF-8: ".toList ++ m.message, Event.errorPriority⟩, ?_, rfl⟩
    unfold decodeSource
    rw [hm]
  refine ⟨rfl, hvalid, fun h => ?_, fun t => ?_⟩
  · obtain ⟨hreplaced, herror⟩ := hinvalid fun ⟨t, ht⟩ => h t ht
    exact ⟨fun _ => hreplaced, rfl, herror⟩
  · rw [Utf8.readStrictly?_eq_some_iff]
    constructor
    · intro h
      by_cases hbytes : Utf8.Valid bytes
      · obtain ⟨u, hu⟩ := hbytes
        obtain rfl : u = t := congrArg Prod.fst ((hvalid u hu true).symm.trans h)
        exact hu
      · obtain ⟨-, e, he, -⟩ := hinvalid hbytes
        rw [h] at he
        cases he
    · exact fun h => hvalid t h true

/-- A byte string with a truncated sequence is read alike with and without validation. -/
example : (decodeSource true "a.php".toList [0x61, 0xE2, 0x82]).1 = ['a', Utf8.replacement] := by
  decide +kernel

end SourceAtlas
