import SourceAtlas.Text.Basic

/-!
# UTF-8

Encoding, and decoding that says what is wrong.  The decoder reads the bytes once, with the open
sequence as its only state, and yields for every maximal part that cannot be continued one
malformed piece.  Replacing each such piece by `U+FFFD` gives a text for every byte string; the
first one is what a strict reader complains about.
-/

namespace SourceAtlas.Utf8

/-- The bytes of a text. -/
def encode (t : Text) : Bytes := t.flatMap String.utf8EncodeChar

/-- Why a part of a byte string is no character. -/
inductive Cause
  | invalidStart
  | invalidContinuation
  | unexpectedEnd
  deriving DecidableEq, Repr

/-- What decoding yields: a character, or some bytes that are none. -/
inductive Piece
  | char (c : Char)
  | malformed (first : UInt8) (length : Nat) (cause : Cause)
  deriving DecidableEq, Repr

/-- A sequence of which some bytes are read: its first byte, how many bytes, the bits so far, and
the ranges in which the bytes to come must lie. -/
structure Open where
  first : UInt8
  length : Nat
  bits : Nat
  expected : List (UInt8 × UInt8)
  deriving DecidableEq, Repr

/-- A continuation byte. -/
def tailRange : UInt8 × UInt8 := (0x80, 0xBF)

/-- The sequence that a byte above ASCII opens.  The ranges of the second byte exclude overlong
forms, surrogates and what lies beyond the last code point. -/
def opens? (b : UInt8) : Option Open :=
  if b < 0xC2 then none
  else if b < 0xE0 then some ⟨b, 1, (b &&& 0x1F).toNat, [tailRange]⟩
  else if b < 0xF0 then
    let second := if b = 0xE0 then (0xA0, 0xBF) else if b = 0xED then (0x80, 0x9F) else tailRange
    some ⟨b, 1, (b &&& 0x0F).toNat, [second, tailRange]⟩
  else if b < 0xF5 then
    let second := if b = 0xF0 then (0x90, 0xBF) else if b = 0xF4 then (0x80, 0x8F) else tailRange
    some ⟨b, 1, (b &&& 0x07).toNat, [second, tailRange, tailRange]⟩
  else none

/-- Reads a byte where no sequence is open. -/
def readFirst (b : UInt8) : List Piece × Option Open :=
  if b < 0x80 then ([.char (Char.ofNat b.toNat)], none)
  else
    match opens? b with
    | some o => ([], some o)
    | none => ([.malformed b 1 .invalidStart], none)

/-- Reads a byte: it continues the open sequence, or breaks it off and stands for itself. -/
def readByte : Option Open → UInt8 → List Piece × Option Open
  | none, b => readFirst b
  | some o, b =>
    let broken : List Piece × Option Open :=
      let (pieces, next) := readFirst b
      (.malformed o.first o.length .invalidContinuation :: pieces, next)
    match o.expected with
    | [] => broken
    | range :: expected =>
      if range.1 ≤ b && b ≤ range.2 then
        let bits := o.bits * 64 + (b &&& 0x3F).toNat
        match expected with
        | [] => ([.char (Char.ofNat bits)], none)
        | _ => ([], some { o with length := o.length + 1, bits, expected })
      else broken

/-- The pieces of a byte string after an open sequence, if there is one. -/
def scan : Option Open → Bytes → List Piece
  | none, [] => []
  | some o, [] => [.malformed o.first o.length .unexpectedEnd]
  | state, b :: bs =>
    let (pieces, next) := readByte state b
    pieces ++ scan next bs

/-- The pieces of a byte string. -/
def pieces (bytes : Bytes) : List Piece := scan none bytes

/-- What stands in a text for bytes that are no character. -/
def replacement : Char := Char.ofNat 0xFFFD

/-- The character of a piece, the replacement character for a malformed one. -/
def Piece.toChar : Piece → Char
  | .char c => c
  | .malformed .. => replacement

/-- How many bytes a piece comes from. -/
def Piece.byteCount : Piece → Nat
  | .char c => (String.utf8EncodeChar c).length
  | .malformed _ length _ => length

/-- Decodes any byte string, with the replacement character for each malformed part. -/
def decode (bytes : Bytes) : Text := (pieces bytes).map Piece.toChar

/-- A malformed part of a byte string and where it begins. -/
structure Malformed where
  position : Nat
  first : UInt8
  length : Nat
  cause : Cause
  deriving DecidableEq, Repr

/-- The first malformed piece, counted from a byte position. -/
def firstMalformedFrom (position : Nat) : List Piece → Option Malformed
  | [] => none
  | .malformed first length cause :: _ => some ⟨position, first, length, cause⟩
  | .char c :: rest => firstMalformedFrom (position + (Piece.char c).byteCount) rest

/-- The first malformed part of a byte string; there is none in valid UTF-8. -/
def firstMalformed (bytes : Bytes) : Option Malformed := firstMalformedFrom 0 (pieces bytes)

/-- The reason in words. -/
def Cause.message : Cause → Text
  | .invalidStart => "invalid start byte".toList
  | .invalidContinuation => "invalid continuation byte".toList
  | .unexpectedEnd => "unexpected end of data".toList

/-- What a strict reader says of a malformed part. -/
def Malformed.message (m : Malformed) : Text :=
  let place :=
    if m.length = 1 then
      "byte 0x".toList ++ Text.hex 2 m.first.toNat ++ " in position ".toList ++
        Text.ofNat m.position
    else
      "bytes in position ".toList ++ Text.ofNat m.position ++ "-".toList ++
        Text.ofNat (m.position + m.length - 1)
  "'utf-8' codec can't decode ".toList ++ place ++ ": ".toList ++ m.cause.message

end SourceAtlas.Utf8
