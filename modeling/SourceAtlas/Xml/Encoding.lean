import SourceAtlas.Xml.Charset
import SourceAtlas.Xml.Scan

/-!
# Encodings of documents

The first bytes of a document tell whether it is written in units of one or of two bytes; its
declaration may then name the encoding.  For bytes that are no character a mark stands that no
document may hold.
-/

namespace SourceAtlas.Xml

open Text

/-- The encodings of documents. -/
inductive Encoding
  | utf8
  | utf16 (bigEndian : Bool)
  | charset (c : Charset)
  deriving DecidableEq, Repr

/-- A decoded document, and whether a byte is left over at its end. -/
structure Decoded where
  text : Text
  isUneven : Bool := false
  deriving DecidableEq, Repr

/-! ## UTF-8 -/

/-- A byte that continues a character. -/
def isTail (b : UInt8) : Bool := 0x80 ≤ b && b ≤ 0xBF

/-- The low six bits of a continuing byte. -/
def tailBits (b : UInt8) : Nat := b.toNat % 64

/-- Whether the second byte may follow the first one of three. -/
def isSecondOfThree (a b : UInt8) : Bool :=
  if a = 0xE0 then 0xA0 ≤ b && b ≤ 0xBF
  else if a = 0xED then 0x80 ≤ b && b ≤ 0x9F
  else isTail b

/-- Whether the second byte may follow the first one of four. -/
def isSecondOfFour (a b : UInt8) : Bool :=
  if a = 0xF0 then 0x90 ≤ b && b ≤ 0xBF
  else if a = 0xF4 then 0x80 ≤ b && b ≤ 0x8F
  else isTail b

/-- The character of a code point, or the given mark for one that no document may hold. -/
def charOr (mark : Char) (n : Nat) : Char := if 0xFFFE ≤ n ∧ n ≤ 0xFFFF then mark else Char.ofNat n

/-- Stands for bytes that are not looked at any more. -/
def unread (bytes : Bytes) : Text := bytes.map fun _ => stray

/-- Decodes UTF-8 up to the first bytes that are no character.  A character that needs more bytes
than are left is cut off, whatever these bytes are. -/
def decodeUtf8 : Bytes → Text
  | [] => []
  | a :: rest =>
    if a < 0x80 then Char.ofNat a.toNat :: decodeUtf8 rest
    else if a < 0xC0 ∨ 0xF5 ≤ a then stray :: unread rest
    else if a < 0xE0 then
      match rest with
      | b :: more =>
        if 0xC2 ≤ a && isTail b then
          Char.ofNat (a.toNat % 32 * 64 + tailBits b) :: decodeUtf8 more
        else malformed :: unread rest
      | [] => [cut]
    else if a < 0xF0 then
      match rest with
      | b :: c :: more =>
        if isSecondOfThree a b && isTail c then
          charOr malformed (a.toNat % 16 * 4096 + tailBits b * 64 + tailBits c) :: decodeUtf8 more
        else malformed :: unread rest
      | _ => cut :: unread rest
    else
      match rest with
      | b :: c :: d :: more =>
        if isSecondOfFour a b && isTail c && isTail d then
          Char.ofNat
            (a.toNat % 8 * 262144 + tailBits b * 4096 + tailBits c * 64 + tailBits d) ::
              decodeUtf8 more
        else malformed :: unread rest
      | _ => cut :: unread rest

/-! ## UTF-16 -/

/-- The units of two bytes, and whether a byte is left over. -/
def units (bigEndian : Bool) : Bytes → List Nat × Bool
  | a :: b :: rest =>
    let (us, isUneven) := units bigEndian rest
    ((if bigEndian then a.toNat * 256 + b.toNat else b.toNat * 256 + a.toNat) :: us, isUneven)
  | [_] => ([], true)
  | [] => ([], false)

/-- Decodes units of UTF-16.  A unit that opens a pair is joined with whatever unit follows. -/
def decodeUnits : List Nat → Text
  | [] => []
  | u :: us =>
    if 0xD800 ≤ u ∧ u < 0xDC00 then
      match us with
      | v :: us => Char.ofNat (0x10000 + (u % 1024) * 1024 + v % 1024) :: decodeUnits us
      | [] => [cut]
    else if 0xDC00 ≤ u ∧ u < 0xE000 then [stray]
    else charOr stray u :: decodeUnits us

/-! ## Line ends -/

/-- A line ends with a line feed, however it is written.  A carriage return at the end of the text
stays, since its line feed may be missing. -/
def normalizeLines : Text → Text
  | [] => []
  | ['\r'] => ['\r']
  | '\r' :: '\n' :: cs => '\n' :: normalizeLines cs
  | c :: cs => (if c = '\r' then '\n' else c) :: normalizeLines cs

/-! ## All encodings -/

namespace Encoding

/-- How many bytes a character takes at least. -/
def unitSize : Encoding → Nat
  | .utf16 _ => 2
  | _ => 1

/-- Decodes the bytes of a document. -/
def decode (e : Encoding) (bytes : Bytes) : Decoded :=
  match e with
  | .utf8 => { text := decodeUtf8 bytes }
  | .utf16 bigEndian =>
    let (us, isUneven) := units bigEndian bytes
    { text := decodeUnits us, isUneven }
  | .charset c => { text := bytes.map fun b => ((c.code? b).map Char.ofNat).getD stray }

/-- What the first bytes of a document say: its encoding and the length of the mark in front of it;
nothing if they could be the beginning of a mark or of a unit. -/
def detect? (bytes : Bytes) : Option (Encoding × Nat) :=
  match bytes with
  | [a] => if [0x00, 0x3C, 0xEF, 0xFE, 0xFF].contains a then none else some (.utf8, 0)
  | [0xEF, 0xBB] => none
  | 0xFE :: 0xFF :: _ => some (.utf16 true, 2)
  | 0xFF :: 0xFE :: _ => some (.utf16 false, 2)
  | 0xEF :: 0xBB :: 0xBF :: _ => some (.utf8, 3)
  | 0x00 :: _ :: _ => some (.utf16 true, 0)
  | _ :: 0x00 :: _ => some (.utf16 false, 0)
  | _ => some (.utf8, 0)

/-- Why an encoding cannot be used: it is not known, it is one of bytes in bytes, a character may take
several bytes in it, or it does not say what single bytes stand for: in names of domains and in
Punycode that hangs on other bytes, and the undefined encoding never says. -/
inductive Unusable
  | unknown
  | ofBytes
  | multiByte
  | domainName
  | punycode
  | undefined
  deriving DecidableEq, Repr

/-- Why a document cannot be read in the encoding that it names. -/
inductive Refusal
  | conflicting
  | incompatible
  | unusable (u : Unusable)
  deriving DecidableEq, Repr

/-- The encodings that cannot be used, by their names in normal form. -/
def unusable (normal : Text) : Unusable :=
  if Charset.isNamed Charset.multiByteNames normal then .multiByte
  else if Charset.isNamed Charset.byteNames normal then .ofBytes
  else if normal = "idna".toList then .domainName
  else if normal = "punycode".toList then .punycode
  else if normal = "undefined".toList then .undefined
  else .unknown

/-- The encoding that a document names whose first bytes say `detected`. -/
def named (detected : Encoding) (name : Text) : Except Refusal Encoding :=
  let upper := name.map Char.toUpper
  let agreeing (e : Encoding) : Except Refusal Encoding :=
    if e.unitSize ≠ detected.unitSize ∨ (e.unitSize = 2 ∧ e ≠ detected) then .error .conflicting
    else .ok e
  if upper = "UTF-8".toList then agreeing .utf8
  else if upper = "UTF-16".toList then
    agreeing (if detected.unitSize = 2 then detected else .utf16 true)
  else if upper = "UTF-16BE".toList then agreeing (.utf16 true)
  else if upper = "UTF-16LE".toList then agreeing (.utf16 false)
  else if upper = "ISO-8859-1".toList then agreeing (.charset Charset.latin1)
  else if upper = "US-ASCII".toList then agreeing (.charset Charset.ascii)
  else
    let normal := Charset.normalName name
    match Charset.all.find? fun c => Charset.isNamed c.names normal with
    | some c => .ok (.charset c)
    | none =>
      if Charset.isNamed Charset.incompatibleNames normal then .error .incompatible
      else .error (.unusable (unusable normal))

end Encoding

end SourceAtlas.Xml
