import SourceAtlas.Xml.Complaint
import SourceAtlas.Xml.Name

/-!
# Scanning

A scanner takes what it recognises from the beginning of a text.  It stops at a character that
cannot stand where it is, at the end of the text, or at a character of which the document holds
only the first bytes.  Code points that are no characters of XML mark places in a document that could
not be decoded.
-/

namespace SourceAtlas.Xml

/-- Stands for a byte that begins no character. -/
def stray : Char := Char.ofNat 0

/-- Stands for bytes of which only the first could belong to a character. -/
def malformed : Char := Char.ofNat 0xFFFF

/-- Stands for the first bytes of a character that the document ends in. -/
def cut : Char := Char.ofNat 0xFFFE

/-- Why a scanner stops. -/
inductive Stop
  | invalid (rest : Text)
  | incomplete
  | splitCharacter
  deriving DecidableEq, Repr

/-- The complaint about a token that begins at a place. -/
def Stop.complaint (start : Text) : Stop → Complaint
  | .invalid rest => ⟨.invalidToken, rest⟩
  | .incomplete => ⟨.unclosedToken, start⟩
  | .splitCharacter => ⟨.splitCharacter, start⟩

/-- Stops where one of a few characters is expected. -/
def Stop.mismatch : Text → Stop
  | [] => .incomplete
  | t => .invalid t

/-- Stops where any of many characters could follow. -/
def Stop.unexpected : Text → Stop
  | [] => .incomplete
  | c :: cs => if c = cut then .splitCharacter else .invalid (c :: cs)

/-- Checks that a text begins with a character that may stand in a document. -/
def checkChar (t : Text) : Except Stop Unit :=
  match t with
  | [] => .error .incomplete
  | c :: _ => if isXmlChar c then .ok () else .error (.unexpected t)

/-- Takes a given character. -/
def scanExactly (c : Char) : Text → Except Stop Text
  | [] => .error .incomplete
  | d :: ds => if d = c then .ok ds else .error (.invalid (d :: ds))

/-- Takes a name without colon. -/
def scanName (t : Text) : Except Stop (Text × Text) :=
  match t with
  | [] => .error .incomplete
  | c :: cs =>
    if isNameStart c then .ok (c :: cs.takeWhile isNameChar, cs.dropWhile isNameChar)
    else .error (.unexpected t)

/-- Takes a name with at most one colon, which is neither its first nor its last character. -/
def scanQualified (t : Text) : Except Stop (Text × Text) := do
  let (first, rest) ← scanName t
  match rest with
  | ':' :: more => do
    let (second, rest) ← scanName more
    return (first ++ ':' :: second, rest)
  | _ => return (first, rest)

/-- The value of a digit, in either case of letters. -/
def digitValue (c : Char) : Nat :=
  if c.isDigit then c.toNat - '0'.toNat
  else if 'a' ≤ c then c.toNat - 'a'.toNat + 10
  else c.toNat - 'A'.toNat + 10

/-- The character of a number, if a document may hold it. -/
def charOfNumber? (n : Nat) : Option Char :=
  if n < 0x110000 ∧ ¬ (0xD800 ≤ n ∧ n < 0xE000) ∧ isXmlChar (Char.ofNat n) then
    some (Char.ofNat n)
  else none

/-- The number that digits write in a base. -/
def numberOf (base : Nat) (digits : Text) : Nat :=
  digits.foldl (fun n c => n * base + digitValue c) 0

/-- A hexadecimal digit. -/
def isHexDigit (c : Char) : Bool :=
  c.isDigit || ('a' ≤ c && c ≤ 'f') || ('A' ≤ c && c ≤ 'F')

/-- A reference: to an entity, or to a character by its number, which may be no character. -/
inductive Reference
  | entity (name : Text)
  | character (c : Option Char)
  deriving DecidableEq, Repr

/-- Takes the digits of a character reference and the semicolon after them. -/
def scanNumber (base : Nat) (isDigit : Char → Bool) (t : Text) : Except Stop (Reference × Text) :=
  match t.takeWhile isDigit, t.dropWhile isDigit with
  | [], rest => .error (.mismatch rest)
  | digits, ';' :: rest => .ok (.character (charOfNumber? (numberOf base digits)), rest)
  | _, rest => .error (.mismatch rest)

/-- Takes the part of a reference that follows its ampersand. -/
def scanReference (t : Text) : Except Stop (Reference × Text) :=
  match t with
  | '#' :: 'x' :: digits => scanNumber 16 isHexDigit digits
  | '#' :: digits => scanNumber 10 Char.isDigit digits
  | _ => do
    let (name, rest) ← scanName t
    match rest with
    | ';' :: rest => return (.entity name, rest)
    | _ => throw (.unexpected rest)

/-- The character of an entity that every document knows. -/
def predefined? (name : Text) : Option Char :=
  [("lt", '<'), ("gt", '>'), ("amp", '&'), ("quot", '"'), ("apos", '\'')].findSome? fun (n, c) =>
    if n.toList = name then some c else none

/-- Takes the part of a comment that follows its opening up to the two hyphens that end it. -/
def scanComment : Text → Except Stop Text
  | [] => .error .incomplete
  | '-' :: '-' :: rest => scanExactly '>' rest
  | c :: cs => do
    checkChar (c :: cs)
    scanComment cs

/-- Takes what stands in an instruction after its target; the closing mark is taken too. -/
def scanInstructionBody : Text → Except Stop (Text × Text)
  | [] => .error .incomplete
  | '?' :: '>' :: rest => .ok ([], rest)
  | c :: cs => do
    checkChar (c :: cs)
    let (body, rest) ← scanInstructionBody cs
    return (c :: body, rest)

/-- The target of the declaration of a document. -/
def declarationTarget : Text := "xml".toList

/-- A target that only differs from that of the declaration by case is refused. -/
def isRefusedTarget (target : Text) : Bool :=
  target ≠ declarationTarget && target.map Char.toLower = declarationTarget

/-- Takes the part of an instruction that follows its opening: its target and its body. -/
def scanInstruction (t : Text) : Except Stop ((Text × Text) × Text) := do
  let (target, rest) ← scanName t
  match rest with
  | '?' :: more =>
    if isRefusedTarget target then throw (.invalid rest)
    let rest ← scanExactly '>' more
    return ((target, []), rest)
  | c :: _ =>
    if isSpace c then
      if isRefusedTarget target then throw (.invalid rest)
      let (body, rest) ← scanInstructionBody rest
      return ((target, body), rest)
    else throw (.unexpected rest)
  | [] => throw .incomplete

end SourceAtlas.Xml
