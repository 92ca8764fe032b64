import SourceAtlas.Xml.Content
import SourceAtlas.Xml.Doctype
import SourceAtlas.Xml.Encoding

/-!
# Reading a document

A document is a prolog, its element, and comments or instructions after that.  The prolog may begin
with a declaration, which may name the encoding of all that follows; the document type comes once
and before the element.
-/

namespace SourceAtlas.Xml

open Text

/-! ## The declaration -/

/-- A part of a declaration: a name and the value that it is given, each with the text from there
on. -/
structure Setting where
  name : Text
  nameStart : Text
  value : Text
  valueStart : Text
  deriving DecidableEq, Repr

/-- A character in the name of a setting. -/
def isSettingNameChar (c : Char) : Bool := !isSpace c && c ≠ '=' && c.toNat < 0x80

/-- A character in the value of a setting. -/
def isSettingChar (c : Char) : Bool := c.isAlphanum || c == '.' || c == '-' || c == '_'

/-- Takes a setting, none at the end of the declaration.  On failure the answer is where the
declaration is malformed. -/
def readSetting (t : Text) : Except Text (Option Setting × Text) :=
  match t with
  | [] => .ok (none, [])
  | c :: _ =>
    if !isSpace c then .error t
    else
      let nameStart := t.dropWhile isSpace
      if nameStart = [] then .ok (none, [])
      else
        let name := nameStart.takeWhile isSettingNameChar
        let afterName := nameStart.dropWhile isSettingNameChar
        match afterName.dropWhile isSpace with
        | '=' :: rest =>
          if name = [] then .error nameStart
          else
            match rest.dropWhile isSpace with
            | quote :: valueStart =>
              if quote = '"' ∨ quote = '\'' then
                match valueStart.dropWhile isSettingChar with
                | c :: rest =>
                  if c = quote then
                    let value := valueStart.takeWhile isSettingChar
                    .ok (some ⟨name, nameStart, value, valueStart⟩, rest)
                  else .error (c :: rest)
                | [] => .error []
              else .error (quote :: valueStart)
            | [] => .error []
        | rest => .error rest

/-- What a declaration says; the name of the encoding comes with the text from there on. -/
structure Declaration where
  encoding : Option (Text × Text) := none
  standalone : Bool := false
  deriving DecidableEq, Repr

/-- Reads the end of a declaration from the setting that says whether the document stands alone. -/
def readStandalone (d : Declaration) (s : Setting) (rest : Text) : Except Text Declaration :=
  if s.name ≠ "standalone".toList then .error s.nameStart
  else if s.value ≠ "yes".toList ∧ s.value ≠ "no".toList then .error s.valueStart
  else
    match rest.dropWhile isSpace with
    | [] => .ok { d with standalone := s.value = "yes".toList }
    | bad => .error bad

/-- Reads the body of a declaration: the version first, then perhaps the encoding, then perhaps
whether the document stands alone. -/
def readDeclaration (body : Text) : Except Text Declaration := do
  let (first, rest) ← readSetting body
  match first with
  | none => throw body
  | some version => do
    if version.name ≠ "version".toList then throw version.nameStart
    let (second, rest) ← readSetting rest
    match second with
    | none => return {}
    | some s =>
      if s.name ≠ "encoding".toList then readStandalone {} s rest
      else do
        if !((s.value.head?.map Char.isAlpha).getD false) then throw s.valueStart
        let d : Declaration := { encoding := some (s.value, s.valueStart) }
        let (third, rest) ← readSetting rest
        match third with
        | none => return d
        | some s => readStandalone d s rest

/-! ## Prolog and end -/

/-- Reads the prolog up to the document element; `count` bounds the number of its parts, and
`typed` says that the document type was read. -/
def readProlog : Nat → Bool → Dtd → Text → Except Complaint (Dtd × Text)
  | 0, _, _, _ => .error ⟨.noElement, []⟩
  | count + 1, typed, d, t => do
    let m ← nextMark t
    match m.mark with
    | .comment | .instruction => readProlog count typed d m.rest
    | .elementStart => return (d, m.start)
    | .markup keyword =>
      if keyword = "DOCTYPE".toList ∧ ¬ typed then
        let (d, rest) ← readDoctype d m.rest
        readProlog count true d rest
      else throw m.refusal
    | _ => throw m.refusal

/-- Reads what follows the document element; `count` bounds the number of its parts. -/
def readEnd (isUneven : Bool) : Nat → Text → Except Complaint Unit
  | 0, _ => .ok ()
  | count + 1, t =>
    match t.dropWhile isSpace with
    | [] => if isUneven then .error ⟨.unclosedToken, []⟩ else .ok ()
    | start =>
      match scanMark start with
      | .error stop => .error (stop.complaint start)
      | .ok (.comment, rest) | .ok (.instruction, rest) => readEnd isUneven count rest
      | .ok _ => .error ⟨.junkAfterElement, start⟩

/-- Reads a document after its declaration. -/
def readBody (d : Dtd) (t : Decoded) : Except Complaint Element :=
  let text := normalizeLines t.text
  let read : Except Complaint Element := do
    let (d, rest) ← readProlog (text.length + 1) false d text
    let (e, rest) ← readElement d rest
    readEnd t.isUneven (rest.length + 1) rest
    return e
  read.mapError fun c =>
    if t.isUneven ∧ c = ⟨.noElement, []⟩ then ⟨.unclosedToken, []⟩ else c

/-! ## Whole documents -/

/-- Why a document could not be read: it is not well-formed, or it names an encoding that cannot be
used. -/
inductive ReadFault
  | malformed (message : Text)
  | unusableEncoding (u : Encoding.Unusable) (name : Text)
  deriving DecidableEq, Repr

/-- The body of the declaration that a text begins with. -/
def declarationBody? (t : Text) : Option (Text × Text) :=
  match scanMark t with
  | .ok (.declaration body, rest) => some (body, rest)
  | _ => none

/-- Reads a document from its text in the encoding that its first bytes say.  `whole` includes the
mark in front of the text. -/
def readIn (e : Encoding) (bytes : Bytes) (markLength : Nat) : Except ReadFault Element :=
  let whole := (e.decode bytes).text
  let decoded := e.decode (bytes.drop markLength)
  let complain (c : Complaint) : ReadFault := .malformed (c.message whole)
  let complainOfBody (c : Complaint) : ReadFault := .malformed (c.message (normalizeLines whole))
  match declarationBody? decoded.text with
  | none => (readBody {} decoded).mapError complainOfBody
  | some (body, rest) =>
    let after : Text := "?>".toList ++ rest
    match readDeclaration body with
    | .error place => .error (complain ⟨.malformedDeclaration, place ++ after⟩)
    | .ok declaration =>
      let d : Dtd := { standalone := declaration.standalone }
      match declaration.encoding with
      | none => (readBody d { decoded with text := rest }).mapError complainOfBody
      | some (name, place) =>
        match Encoding.named e name with
        | .error .conflicting => .error (complain ⟨.conflictingEncoding, place ++ after⟩)
        | .error .incompatible => .error (complain ⟨.unknownEncoding, place ++ after⟩)
        | .error (.unusable u) => .error (.unusableEncoding u name)
        | .ok actual =>
          let read := (decoded.text.length - rest.length) * e.unitSize + markLength
          let whole := normalizeLines (actual.decode bytes).text
          (readBody d (actual.decode (bytes.drop read))).mapError fun c =>
            .malformed (c.message whole)

/-- Reads a document. -/
def read (bytes : Bytes) : Except ReadFault Element :=
  match bytes, Encoding.detect? bytes with
  | [], _ => .error (.malformed (Complaint.message ⟨.noElement, []⟩ []))
  | _, none => .error (.malformed (Complaint.message ⟨.unclosedToken, []⟩ []))
  | _, some (e, markLength) => readIn e bytes markLength

end SourceAtlas.Xml
