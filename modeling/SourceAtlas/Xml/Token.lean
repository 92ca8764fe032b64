import SourceAtlas.Xml.Scan

/-!
# Tokens of content

Content is a sequence of tags, characters, references, sections of plain characters, and parts
that mean nothing to a reader of elements.  A tag is read as a whole before any of its attributes is
looked at; the names and values in it are kept as they are written.
-/

namespace SourceAtlas.Xml

/-- An attribute as it is written.  `start` is what was to be read where its name begins, and
`after` what was to be read after its value. -/
structure RawAttribute where
  name : Text
  value : Text
  start : Text
  after : Text
  deriving DecidableEq, Repr

/-- The tag that opens an element, or that stands for an empty one. -/
structure Tag where
  name : Text
  attributes : List RawAttribute
  closed : Bool
  deriving DecidableEq, Repr

/-- What content consists of. -/
inductive Token
  | opening (tag : Tag)
  | closing (name : Text)
  | character (c : Char)
  | reference (r : Reference)
  | characters (t : Text)
  | skipped
  | declaration
  deriving DecidableEq, Repr

/-! ## Tags -/

/-- Takes the value of an attribute up to its closing quote; references in it must be well
formed. -/
def scanValue (quote : Char) : Text → Except Stop (Text × Text)
  | [] => .error .incomplete
  | c :: cs => do
    if c = quote then return ([], cs)
    if c = '<' then throw (.invalid (c :: cs))
    if c = '&' then let _ ← scanReference cs
    checkChar (c :: cs)
    let (value, rest) ← scanValue quote cs
    return (c :: value, rest)

/-- Takes the equals sign between the name of an attribute and its value. -/
def scanEquals (t : Text) : Except Stop Text :=
  match t with
  | c :: _ =>
    if isSpace c then scanExactly '=' (t.dropWhile isSpace)
    else if c = '=' then scanExactly '=' t
    else .error (.unexpected t)
  | [] => .error .incomplete

/-- Takes an attribute. -/
def scanAttribute (t : Text) : Except Stop (RawAttribute × Text) := do
  let (name, rest) ← scanQualified t
  let rest ← scanEquals rest
  match rest.dropWhile isSpace with
  | '"' :: rest =>
    let (value, after) ← scanValue '"' rest
    return (⟨name, value, t, '"' :: after⟩, after)
  | '\'' :: rest =>
    let (value, after) ← scanValue '\'' rest
    return (⟨name, value, t, '\'' :: after⟩, after)
  | rest => throw (.mismatch rest)

/-- Takes the end of a tag, where no attribute follows: whether the element is empty, and the text
after the tag. -/
def scanTagEnd? (t : Text) : Option (Except Stop (Bool × Text)) :=
  match t with
  | '>' :: rest => some (.ok (false, rest))
  | '/' :: rest => some ((scanExactly '>' rest).map (true, ·))
  | _ => none

/-- Takes the attributes of a tag and its end.  `refuse` tells what stops the scanner directly after
a name or a value; `count` bounds the number of attributes. -/
def scanAttributes (refuse : Text → Stop) :
    Nat → Text → Except Stop ((List RawAttribute × Bool) × Text)
  | 0, _ => .error .incomplete
  | count + 1, t => do
    if let some ending := scanTagEnd? t then
      let (closed, rest) ← ending
      return (([], closed), rest)
    match t with
    | [] => throw .incomplete
    | c :: _ =>
      if !isSpace c then throw (refuse t)
      let inner := t.dropWhile isSpace
      if let some ending := scanTagEnd? inner then
        let (closed, rest) ← ending
        return (([], closed), rest)
      let (first, rest) ← scanAttribute inner
      let ((attributes, closed), rest) ← scanAttributes Stop.mismatch count rest
      return ((first :: attributes, closed), rest)

/-- Takes the part of an opening tag that follows its bracket. -/
def scanOpening (t : Text) : Except Stop (Tag × Text) := do
  let (name, rest) ← scanQualified t
  let ((attributes, closed), rest) ← scanAttributes Stop.unexpected (rest.length + 1) rest
  return (⟨name, attributes, closed⟩, rest)

/-- A character that a closing tag may hold in its name. -/
def isClosingNameChar (c : Char) : Bool := isNameChar c || c == ':'

/-- Takes the part of a closing tag that follows its slash. -/
def scanClosing (t : Text) : Except Stop (Text × Text) :=
  match t with
  | [] => .error .incomplete
  | c :: cs =>
    if isNameStart c then do
      let name := c :: cs.takeWhile isClosingNameChar
      match cs.dropWhile isClosingNameChar with
      | '>' :: rest => return (name, rest)
      | [] => throw .incomplete
      | d :: ds =>
        if isSpace d then
          let rest ← scanExactly '>' (ds.dropWhile isSpace)
          return (name, rest)
        else throw (.unexpected (d :: ds))
    else .error (.unexpected t)

/-! ## Sections of plain characters -/

/-- The mark after the bracket and the exclamation mark that opens a section. -/
def sectionMark : Text := "[CDATA[".toList

/-- Takes the mark of a section after its first bracket; too short a text could still become one. -/
def scanSectionMark (t : Text) : Except Stop Text :=
  let word := sectionMark.drop 1
  if t.length < word.length then .error .incomplete
  else word.foldlM (fun rest c => scanExactly c rest) t

/-- Takes the characters of a section, up to the end of the section. -/
def scanSection : Text → Except Complaint (Text × Text)
  | [] => .error ⟨.unclosedCData, []⟩
  | ']' :: ']' :: '>' :: rest => .ok ([], rest)
  | [']', ']'] => .error ⟨.unclosedCData, [']', ']']⟩
  | [']'] => .error ⟨.unclosedCData, [']']⟩
  | ['\r'] => .error ⟨.unclosedCData, ['\r']⟩
  | c :: cs =>
    if isXmlChar c then (scanSection cs).map fun (t, rest) => (c :: t, rest)
    else .error ((Stop.unexpected (c :: cs)).complaint (c :: cs))

/-! ## Tokens -/

/-- Takes a token that begins with an opening bracket; `start` is where it begins and `t` follows
the bracket. -/
def scanMarkup (start t : Text) : Except Complaint (Token × Text) :=
  let orComplain {α : Type} (r : Except Stop α) : Except Complaint α :=
    r.mapError (Stop.complaint start)
  match t with
  | '/' :: rest => (orComplain (scanClosing rest)).map fun (name, rest) => (.closing name, rest)
  | '?' :: rest =>
    (orComplain (scanInstruction rest)).map fun ((target, _), rest) =>
      (if target = declarationTarget then .declaration else .skipped, rest)
  | '!' :: '-' :: rest =>
    (orComplain (scanExactly '-' rest >>= scanComment)).map fun rest => (.skipped, rest)
  | '!' :: '[' :: rest => do
    let rest ← orComplain (scanSectionMark rest)
    let (body, rest) ← scanSection rest
    return (.characters body, rest)
  | '!' :: rest => .error ((Stop.mismatch rest).complaint start)
  | _ => (orComplain (scanOpening t)).map fun (tag, rest) => (.opening tag, rest)

/-- Takes a token of content; none is left at the end of the text. -/
def scanToken (t : Text) : Except Complaint (Option (Token × Text)) :=
  match t with
  | [] => .ok none
  | '<' :: rest => (scanMarkup t rest).map some
  | '&' :: rest =>
    ((scanReference rest).mapError (Stop.complaint t)).map fun (r, rest) =>
      some (.reference r, rest)
  | ']' :: ']' :: '>' :: rest => .error ⟨.invalidToken, '>' :: rest⟩
  | c :: rest =>
    ((checkChar t).mapError (Stop.complaint t)).map fun _ => some (.character c, rest)

end SourceAtlas.Xml
