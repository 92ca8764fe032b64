import SourceAtlas.Xml.Dtd
import SourceAtlas.Xml.Mark

/-!
# The document type

A document type names the root element and may declare entities and attributes in brackets.  Parts
that are kept elsewhere are not read.  Element types and notations are checked for their form and
otherwise ignored.
-/

namespace SourceAtlas.Xml

/-- A mark with the text from its beginning on and the text after it. -/
structure Marked where
  mark : Mark
  start : Text
  rest : Text
  deriving DecidableEq, Repr

/-- Takes the next mark, after white space. -/
def nextMark (t : Text) : Except Complaint Marked :=
  let start := t.dropWhile isSpace
  if start = [] then .error ⟨.noElement, []⟩
  else
    match scanMark start with
    | .ok (mark, rest) => .ok ⟨mark, start, rest⟩
    | .error stop => .error (stop.complaint start)

/-- The complaint about a mark that cannot stand where it is. -/
def Marked.refusal (m : Marked) : Complaint :=
  match m.mark with
  | .parameter _ => ⟨.parameterReference, m.start⟩
  | .declaration _ => ⟨.misplacedDeclaration, m.start⟩
  | _ => ⟨.malformedMarkup, m.start⟩

/-- Takes a given mark. -/
def expect (mark : Mark) (t : Text) : Except Complaint Text := do
  let m ← nextMark t
  if m.mark = mark then return m.rest else throw m.refusal

/-- Takes a name without colon. -/
def expectName (t : Text) : Except Complaint (Text × Text) := do
  let m ← nextMark t
  match m.mark with
  | .name n => return (n, m.rest)
  | _ => throw m.refusal

/-- Takes a name that may have a colon. -/
def expectAnyName (t : Text) : Except Complaint (Text × Text) := do
  let m ← nextMark t
  match m.mark with
  | .name n | .qualified n => return (n, m.rest)
  | _ => throw m.refusal

/-- A literal with the text where it begins and the text after its body. -/
structure Literal where
  body : Text
  start : Text
  deriving DecidableEq, Repr

/-- The text after the body of a literal. -/
def Literal.after (l : Literal) : Text := l.start.drop (l.body.length + 1)

/-- Takes a literal. -/
def expectLiteral (t : Text) : Except Complaint (Literal × Text) := do
  let m ← nextMark t
  match m.mark with
  | .literal body => return (⟨body, m.start⟩, m.rest)
  | _ => throw m.refusal

/-- A character of a public identifier. -/
def isPublicChar (c : Char) : Bool :=
  c.isAlphanum || " \r\n-'()+,./:=?;!*#@$_%".toList.contains c

/-- Checks the characters of a public identifier. -/
def checkPublic (l : Literal) : Except Complaint Unit :=
  match l.body.dropWhile isPublicChar with
  | [] => .ok ()
  | bad => .error ⟨.illegalPublicId, bad ++ l.after⟩

/-- Takes a public identifier. -/
def expectPublic (t : Text) : Except Complaint Text := do
  let (l, rest) ← expectLiteral t
  checkPublic l
  return rest

/-- Takes what follows the keyword of an external identifier. -/
def expectExternal (m : Marked) : Except Complaint Text :=
  if m.mark = .name "SYSTEM".toList then (expectLiteral m.rest).map (·.2)
  else if m.mark = .name "PUBLIC".toList then do
    let rest ← expectPublic m.rest
    return (← expectLiteral rest).2
  else .error m.refusal

/-! ## Entities -/

/-- The text of an entity whose value is a literal. -/
def entityBody (d : Dtd) (l : Literal) : Except Complaint Text :=
  if d.keeps then (entityText l.body.length l.body).mapError (·.followedBy l.after)
  else .ok []

/-- Takes the declaration of a parameter entity after its name. -/
def readParameterEntity (d : Dtd) (t : Text) : Except Complaint (Dtd × Text) := do
  let m ← nextMark t
  match m.mark with
  | .literal body => do
    let _ ← entityBody d ⟨body, m.start⟩
    return (d, ← expect .close m.rest)
  | _ => return (d, ← expect .close (← expectExternal m))

/-- Takes the declaration of an entity after its name. -/
def readGeneralEntity (d : Dtd) (name t : Text) : Except Complaint (Dtd × Text) := do
  let m ← nextMark t
  match m.mark with
  | .literal body => do
    let text ← entityBody d ⟨body, m.start⟩
    return (d.declareEntity name (.internal text), ← expect .close m.rest)
  | _ => do
    let rest ← expectExternal m
    let m ← nextMark rest
    if m.mark = .close then return (d.declareEntity name .external, m.rest)
    else if m.mark = .name "NDATA".toList then
      let (_, rest) ← expectName m.rest
      return (d.declareEntity name .unparsed, ← expect .close rest)
    else throw m.refusal

/-- Takes the declaration of an entity. -/
def readEntity (d : Dtd) (t : Text) : Except Complaint (Dtd × Text) := do
  let m ← nextMark t
  match m.mark with
  | .percent => do
    let (_, rest) ← expectName m.rest
    readParameterEntity d rest
  | .name n => readGeneralEntity d n m.rest
  | _ => throw m.refusal

/-! ## Attributes -/

/-- Takes the names or tokens of an enumerated type after its parenthesis; `isItem` says what may
stand in it, and `count` bounds their number. -/
def readEnumeration (isItem : Mark → Bool) : Nat → Text → Except Complaint Text
  | 0, _ => .error ⟨.noElement, []⟩
  | count + 1, t => do
    let m ← nextMark t
    if !isItem m.mark then throw m.refusal
    let next ← nextMark m.rest
    if next.mark = .parenClose .once then return next.rest
    else if next.mark = .bar then readEnumeration isItem count next.rest
    else throw next.refusal

/-- A notation in an enumerated type. -/
def isNotationItem : Mark → Bool
  | .name _ => true
  | _ => false

/-- A token in an enumerated type. -/
def isTokenItem : Mark → Bool
  | .name _ | .qualified _ | .token _ => true
  | _ => false

/-- The types of attributes whose values are not plain characters and that have a keyword. -/
def tokenTypes : List Text :=
  ["ID", "IDREF", "IDREFS", "ENTITY", "ENTITIES", "NMTOKEN", "NMTOKENS"].map String.toList

/-- Takes the type of an attribute; the answer is whether its values are plain characters. -/
def readAttributeType (t : Text) : Except Complaint (Bool × Text) := do
  let m ← nextMark t
  match m.mark with
  | .parenOpen => return (false, ← readEnumeration isTokenItem m.rest.length m.rest)
  | .name n =>
    if n = "CDATA".toList then return (true, m.rest)
    else if tokenTypes.contains n then return (false, m.rest)
    else if n = "NOTATION".toList then
      let rest ← expect .parenOpen m.rest
      return (false, ← readEnumeration isNotationItem rest.length rest)
    else throw m.refusal
  | _ => throw m.refusal

/-- The default value that a literal gives. -/
def defaultValue (d : Dtd) (plain : Bool) (l : Literal) : Except Complaint Text :=
  if d.keeps then (d.normalize plain l.body).mapError (·.complaint l.start l.after)
  else .ok []

/-- Takes the default of an attribute. -/
def readDefault (d : Dtd) (plain : Bool) (t : Text) : Except Complaint (Option Text × Text) := do
  let m ← nextMark t
  match m.mark with
  | .pound word =>
    if word = "IMPLIED".toList ∨ word = "REQUIRED".toList then return (none, m.rest)
    else if word = "FIXED".toList then
      let (l, rest) ← expectLiteral m.rest
      return (some (← defaultValue d plain l), rest)
    else throw m.refusal
  | .literal body => return (some (← defaultValue d plain ⟨body, m.start⟩), m.rest)
  | _ => throw m.refusal

/-- Takes the declarations of the attributes of an element, of which there are at most `count`. -/
def readAttributes (element : Text) : Nat → Dtd → Text → Except Complaint (Dtd × Text)
  | 0, _, _ => .error ⟨.noElement, []⟩
  | count + 1, d, t => do
    let m ← nextMark t
    match m.mark with
    | .close => return (d, m.rest)
    | .name n | .qualified n => do
      let (plain, rest) ← readAttributeType m.rest
      let (default, rest) ← readDefault d plain rest
      readAttributes element count (d.declareAttribute ⟨element, n, plain, default⟩) rest
    | _ => throw m.refusal

/-- Takes the declaration of attributes. -/
def readAttributeList (d : Dtd) (t : Text) : Except Complaint (Dtd × Text) := do
  let (element, rest) ← expectAnyName t
  readAttributes element rest.length d rest

/-! ## Element types and notations -/

/-- Takes the names in mixed content after the mark of plain characters. -/
def readMixed : Nat → Bool → Text → Except Complaint Text
  | 0, _, _ => .error ⟨.noElement, []⟩
  | count + 1, named, t => do
    let m ← nextMark t
    if m.mark = .parenClose .any ∨ (m.mark = .parenClose .once ∧ ¬ named) then return m.rest
    else if m.mark = .bar then
      let (_, rest) ← expectAnyName m.rest
      readMixed count true rest
    else throw m.refusal

mutual

/-- Takes an item of a group.  For each open group, the innermost first, `groups` holds the mark
that separates its items, once that is known. -/
def readItem : Nat → List (Option Mark) → Text → Except Complaint Text
  | 0, _, _ => .error ⟨.noElement, []⟩
  | count + 1, groups, t => do
    let m ← nextMark t
    match m.mark with
    | .parenOpen => readItem count (none :: groups) m.rest
    | .name _ | .qualified _ | .repeated .. => readSeparator count groups m.rest
    | _ => throw m.refusal

/-- Takes what follows an item of a group. -/
def readSeparator : Nat → List (Option Mark) → Text → Except Complaint Text
  | 0, _, _ => .error ⟨.noElement, []⟩
  | count + 1, groups, t => do
    let m ← nextMark t
    match groups, m.mark with
    | [_], .parenClose _ => return m.rest
    | _ :: outer, .parenClose _ => readSeparator count outer m.rest
    | group :: outer, separator =>
      if separator = .comma ∨ separator = .bar then
        if group.getD separator = separator then readItem count (some separator :: outer) m.rest
        else throw ⟨.malformedMarkup, m.start⟩
      else throw m.refusal
    | [], _ => throw m.refusal

end

/-- Takes the content of an element type. -/
def readContentModel (t : Text) : Except Complaint Text := do
  let m ← nextMark t
  if m.mark = .name "EMPTY".toList ∨ m.mark = .name "ANY".toList then return m.rest
  else if m.mark = .parenOpen then
    let first ← nextMark m.rest
    match first.mark with
    | .pound word =>
      if word = "PCDATA".toList then readMixed first.rest.length false first.rest
      else throw first.refusal
    | _ => readItem m.rest.length [none] m.rest
  else throw m.refusal

/-- Takes the declaration of an element type. -/
def readElementType (t : Text) : Except Complaint Text := do
  let (_, rest) ← expectAnyName t
  expect .close (← readContentModel rest)

/-- Takes the declaration of a notation. -/
def readNotation (t : Text) : Except Complaint Text := do
  let (_, rest) ← expectName t
  let m ← nextMark rest
  if m.mark = .name "PUBLIC".toList then
    let rest ← expectPublic m.rest
    let m ← nextMark rest
    match m.mark with
    | .close => return m.rest
    | .literal _ => expect .close m.rest
    | _ => throw m.refusal
  else expect .close (← expectExternal m)

/-! ## The whole declaration -/

/-- Takes the declarations in brackets, of which there are at most `count`. -/
def readSubset : Nat → Dtd → Text → Except Complaint (Dtd × Text)
  | 0, _, _ => .error ⟨.noElement, []⟩
  | count + 1, d, t => do
    let m ← nextMark t
    match m.mark with
    | .bracketClose => return (d, m.rest)
    | .comment | .instruction => readSubset count d m.rest
    | .parameter _ => readSubset count d.noteUnread m.rest
    | .markup keyword =>
      if keyword = "ENTITY".toList then
        let (d, rest) ← readEntity d m.rest
        readSubset count d rest
      else if keyword = "ATTLIST".toList then
        let (d, rest) ← readAttributeList d m.rest
        readSubset count d rest
      else if keyword = "ELEMENT".toList then
        let rest ← readElementType m.rest
        readSubset count d rest
      else if keyword = "NOTATION".toList then
        let rest ← readNotation m.rest
        readSubset count d rest
      else throw m.refusal
    | _ => throw m.refusal

/-- Takes the declarations in brackets, and the end of the document type. -/
def readBrackets (d : Dtd) (t : Text) : Except Complaint (Dtd × Text) := do
  let (d, rest) ← readSubset (t.length + 1) d t
  return (d, ← expect .close rest)

/-- Takes the document type after its keyword. -/
def readDoctype (d : Dtd) (t : Text) : Except Complaint (Dtd × Text) := do
  let (_, rest) ← expectAnyName t
  let m ← nextMark rest
  match m.mark with
  | .bracketOpen => readBrackets d m.rest
  | .close => return (d, m.rest)
  | _ => do
    let rest ← expectExternal m
    let d := { d with hasUnread := true }
    let m ← nextMark rest
    match m.mark with
    | .bracketOpen => readBrackets d m.rest
    | .close => return (d, m.rest)
    | _ => throw m.refusal

end SourceAtlas.Xml
