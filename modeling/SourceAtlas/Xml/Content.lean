import SourceAtlas.Xml.Scope

/-!
# Content

The tokens of content build the document element.  The elements that are open form a stack; text is
collected until the next tag.  A reference to an entity continues in the text of the entity, which
has to close what it opens and may close nothing else.
-/

namespace SourceAtlas.Xml

/-- An open element: its name as written, the scope inside it, and what it holds so far. -/
structure Frame where
  raw : Text
  scope : Scope
  element : Element
  deriving Repr

/-- What was read of content: the open elements, the innermost first, the text since the last tag
back to front, and the document element once it is closed. -/
structure Building where
  frames : List Frame := []
  pending : Text := []
  root : Option Element := none
  deriving Repr

namespace Building

/-- Adds a character. -/
def push (b : Building) (c : Char) : Building := { b with pending := c :: b.pending }

/-- Hands the collected text to the innermost element. -/
def flush (b : Building) : Building :=
  match b.pending, b.frames with
  | [], _ | _, [] => b
  | t, f :: fs =>
    { b with frames := { f with element := f.element.addText t.reverse } :: fs, pending := [] }

/-- The scope in force. -/
def scope (b : Building) : Scope :=
  match b.frames with
  | [] => Scope.outermost
  | f :: _ => f.scope

/-- Hands a closed element to the innermost open one; without one it is the document element. -/
def place (b : Building) (e : Element) : Building :=
  match b.frames with
  | [] => { b with root := some e }
  | f :: fs =>
    let parent := { f.element with children := f.element.children ++ [e] }
    { b with frames := { f with element := parent } :: fs }

/-- Opens an element, or places an empty one. -/
def openElement (b : Building) (raw : Text) (closed : Bool) (e : Element) (s : Scope) :
    Building :=
  let b := b.flush
  if closed then b.place e else { b with frames := ⟨raw, s, e⟩ :: b.frames }

/-- Closes the innermost element, whose name as written is given. -/
def closeElement (b : Building) : Building :=
  let b := b.flush
  match b.frames with
  | [] => b
  | f :: fs => { b with frames := fs }.place f.element

end Building

/-- What reading content leads to: what was built, and what is still to be read. -/
abbrev Progress := Except Complaint (Building × Text)

/-- Continues in the text of an entity; the complaint of an entity is placed at its reference. -/
def readReference (d : Dtd) (nested : Text → Text → Building → Except Complaint Building)
    (b : Building) (start : Text) (r : Reference) : Except Complaint Building :=
  match r with
  | .character none => .error ⟨.badCharacterNumber, start⟩
  | .character (some c) => .ok (b.push c)
  | .entity name =>
    match predefined? name, d.entity? name with
    | some c, _ => .ok (b.push c)
    | none, none => .error ⟨if d.isComplete then .undefinedEntity else .unreadEntity name, start⟩
    | none, some .unparsed => .error ⟨.binaryEntity, start⟩
    | none, some .external => .error ⟨.unreadEntity name, start⟩
    | none, some (.internal body) => (nested name body b).mapError (·.movedTo start)

/-- Takes in a token that begins at `start`; `base` elements were open where the text began. -/
def takeToken (d : Dtd) (nested : Text → Text → Building → Except Complaint Building) (base : Nat)
    (b : Building) (start : Text) : Token → Except Complaint Building
  | .opening tag => do
    let (e, s) ← resolveTag d b.scope start tag
    return b.openElement tag.name tag.closed e s
  | .closing name =>
    match b.frames with
    | [] => .error ⟨.unbalancedEntity, start⟩
    | f :: _ =>
      if b.frames.length = base then .error ⟨.unbalancedEntity, start⟩
      else if f.raw = name then .ok b.closeElement
      else .error ⟨.mismatchedTag, start.drop 2⟩
  | .character c => .ok (b.push c)
  | .characters t => .ok (t.foldl Building.push b)
  | .reference r => readReference d nested b start r
  | .skipped => .ok b
  | .declaration => .error ⟨.misplacedDeclaration, start⟩

/-- Reads content until the text ends or the document element is closed; there are at most `count`
tokens.  A document that ends in half a line end is incomplete there. -/
def readTokens (d : Dtd) (nested : Text → Text → Building → Except Complaint Building)
    (base : Nat) : Nat → Building → Text → Progress
  | 0, b, t => .ok (b, t)
  | count + 1, b, t => do
    if base = 0 ∧ t = ['\r'] then throw ⟨.noElement, t⟩
    match ← scanToken t with
    | none =>
      if base = 0 then throw ⟨.noElement, []⟩
      else if b.frames.length = base then return (b, [])
      else throw ⟨.unbalancedEntity, []⟩
    | some (token, rest) => do
      let b ← takeToken d nested base b t token
      if b.frames.isEmpty then return (b, rest)
      readTokens d nested base count b rest

/-- Reads content in which entities are nested at most `depth` deep; `opened` are the entities
around it. -/
def readNested (d : Dtd) : Nat → List Text → Building → Text → Progress
  | 0, _, b, t =>
    readTokens d (fun _ _ _ => .error ⟨.recursiveEntity, []⟩) b.frames.length (t.length + 1) b t
  | depth + 1, opened, b, t =>
    let nested (name body : Text) (b : Building) : Except Complaint Building :=
      if opened.contains name then .error ⟨.recursiveEntity, []⟩
      else (readNested d depth (name :: opened) b body).map (·.1)
    readTokens d nested b.frames.length (t.length + 1) b t

/-- Reads the document element, and tells what follows it. -/
def readElement (d : Dtd) (t : Text) : Except Complaint (Element × Text) := do
  let (b, rest) ← readNested d (d.entities.length + 1) [] {} t
  match b.root with
  | some e => return (e, rest)
  | none => throw ⟨.noElement, rest⟩

end SourceAtlas.Xml
