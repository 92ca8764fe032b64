import SourceAtlas.Xml.Scan

/-!
# Declared entities and attributes

What a document type declares shapes how the document is read: entities stand for text, and
attributes have types and default values.  The value of an attribute is normalised: white space
becomes spaces, and in values that are no plain characters runs of spaces become one and those at
the ends vanish.  Entities in a value are replaced as deep as they go; one that contains itself is
refused, so the depth is bounded by the number of entities.
-/

namespace SourceAtlas.Xml

/-- What an entity stands for: text, a part of the document that is kept elsewhere, or something
that is not XML. -/
inductive EntityBody
  | internal (t : Text)
  | external
  | unparsed
  deriving DecidableEq, Repr

/-- A declared attribute of an element. -/
structure AttributeDeclaration where
  element : Text
  name : Text
  isPlain : Bool
  default : Option Text
  deriving DecidableEq, Repr

/-- What a document type declares.  `hasUnread` says that some declarations may stand in parts that
are not read, and `keeps` that declarations still count after such a part. -/
structure Dtd where
  entities : List (Text × EntityBody) := []
  attributes : List AttributeDeclaration := []
  hasUnread : Bool := false
  standalone : Bool := false
  keeps : Bool := true
  deriving DecidableEq, Repr

namespace Dtd

/-- Every entity must be declared in what was read. -/
def isComplete (d : Dtd) : Bool := !d.hasUnread || d.standalone

/-- The declared body of an entity. -/
def entity? (d : Dtd) (name : Text) : Option EntityBody :=
  (d.entities.find? (·.1 = name)).map (·.2)

/-- Declares an entity; the first declaration of a name counts. -/
def declareEntity (d : Dtd) (name : Text) (body : EntityBody) : Dtd :=
  if !d.keeps || (predefined? name).isSome || (d.entity? name).isSome then d
  else { d with entities := d.entities ++ [(name, body)] }

/-- The declarations of the attributes of an element. -/
def attributesOf (d : Dtd) (element : Text) : List AttributeDeclaration :=
  d.attributes.filter (·.element = element)

/-- Declares an attribute; the first declaration of a name counts. -/
def declareAttribute (d : Dtd) (a : AttributeDeclaration) : Dtd :=
  if !d.keeps || (d.attributesOf a.element).any (·.name = a.name) then d
  else { d with attributes := d.attributes ++ [a] }

/-- Whether the values of an attribute are plain characters. -/
def isPlain (d : Dtd) (element name : Text) : Bool :=
  (((d.attributesOf element).find? (·.name = name)).map (·.isPlain)).getD true

/-- Notes a part that is not read. -/
def noteUnread (d : Dtd) : Dtd := { d with hasUnread := true, keeps := d.standalone }

end Dtd

/-! ## Values of attributes -/

/-- What is wrong with a value: at a place in it, or somewhere in the entities that it uses. -/
structure ValueFault where
  cause : Cause
  place : Option Text
  deriving DecidableEq, Repr

/-- The complaint about a value that `after` follows; a fault in an entity is placed where the
surrounding token begins. -/
def ValueFault.complaint (f : ValueFault) (start after : Text) : Complaint :=
  match f.place with
  | some rest => ⟨f.cause, rest ++ after⟩
  | none => ⟨f.cause, start⟩

/-- Adds a space to a value that is collected back to front. -/
def pushSpace (plain : Bool) (done : Text) : Text :=
  if !plain && (done.head?.getD ' ' = ' ') then done else ' ' :: done

/-- Normalises a value; `done` is collected back to front, and `nested` continues in the text of
an entity. -/
def normalizeFrom (d : Dtd) (plain : Bool) (nested : Text → Text → Text → Except ValueFault Text) :
    Nat → Text → Text → Except ValueFault Text
  | 0, _, done => .ok done
  | _ + 1, [], done => .ok done
  | count + 1, c :: cs, done =>
    let here : Option Text := some (c :: cs)
    if c = '<' then .error ⟨.invalidToken, here⟩
    else if c = '&' then
      match scanReference cs with
      | .error (.invalid rest) => .error ⟨.invalidToken, some rest⟩
      | .error _ => .error ⟨.invalidToken, here⟩
      | .ok (.character none, _) => .error ⟨.badCharacterNumber, here⟩
      | .ok (.character (some r), rest) =>
        normalizeFrom d plain nested count rest
          (if r = ' ' then pushSpace plain done else r :: done)
      | .ok (.entity name, rest) =>
        match predefined? name, d.entity? name with
        | some r, _ => normalizeFrom d plain nested count rest (r :: done)
        | none, none =>
          if d.isComplete then .error ⟨.undefinedEntity, none⟩
          else normalizeFrom d plain nested count rest done
        | none, some .unparsed => .error ⟨.binaryEntity, here⟩
        | none, some .external => .error ⟨.externalEntityInAttribute, here⟩
        | none, some (.internal body) =>
          match nested name body done with
          | .ok done => normalizeFrom d plain nested count rest done
          | .error f => .error { f with place := none }
    else if isSpace c then normalizeFrom d plain nested count cs (pushSpace plain done)
    else normalizeFrom d plain nested count cs (c :: done)

/-- Normalises a value in which entities are nested at most `depth` deep; `opened` are the entities
around it. -/
def normalizeNested (d : Dtd) (plain : Bool) :
    Nat → List Text → Text → Text → Except ValueFault Text
  | 0, _, t, done =>
    normalizeFrom d plain (fun _ _ _ => .error ⟨.recursiveEntity, none⟩) t.length t done
  | depth + 1, opened, t, done =>
    let nested (name body done : Text) : Except ValueFault Text :=
      if opened.contains name then .error ⟨.recursiveEntity, none⟩
      else normalizeNested d plain depth (name :: opened) body done
    normalizeFrom d plain nested t.length t done

/-- The normalised value of an attribute. -/
def Dtd.normalize (d : Dtd) (plain : Bool) (t : Text) : Except ValueFault Text := do
  let done ← normalizeNested d plain (d.entities.length + 1) [] t []
  return (if !plain && done.head? = some ' ' then done.drop 1 else done).reverse

/-! ## Values of entities -/

/-- The text that the value of an entity stands for: references to characters are replaced and
those to entities kept.  A reference to a parameter entity may not stand in a value. -/
def entityText : Nat → Text → Except Complaint Text
  | 0, _ => .ok []
  | _ + 1, [] => .ok []
  | count + 1, c :: cs =>
    let here := c :: cs
    if c = '%' then
      match scanName cs with
      | .ok (_, ';' :: _) => .error ⟨.parameterReference, here⟩
      | .ok (_, []) | .error .incomplete => .error ⟨.invalidToken, here⟩
      | .ok (_, rest) | .error (.invalid rest) => .error ⟨.invalidToken, rest⟩
      | .error .splitCharacter => .error ⟨.invalidToken, here⟩
    else if c = '&' then
      match scanReference cs with
      | .error (.invalid rest) => .error ⟨.invalidToken, rest⟩
      | .error _ => .error ⟨.invalidToken, here⟩
      | .ok (.character none, _) => .error ⟨.badCharacterNumber, here⟩
      | .ok (.character (some r), rest) => (entityText count rest).map (r :: ·)
      | .ok (.entity name, rest) =>
        (entityText count rest).map fun t => '&' :: name ++ ';' :: t
    else (entityText count cs).map (c :: ·)

end SourceAtlas.Xml
