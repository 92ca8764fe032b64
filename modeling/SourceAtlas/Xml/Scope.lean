import SourceAtlas.Xml.Dtd
import SourceAtlas.Xml.Element
import SourceAtlas.Xml.Token
import SourceAtlas.Xml.Writer

/-!
# Name spaces in force

A tag may bind prefixes to name spaces for its element and all below.  The attributes of a tag are
taken in order, then the declared default values, then the prefixes of attributes are replaced by
what they are bound to, and last that of the element.
-/

namespace SourceAtlas.Xml

open Text

/-- The prefixes in force with what they are bound to, the innermost binding first; the empty
prefix is that of names without one, and bound to nothing when its name space is empty. -/
abbrev Scope := List (Text × Text)

/-- The scope around the document element. -/
def Scope.outermost : Scope := [("xml".toList, xmlSpace)]

/-- What a prefix is bound to. -/
def Scope.spaceOf? (s : Scope) (label : Text) : Option Text := (s.find? (·.1 = label)).map (·.2)

/-- The name space that only the prefix for declarations denotes. -/
def xmlnsSpace : Text := "http://www.w3.org/2000/xmlns/".toList

/-- The name of the attributes that bind the empty prefix. -/
def xmlnsName : Text := "xmlns".toList

/-- Why a prefix cannot be bound to a name space. -/
def bindingFault? (label space : Text) : Option Cause :=
  if space = [] ∧ label ≠ [] then some .undeclaredPrefix
  else if label = xmlnsName then some .reservedXmlns
  else if space.contains '}' then some .malformedMarkup
  else if label = "xml".toList then if space = xmlSpace then none else some .reservedXml
  else if space = xmlSpace ∨ space = xmlnsSpace then some .reservedSpace
  else none

/-- A raw name before and after its colon. -/
def splitPrefix (t : Text) : Text × Text :=
  match t.dropWhile (· ≠ ':') with
  | ':' :: rest => (t.takeWhile (· ≠ ':'), rest)
  | _ => ([], t)

/-- The prefix that an attribute binds. -/
def boundPrefix? (name : Text) : Option Text :=
  if name = xmlnsName then some []
  else
    match splitPrefix name with
    | (label, rest) => if label = xmlnsName then some rest else none

/-- The attributes of a tag so far, under their raw names, and the scope inside. -/
structure Gathered where
  attributes : List (Text × Text)
  scope : Scope
  deriving DecidableEq, Repr

/-- Adds an attribute, which may bind a prefix. -/
def Gathered.add (g : Gathered) (name value : Text) : Except Cause Gathered :=
  match boundPrefix? name with
  | some label =>
    match bindingFault? label value with
    | some cause => .error cause
    | none => .ok { g with scope := (label, value) :: g.scope }
  | none => .ok { g with attributes := g.attributes ++ [(name, value)] }

/-- Adds the attributes that a tag gives.  `start` is where the tag begins, and `seen` are the
names so far. -/
def Gathered.addGiven (d : Dtd) (element start : Text) :
    List Text → Gathered → List RawAttribute → Except Complaint Gathered
  | _, g, [] => .ok g
  | seen, g, a :: as => do
    if seen.contains a.name then throw ⟨.duplicateAttribute, a.start⟩
    let value ← (d.normalize (d.isPlain element a.name) a.value).mapError
      (·.complaint start a.after)
    let g ← (g.add a.name value).mapError (⟨·, start⟩)
    Gathered.addGiven d element start (a.name :: seen) g as

/-- Adds the default values of declared attributes that the tag does not give. -/
def Gathered.addDefaults (start : Text) (given : List Text) :
    Gathered → List AttributeDeclaration → Except Complaint Gathered
  | g, [] => .ok g
  | g, a :: as =>
    match a.default with
    | some value =>
      if given.contains a.name then Gathered.addDefaults start given g as
      else do
        let g ← (g.add a.name value).mapError (⟨·, start⟩)
        Gathered.addDefaults start given g as
    | none => Gathered.addDefaults start given g as

/-- Replaces the prefixes of attributes; two attributes with prefixes must differ as names. -/
def expandAttributes (scope : Scope) :
    List Name → List (Text × Text) → Except Cause (List Attribute)
  | _, [] => .ok []
  | seen, (raw, value) :: rest =>
    match splitPrefix raw with
    | ([], name) => (expandAttributes scope seen rest).map ((⟨[], name⟩, value) :: ·)
    | (label, name) =>
      match scope.spaceOf? label with
      | none => .error .unboundPrefix
      | some space =>
        let full : Name := ⟨space, name⟩
        if seen.contains full then .error .duplicateAttribute
        else (expandAttributes scope (full :: seen) rest).map ((full, value) :: ·)

/-- The name of an element. -/
def expandElement (scope : Scope) (raw : Text) : Except Cause Name :=
  match splitPrefix raw with
  | ([], name) => .ok ⟨(scope.spaceOf? []).getD [], name⟩
  | (label, name) =>
    match scope.spaceOf? label with
    | none => .error .unboundPrefix
    | some space => .ok ⟨space, name⟩

/-- The element that a tag opens, still without content, and the scope inside. -/
def resolveTag (d : Dtd) (scope : Scope) (start : Text) (tag : Tag) :
    Except Complaint (Element × Scope) := do
  let g ← Gathered.addGiven d tag.name start [] ⟨[], scope⟩ tag.attributes
  let g ← Gathered.addDefaults start (tag.attributes.map (·.name)) g (d.attributesOf tag.name)
  let attributes ← (expandAttributes g.scope [] g.attributes).mapError (⟨·, start⟩)
  let name ← (expandElement g.scope tag.name).mapError (⟨·, start⟩)
  return ({ name, attributes }, g.scope)

end SourceAtlas.Xml
