import SourceAtlas.Xml.Indent

/-!
# Elements that stand at several places

An element that is taken over can be part of another one that is taken over, or be taken over twice.
It is one element then, and its white space is what was set last: that of its last place in the new
document.
-/

namespace SourceAtlas

open Xml

/-- A child of a document, and the place that it was taken over from. -/
structure Item where
  origin : Option Address
  element : Element
  deriving Repr

/-- The text and the tail at a place of the earlier document, as the last of the items that hold it
has them. -/
def lastSpaces? (items : List Item) (place : Address) : Option (Text × Text) :=
  items.reverse.findSome? fun item => do
    let origin ← item.origin
    if origin.isPrefixOf place then
      let e ← item.element.at? (place.drop origin.length)
      return (e.text, e.tail)
    else none

mutual

/-- Sets text and tail of an element taken over from a place, and of all elements in it. -/
def setSpaces (spaces : Address → Option (Text × Text)) (place : Address) : Element → Element
  | ⟨name, attributes, text, children, tail⟩ =>
    let (text, tail) := (spaces place).getD (text, tail)
    ⟨name, attributes, text, setSpacesFrom spaces place 0 children, tail⟩

/-- Sets text and tail of the children of an element from the `n`-th on. -/
def setSpacesFrom (spaces : Address → Option (Text × Text)) (place : Address) (n : Nat) :
    List Element → List Element
  | [] => []
  | e :: es => setSpaces spaces (place ++ [n]) e :: setSpacesFrom spaces place (n + 1) es

end

/-- The items with the white space that each element has in the end. -/
def shareSpaces (items : List Item) : List Element :=
  items.map fun item =>
    match item.origin with
    | some place => setSpaces (lastSpaces? items) place item.element
    | none => item.element

/-- A root element with items as its children, indented. -/
def indentItems (root : Element) (items : List Item) : Element :=
  let indented := ({ root with children := items.map (·.element) } : Element).indent
  let placed := (items.zip indented.children).map fun (item, e) => { item with element := e }
  { indented with children := shareSpaces placed }

end SourceAtlas
