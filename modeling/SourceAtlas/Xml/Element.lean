import SourceAtlas.Text.Basic

/-!
# XML elements

An element carries its attributes, the text up to its first child, its children, and the text that
follows it up to the next tag.  A name is a local name in a name space, which is empty for names in
none.  The place of an element in a document is the list of child numbers that leads to it.
-/

namespace SourceAtlas.Xml

/-- A name: a local name in a name space. -/
structure Name where
  space : Text := []
  localName : Text
  deriving DecidableEq, Repr

/-- A name in no name space. -/
def Name.plain (t : String) : Name := ⟨[], t.toList⟩

/-- An attribute: its name and its value. -/
abbrev Attribute := Name × Text

/-- An element with the text that follows it. -/
structure Element where
  name : Name
  attributes : List Attribute := []
  text : Text := []
  children : List Element := []
  tail : Text := []
  deriving Repr

/-- The place of an element: the child numbers on the way from the root, counted from zero. -/
abbrev Address := List Nat

namespace Element

/-- The value of an attribute without name space. -/
def attribute? (e : Element) (key : Text) : Option Text :=
  (e.attributes.find? (·.1 = ⟨[], key⟩)).map (·.2)

/-- The element with more text after everything that it holds so far. -/
def addText (e : Element) (t : Text) : Element :=
  match e.children.reverse with
  | [] => { e with text := e.text ++ t }
  | last :: before =>
    { e with children := ({ last with tail := last.tail ++ t } :: before).reverse }

mutual

/-- The element and all elements below it in document order, each with its place. -/
def places (e : Element) (here : Address) : List (Address × Element) :=
  match e with
  | ⟨name, attributes, text, children, tail⟩ =>
    (here, ⟨name, attributes, text, children, tail⟩) :: placesFrom here 0 children

/-- The elements in the children from the `n`-th on. -/
def placesFrom (here : Address) (n : Nat) : List Element → List (Address × Element)
  | [] => []
  | e :: es => places e (here ++ [n]) ++ placesFrom here (n + 1) es

end

/-- The element and all elements below it in document order. -/
def elements (e : Element) : List Element := (e.places []).map (·.2)

/-- The element at a place, counted from this one. -/
def at? (e : Element) : Address → Option Element
  | [] => some e
  | n :: ns => (e.children[n]?).bind fun child => child.at? ns

end Element

end SourceAtlas.Xml
