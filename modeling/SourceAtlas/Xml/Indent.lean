import SourceAtlas.Text.Blank
import SourceAtlas.Xml.Element

/-!
# Indenting a document

Blank text between tags becomes a line break and the indentation of the tag that follows: one level
deeper in front of a child than in front of the closing tag.  Text that is not blank stays, and so
does the text of an element without children.
-/

namespace SourceAtlas.Xml

open Text

/-- The white space of one level. -/
def indentUnit : Text := "  ".toList

/-- A line break and the indentation of a level. -/
def lineAt (level : Nat) : Text := '\n' :: Text.replicate level indentUnit

/-- White space in place of blank text. -/
def settle (space t : Text) : Text := if allBlank t then space else t

namespace Element

mutual

/-- The inside of an element at a level. -/
def indentInside (level : Nat) : Element → Element
  | ⟨name, attributes, text, children, tail⟩ =>
    let text := if children.isEmpty then text else settle (lineAt (level + 1)) text
    ⟨name, attributes, text, indentChildren level children, tail⟩

/-- The children of an element at a level; the last one is followed by the closing tag. -/
def indentChildren (level : Nat) : List Element → List Element
  | [] => []
  | e :: es =>
    let following := lineAt (if es.isEmpty then level else level + 1)
    let inner := indentInside (level + 1) e
    { inner with tail := settle following inner.tail } :: indentChildren level es

end

/-- The document, indented. -/
def indent (e : Element) : Element := indentInside 0 e

end Element

end SourceAtlas.Xml
