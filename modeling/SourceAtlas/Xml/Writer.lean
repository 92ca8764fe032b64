import SourceAtlas.Text.Quoted
import SourceAtlas.Xml.Element

/-!
# Writing a document

Characters that would be read as markup are written as references, in attribute values also the
quote and the white space that a reader would normalise.  A name space gets a prefix where its
first name is met, an established one if there is one, and all prefixes are declared at the root in
the order of the prefixes.
-/

namespace SourceAtlas.Xml

open Text

/-- A character of text as it is written. -/
def writtenInText : Char → Text
  | '&' => "&amp;".toList
  | '<' => "&lt;".toList
  | '>' => "&gt;".toList
  | c => [c]

/-- A character of an attribute value as it is written. -/
def writtenInValue : Char → Text
  | '"' => "&quot;".toList
  | '\r' => "&#13;".toList
  | '\n' => "&#10;".toList
  | '\t' => "&#09;".toList
  | c => writtenInText c

/-- Text as it is written. -/
def escapeText (t : Text) : Text := t.flatMap writtenInText

/-- An attribute value as it is written. -/
def escapeValue (t : Text) : Text := t.flatMap writtenInValue

/-- Name spaces with their prefixes. -/
abbrev Prefixes := List (Text × Text)

/-- The name space that the prefix `xml` always denotes. -/
def xmlSpace : Text := "http://www.w3.org/XML/1998/namespace".toList

/-- Name spaces with an established prefix. -/
def establishedPrefixes : Prefixes :=
  [(xmlSpace, "xml".toList),
    ("http://www.w3.org/1999/xhtml".toList, "html".toList),
    ("http://www.w3.org/1999/02/22-rdf-syntax-ns#".toList, "rdf".toList),
    ("http://schemas.xmlsoap.org/wsdl/".toList, "wsdl".toList),
    ("http://www.w3.org/2001/XMLSchema".toList, "xs".toList),
    ("http://www.w3.org/2001/XMLSchema-instance".toList, "xsi".toList),
    ("http://purl.org/dc/elements/1.1/".toList, "dc".toList)]

namespace Prefixes

/-- The prefix of a name space. -/
def prefixOf? (p : Prefixes) (space : Text) : Option Text := (p.find? (·.1 = space)).map (·.2)

/-- Gives the name space of a name a prefix, unless it has one or needs none. -/
def add (p : Prefixes) (n : Name) : Prefixes :=
  if n.space = [] ∨ n.space = xmlSpace ∨ (p.prefixOf? n.space).isSome then p
  else
    let fresh := "ns".toList ++ ofNat p.length
    p ++ [(n.space, (prefixOf? establishedPrefixes n.space).getD fresh)]

/-- Gives prefixes to the names of an element. -/
def addElement (p : Prefixes) (e : Element) : Prefixes :=
  (e.name :: e.attributes.map (·.1)).foldl add p

/-- The prefixes of a document. -/
def ofDocument (root : Element) : Prefixes := root.elements.foldl addElement []

/-- A name as it is written. -/
def written (p : Prefixes) (n : Name) : Text :=
  if n.space = [] then n.localName
  else if n.space = xmlSpace then "xml:".toList ++ n.localName
  else ((p.prefixOf? n.space).getD []) ++ ':' :: n.localName

end Prefixes

/-- An attribute as it is written, after a space. -/
def writeAttribute (name value : Text) : Text :=
  ' ' :: name ++ "=\"".toList ++ escapeValue value ++ "\"".toList

/-- The declarations of prefixes, in the order of the prefixes. -/
def writePrefixes (p : Prefixes) : Text :=
  (p.mergeSort fun a b => Text.le a.2 b.2).flatMap fun (space, label) =>
    writeAttribute ("xmlns:".toList ++ label) space

mutual

/-- An element as it is written, its tail included; `declarations` follow its name. -/
def writeElement (p : Prefixes) (declarations : Text) : Element → Text
  | ⟨name, attributes, text, children, tail⟩ =>
    let tag := p.written name
    let opening :=
      '<' :: tag ++ declarations ++ attributes.flatMap fun a => writeAttribute (p.written a.1) a.2
    let body :=
      if text = [] ∧ children.isEmpty then " />".toList
      else
        '>' :: escapeText text ++ writeElements p children ++ "</".toList ++ tag ++ ['>']
    opening ++ body ++ escapeText tail

/-- Elements as they are written, one after the other. -/
def writeElements (p : Prefixes) : List Element → Text
  | [] => []
  | e :: es => writeElement p [] e ++ writeElements p es

end

/-- The first line of a document. -/
def declarationLine : Text := "<?xml version='1.0' encoding='utf-8'?>\n".toList

/-- A document as it is written. -/
def Element.write (root : Element) : Text :=
  let p := Prefixes.ofDocument root
  declarationLine ++ writeElement p (writePrefixes p) root

end SourceAtlas.Xml
