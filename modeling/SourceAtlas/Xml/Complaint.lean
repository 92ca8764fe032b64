import SourceAtlas.Text.Basic

/-!
# Why a document is not well-formed

A complaint says what is wrong and where: the place is the part of the document that was still to
be read.  Its line is counted from one and its column, in characters, from zero; a line ends with a
line feed, a carriage return, or both in this order.
-/

namespace SourceAtlas.Xml

/-- What can be wrong with a document. -/
inductive Cause
  | invalidToken
  | unclosedToken
  | splitCharacter
  | noElement
  | mismatchedTag
  | duplicateAttribute
  | junkAfterElement
  | undefinedEntity
  | unreadEntity (name : Text)
  | recursiveEntity
  | unbalancedEntity
  | badCharacterNumber
  | binaryEntity
  | externalEntityInAttribute
  | misplacedDeclaration
  | malformedDeclaration
  | unknownEncoding
  | conflictingEncoding
  | unclosedCData
  | unboundPrefix
  | undeclaredPrefix
  | reservedXml
  | reservedXmlns
  | reservedSpace
  | illegalPublicId
  | parameterReference
  | malformedMarkup
  deriving DecidableEq, Repr

/-- The cause in words. -/
def Cause.message : Cause → Text
  | .invalidToken => "not well-formed (invalid token)".toList
  | .unclosedToken => "unclosed token".toList
  | .splitCharacter => "partial character".toList
  | .noElement => "no element found".toList
  | .mismatchedTag => "mismatched tag".toList
  | .duplicateAttribute => "duplicate attribute".toList
  | .junkAfterElement => "junk after document element".toList
  | .undefinedEntity => "undefined entity".toList
  | .unreadEntity name => "undefined entity &".toList ++ name ++ [';']
  | .recursiveEntity => "recursive entity reference".toList
  | .unbalancedEntity => "asynchronous entity".toList
  | .badCharacterNumber => "reference to invalid character number".toList
  | .binaryEntity => "reference to binary entity".toList
  | .externalEntityInAttribute => "reference to external entity in attribute".toList
  | .misplacedDeclaration => "XML or text declaration not at start of entity".toList
  | .malformedDeclaration => "XML declaration not well-formed".toList
  | .unknownEncoding => "unknown encoding".toList
  | .conflictingEncoding => "encoding specified in XML declaration is incorrect".toList
  | .unclosedCData => "unclosed CDATA section".toList
  | .unboundPrefix => "unbound prefix".toList
  | .undeclaredPrefix => "must not undeclare prefix".toList
  | .reservedXml =>
    "reserved prefix (xml) must not be undeclared or bound to another namespace name".toList
  | .reservedXmlns => "reserved prefix (xmlns) must not be declared or undeclared".toList
  | .reservedSpace => "prefix must not be bound to one of the reserved namespace names".toList
  | .illegalPublicId => "illegal character(s) in public id".toList
  | .parameterReference => "illegal parameter entity reference".toList
  | .malformedMarkup => "syntax error".toList

/-- A cause, and what was still to be read where it was met. -/
structure Complaint where
  cause : Cause
  rest : Text
  deriving DecidableEq, Repr

/-- The complaint about a part that more text follows. -/
def Complaint.followedBy (c : Complaint) (after : Text) : Complaint :=
  { c with rest := c.rest ++ after }

/-- The complaint, moved to another place. -/
def Complaint.movedTo (c : Complaint) (rest : Text) : Complaint := { c with rest }

/-- A place in a text. -/
structure Position where
  line : Nat
  column : Nat
  deriving DecidableEq, Repr

/-- The place that is reached after more text. -/
def Position.after : Position → Text → Position
  | p, [] => p
  | p, '\r' :: '\n' :: cs => Position.after ⟨p.line + 1, 0⟩ cs
  | p, c :: cs =>
    if c = '\n' ∨ c = '\r' then Position.after ⟨p.line + 1, 0⟩ cs
    else Position.after { p with column := p.column + 1 } cs

/-- The place in a document where only `rest` is still to be read. -/
def Position.before (document rest : Text) : Position :=
  Position.after ⟨1, 0⟩ (document.take (document.length - rest.length))

/-- The complaint in words. -/
def Complaint.message (c : Complaint) (document : Text) : Text :=
  let p := Position.before document c.rest
  c.cause.message ++ ": line ".toList ++ Text.ofNat p.line ++ ", column ".toList ++
    Text.ofNat p.column

end SourceAtlas.Xml
