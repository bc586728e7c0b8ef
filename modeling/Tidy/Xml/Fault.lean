/-
# Tidy.Xml.Fault -- why a text is not well-formed XML

A fault is a cause and a place. The place is kept as the text from it on; lines and columns are counted only
when the fault is put into words. A line ends at a line feed, at a carriage return, or at both together; columns
count code points from zero.
-/

import Tidy.Text.CodePoint

namespace Tidy.Xml

/-- Why a text is not well-formed. -/
inductive Cause where
  | syntaxError
  | noElement
  | invalidToken
  | unclosedToken
  | partialCharacter
  | mismatchedTag
  | duplicateAttribute
  | junkAfterElement
  | parameterReference
  | undefinedEntity
  | recursiveEntity
  | asynchronousEntity
  | badCharacterNumber
  | binaryEntity
  | externalEntityInAttribute
  | misplacedDeclaration
  | unclosedCdata
  | unboundPrefix
  | undeclaredPrefix
  | badDeclaration
  | badPublicId
  | reservedXml
  | reservedXmlns
  | reservedNamespace
deriving DecidableEq

/-- The words for a cause. -/
def Cause.message : Cause → Text
  | syntaxError => "syntax error"
  | noElement => "no element found"
  | invalidToken => "not well-formed (invalid token)"
  | unclosedToken => "unclosed token"
  | partialCharacter => "partial character"
  | mismatchedTag => "mismatched tag"
  | duplicateAttribute => "duplicate attribute"
  | junkAfterElement => "junk after document element"
  | parameterReference => "illegal parameter entity reference"
  | undefinedEntity => "undefined entity"
  | recursiveEntity => "recursive entity reference"
  | asynchronousEntity => "asynchronous entity"
  | badCharacterNumber => "reference to invalid character number"
  | binaryEntity => "reference to binary entity"
  | externalEntityInAttribute => "reference to external entity in attribute"
  | misplacedDeclaration => "XML or text declaration not at start of entity"
  | unclosedCdata => "unclosed CDATA section"
  | unboundPrefix => "unbound prefix"
  | undeclaredPrefix => "must not undeclare prefix"
  | badDeclaration => "XML declaration not well-formed"
  | badPublicId => "illegal character(s) in public id"
  | reservedXml =>
    "reserved prefix (xml) must not be undeclared or bound to another namespace name"
  | reservedXmlns => "reserved prefix (xmlns) must not be declared or undeclared"
  | reservedNamespace => "prefix must not be bound to one of the reserved namespace names"

/-- What keeps a text from being accepted. -/
inductive Fault where
  /-- The text is not well-formed; `place` is the text from the fault on. -/
  | malformed (cause : Cause) (place : Text)
  /-- The content of an element type is declared a second time. -/
  | redeclared
  /-- A surrogate stands alone in the text. -/
  | unencodable

/-- A line, counted from one, and a column, counted from zero. -/
structure Position where
  line : Nat
  column : Nat
deriving DecidableEq

/-- The position after a text that starts at `p`. -/
def Position.after (p : Position) : Text → Position
  | [] => p
  | [c] => if c = '\n' || c = '\r' then ⟨p.line + 1, 0⟩ else ⟨p.line, p.column + 1⟩
  | c :: d :: rest =>
    if c = '\r' then
      if d = '\n' then Position.after ⟨p.line + 1, 0⟩ rest
      else Position.after ⟨p.line + 1, 0⟩ (d :: rest)
    else if c = '\n' then Position.after ⟨p.line + 1, 0⟩ (d :: rest)
    else Position.after ⟨p.line, p.column + 1⟩ (d :: rest)

/-- The position of `place` in `source`, where `place` is an end of `source`. -/
def Position.of (source place : Text) : Position :=
  Position.after ⟨1, 0⟩ (source.take (source.length - place.length))

/-- The words for a cause at a position. -/
def message (cause : Cause) (p : Position) : Text :=
  "Invalid XML syntax: " ++ cause.message ++ ": line " ++ Text.ofNat p.line ++ ", column " ++
    Text.ofNat p.column

end Tidy.Xml
