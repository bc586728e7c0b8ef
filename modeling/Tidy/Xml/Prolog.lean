/-
# Tidy.Xml.Prolog -- what stands before and after the root element

The prolog is read token by token. `Expect` says what may come next, and `Prolog.step` takes one token: it
moves on to what may follow, and it collects what the document type declares. White space may stand between any
two tokens.
-/

import Tidy.Xml.Declaration
import Tidy.Xml.Dtd

namespace Tidy.Xml

/-- What may come next in a prolog. -/
inductive Expect where
  | start
  | beforeDoctype
  | afterDoctype
  | doctypeName
  | doctypeRest
  | doctypePublicId
  | doctypeSystemId
  | doctypeSubset
  | doctypeClose
  | subset
  | entityName
  | parameterName
  | entityDefinition (parameter : Bool)
  | entityPublicId (parameter : Bool)
  | entitySystemId (parameter : Bool)
  | entityClose (parameter : Bool)
  | entityNotation
  | notationName
  | notationId
  | notationPublicId
  | notationSystemId
  | notationRest
  | attributeElement
  | attributeName
  | attributeType
  | enumerationValue
  | enumerationRest
  | notationGroup
  | notationValue
  | notationValueRest
  | attributeDefault
  | fixedDefault
  | elementName
  | elementModel
  | modelStart
  | mixedRest
  | mixedName
  | mixedNameRest
  | modelPart
  | modelRest
  | declarationClose
deriving DecidableEq

/-- What divides the parts of a group in a content model. -/
inductive Separator where
  | comma
  | bar
deriving DecidableEq

/-- How far a prolog has been read. `groups` holds the separators of the open groups of a content model, the
innermost first. -/
structure Prolog where
  expect : Expect := .start
  dtd : Dtd := {}
  entity : Option Text := none
  element : Text := []
  attributeName : Text := []
  verbatim : Bool := false
  identifies : Bool := false
  groups : List (Option Separator) := []

namespace Prolog

/-- Moves on. -/
def goOn (p : Prolog) (expect : Expect) : Except Fault Prolog :=
  .ok { p with expect }

/-- The fault of a token that may not stand where it stands. -/
def refuse (place : Text) : PrologToken → Except Fault Prolog
  | .parameterReference => .error (.malformed .parameterReference place)
  | .declaration => .error (.malformed .misplacedDeclaration place)
  | _ => .error (.malformed .syntaxError place)

/-- The place in a literal at `place` where `left` is left of its `body`. -/
def placeInLiteral (place body left : Text) : Text :=
  place.drop (1 + (body.length - left.length))

/-- Checks the characters of a public identifier. -/
def checkPublicId (place body : Text) : Except Fault Unit :=
  match body.dropWhile isPublicIdChar with
  | [] => .ok ()
  | left => .error (.malformed .badPublicId (placeInLiteral place body left))

/-- The fault of a value in a literal. -/
def valueFault (place body : Text) (fault : ValueFault) : Fault :=
  match fault.place with
  | none => .malformed fault.cause place
  | some left => .malformed fault.cause (placeInLiteral place body left)

/-- Takes the literal that holds the replacement text of an entity. -/
def takeEntityValue (p : Prolog) (place body : Text) : Except Fault Prolog := do
  if p.dtd.reading then
    let text ← (entityValue body).mapError (valueFault place body)
    let dtd := match p.entity with
      | some name => p.dtd.declareEntity name (.internal text)
      | none => p.dtd
    goOn { p with dtd } .declarationClose
  else goOn p .declarationClose

/-- Declares the entity that is being declared as one found elsewhere. -/
def takeEntity (p : Prolog) (entity : Entity) : Prolog :=
  match p.entity with
  | some name => { p with dtd := p.dtd.declareEntity name entity }
  | none => p

/-- Declares the attribute that is being declared. -/
def takeAttribute (p : Prolog) (value : Option Text) : Prolog :=
  if p.dtd.reading then
    { p with
      dtd := p.dtd.declareAttribute p.element ⟨p.attributeName, p.verbatim, value⟩
        (p.identifies && value.isNone) }
  else p

/-- Takes the literal that holds the default value of an attribute. -/
def takeDefault (p : Prolog) (place body : Text) : Except Fault Prolog := do
  if p.dtd.reading then
    let value ← (attributeValue p.dtd p.dtd.strict p.verbatim [] body).mapError (valueFault place body)
    goOn (p.takeAttribute (some value)) .attributeName
  else goOn p .attributeName

/-- Takes the end of the content model of an element. -/
def takeModel (p : Prolog) : Except Fault Prolog :=
  if p.dtd.elements.contains p.element then .error .redeclared
  else goOn { p with dtd := { p.dtd with elements := p.element :: p.dtd.elements } } .declarationClose

/-- Takes a separator in the innermost group, which may not mix separators. -/
def takeSeparator (p : Prolog) (place : Text) (separator : Separator) : Except Fault Prolog :=
  match p.groups with
  | some other :: _ =>
    if other = separator then goOn p .modelPart else .error (.malformed .syntaxError place)
  | none :: outer => goOn { p with groups := some separator :: outer } .modelPart
  | [] => goOn p .modelPart

/-- Takes the end of the innermost group. -/
def closeGroup (p : Prolog) : Except Fault Prolog :=
  match p.groups.drop 1 with
  | [] => { p with groups := [] }.takeModel
  | groups => goOn { p with groups } .modelRest

/-- Opens a group. -/
def openGroup (p : Prolog) (expect : Expect) : Except Fault Prolog :=
  goOn { p with groups := none :: p.groups } expect

/-- The types of attributes that are written as one word. -/
def attributeTypes : List Text :=
  ["CDATA", "ID", "IDREF", "IDREFS", "ENTITY", "ENTITIES", "NMTOKEN", "NMTOKENS"]

/-- Takes one token at `place`. -/
def step (p : Prolog) (place : Text) (token : PrologToken) : Except Fault Prolog :=
  match token with
  | .space => if p.expect = .start then goOn p .beforeDoctype else .ok p
  | token =>
    match p.expect, token with
    -- before and after the document type
    | .start, .instruction | .start, .comment => goOn p .beforeDoctype
    | .beforeDoctype, .instruction | .beforeDoctype, .comment
    | .afterDoctype, .instruction | .afterDoctype, .comment => .ok p
    | .start, .declarationOpen keyword | .beforeDoctype, .declarationOpen keyword =>
      if keyword = "DOCTYPE" then goOn p .doctypeName else refuse place token
    -- the document type
    | .doctypeName, .name _ _ => goOn p .doctypeRest
    | .doctypeRest, .openBracket | .doctypeSubset, .openBracket => goOn p .subset
    | .doctypeRest, .close | .doctypeSubset, .close | .doctypeClose, .close => goOn p .afterDoctype
    | .doctypeRest, .name word false =>
      if word = "SYSTEM" then goOn p .doctypeSystemId
      else if word = "PUBLIC" then goOn p .doctypePublicId
      else refuse place token
    | .doctypePublicId, .literal body => do
      checkPublicId place body
      goOn { p with dtd := { p.dtd with incomplete := true } } .doctypeSystemId
    | .doctypeSystemId, .literal _ =>
      goOn { p with dtd := { p.dtd with incomplete := true } } .doctypeSubset
    -- the internal subset
    | .subset, .declarationOpen keyword =>
      if keyword = "ENTITY" then goOn p .entityName
      else if keyword = "ATTLIST" then goOn p .attributeElement
      else if keyword = "ELEMENT" then goOn p .elementName
      else if keyword = "NOTATION" then goOn p .notationName
      else refuse place token
    | .subset, .instruction | .subset, .comment => .ok p
    | .subset, .parameterReference =>
      .ok { p with dtd := { p.dtd with incomplete := true, reading := p.dtd.standalone } }
    | .subset, .closeBracket => goOn p .doctypeClose
    | .declarationClose, .close => goOn p .subset
    -- entities
    | .entityName, .percent => goOn p .parameterName
    | .entityName, .name name false =>
      let counts := p.dtd.reading && (predefined? name).isNone
      goOn { p with entity := if counts then some name else none } (.entityDefinition false)
    | .parameterName, .name _ false => goOn { p with entity := none } (.entityDefinition true)
    | .entityDefinition parameter, .name word false =>
      if word = "SYSTEM" then goOn p (.entitySystemId parameter)
      else if word = "PUBLIC" then goOn p (.entityPublicId parameter)
      else refuse place token
    | .entityDefinition _, .literal body => p.takeEntityValue place body
    | .entityPublicId parameter, .literal body => do
      checkPublicId place body
      goOn p (.entitySystemId parameter)
    | .entitySystemId parameter, .literal _ => goOn p (.entityClose parameter)
    | .entityClose _, .close => goOn (p.takeEntity .external) .subset
    | .entityClose false, .name word false =>
      if word = "NDATA" then goOn p .entityNotation else refuse place token
    | .entityNotation, .name _ false => goOn (p.takeEntity .unparsed) .declarationClose
    -- notations
    | .notationName, .name _ false => goOn p .notationId
    | .notationId, .name word false =>
      if word = "SYSTEM" then goOn p .notationSystemId
      else if word = "PUBLIC" then goOn p .notationPublicId
      else refuse place token
    | .notationPublicId, .literal body => do
      checkPublicId place body
      goOn p .notationRest
    | .notationSystemId, .literal _ | .notationRest, .literal _ => goOn p .declarationClose
    | .notationRest, .close => goOn p .subset
    -- attributes
    | .attributeElement, .name element _ => goOn { p with element } .attributeName
    | .attributeName, .close => goOn p .subset
    | .attributeName, .name attributeName _ =>
      goOn { p with attributeName, verbatim := false, identifies := false } .attributeType
    | .attributeType, .name word false =>
      if attributeTypes.contains word then
        goOn { p with verbatim := word = "CDATA", identifies := word = "ID" } .attributeDefault
      else if word = "NOTATION" then goOn p .notationGroup
      else refuse place token
    | .attributeType, .openParen => goOn p .enumerationValue
    | .enumerationValue, .name _ _ | .enumerationValue, .nameToken => goOn p .enumerationRest
    | .enumerationRest, .closeParen .once | .notationValueRest, .closeParen .once =>
      goOn p .attributeDefault
    | .enumerationRest, .bar => goOn p .enumerationValue
    | .notationGroup, .openParen => goOn p .notationValue
    | .notationValue, .name _ false => goOn p .notationValueRest
    | .notationValueRest, .bar => goOn p .notationValue
    | .attributeDefault, .poundName word =>
      if word = "IMPLIED" ∨ word = "REQUIRED" then goOn (p.takeAttribute none) .attributeName
      else if word = "FIXED" then goOn p .fixedDefault
      else refuse place token
    | .attributeDefault, .literal body | .fixedDefault, .literal body => p.takeDefault place body
    -- elements
    | .elementName, .name element _ => goOn { p with element, groups := [] } .elementModel
    | .elementModel, .name word false =>
      if word = "EMPTY" ∨ word = "ANY" then p.takeModel else refuse place token
    | .elementModel, .openParen => p.openGroup .modelStart
    | .modelStart, .poundName word =>
      if word = "PCDATA" then goOn p .mixedRest else refuse place token
    | .modelStart, .openParen | .modelPart, .openParen => p.openGroup .modelPart
    | .modelStart, .name _ _ | .modelStart, .modelName _
    | .modelPart, .name _ _ | .modelPart, .modelName _ => goOn p .modelRest
    | .mixedRest, .closeParen .once | .mixedRest, .closeParen .repeated
    | .mixedNameRest, .closeParen .repeated => p.takeModel
    | .mixedRest, .bar | .mixedNameRest, .bar => goOn p .mixedName
    | .mixedName, .name _ _ => goOn p .mixedNameRest
    | .modelRest, .closeParen _ => p.closeGroup
    | .modelRest, .comma => p.takeSeparator place .comma
    | .modelRest, .bar => p.takeSeparator place .bar
    | _, _ => refuse place token

/-- Takes the XML declaration at `place`, after which `rest` follows. -/
def takeDeclaration (p : Prolog) (place rest : Text) : Except Fault Prolog :=
  let inner := (place.drop 5).take (place.length - rest.length - 7)
  match readDeclaration inner with
  | .error left =>
    .error (.malformed .badDeclaration (place.drop (5 + (inner.length - left.length))))
  | .ok standalone => goOn { p with dtd := { p.dtd with standalone } } .beforeDoctype

/-- Reads the prolog up to the root element. `limit` bounds the number of tokens. -/
def read : (limit : Nat) → Prolog → (s : Text) → Except Fault (Dtd × Text)
  | 0, _, s => .error (.malformed .noElement s)
  | _ + 1, _, [] => .error (.malformed .noElement [])
  | limit + 1, p, c :: rest =>
    match scanProlog c rest with
    | .invalid place => .error (.malformed .invalidToken place)
    | .cut => .error (.malformed .unclosedToken (c :: rest))
    | .found token after =>
      match token, p.expect with
      | .elementStart, .start | .elementStart, .beforeDoctype | .elementStart, .afterDoctype =>
        .ok (p.dtd, c :: rest)
      | .declaration, .start => do
        let p ← p.takeDeclaration (c :: rest) after
        p.read limit after
      | _, _ => do
        let p ← p.step (c :: rest) token
        p.read limit after

end Prolog

/-- Checks what follows the root element: white space, comments and processing instructions. `limit` bounds
the number of tokens. -/
def checkEpilog : (limit : Nat) → Text → Except Fault Unit
  | 0, _ => .ok ()
  | _ + 1, [] => .ok ()
  | limit + 1, c :: rest =>
    match scanProlog c rest with
    | .invalid place => .error (.malformed .invalidToken place)
    | .cut => .error (.malformed .unclosedToken (c :: rest))
    | .found .space after | .found .comment after | .found .instruction after =>
      checkEpilog limit after
    | .found _ _ => .error (.malformed .junkAfterElement (c :: rest))

end Tidy.Xml
