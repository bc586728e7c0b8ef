/-
# Tidy.Xml.Document -- well-formed documents

A document is a prolog, a root element with its content, and comments and processing instructions after it.
Content is read piece by piece, with a stack of the elements that are open. The replacement text of an entity
is content of its own: it has to close exactly the elements that it opens. A fault in it counts at the reference
to the entity.
-/

import Tidy.Xml.Element
import Tidy.Xml.Encoding
import Tidy.Xml.Prolog

namespace Tidy.Xml

/-- An element that is open: its name, and the scope inside it. -/
structure OpenElement where
  name : Text
  scope : Scope

/-- What content belongs to: the root element of a document, or an entity. -/
inductive Owner where
  | root
  | entity
deriving DecidableEq

/-- A piece of content. -/
inductive Piece where
  | data
  | comment
  | instruction
  | reference (reference : Reference)
  | startTag (start : StartTag)
  | endTag (name place : Text)

/-- The fault at the text `s`, in which a token is cut. -/
def unclosed {α : Type} (s : Text) : Except Fault α :=
  .error (.malformed .unclosedToken s)

/-- The fault of a scanner at the text `s`, or what it found. -/
def found {α : Type} (s : Text) : Scan α → Except Fault (α × Text)
  | .found value rest => .ok (value, rest)
  | .invalid place => .error (.malformed .invalidToken place)
  | .cut => unclosed s

/-- The CDATA section at the text `s`, where `inside` follows its `<![`. -/
def cdataSection (s inside : Text) : Except Fault (Piece × Text) := do
  let (_, body) ← found s (scanCdataMark inside)
  match scanCdata body with
  | .found _ rest => pure (.data, rest)
  | .invalid place => .error (.malformed .invalidToken place)
  | .cut => .error (.malformed .unclosedCdata (cdataCutPlace body))

/-- The piece of markup at the text `s`, where `inside` follows its `<`. -/
def markup (s inside : Text) : Except Fault (Piece × Text) :=
  match inside with
  | [] => unclosed s
  | c :: more =>
    if c = '!' then
      match more with
      | [] => unclosed s
      | d :: body =>
        if d = '-' then (found s (scanComment body)).map fun (_, rest) => (.comment, rest)
        else if d = '[' then cdataSection s body
        else .error (.malformed .invalidToken more)
    else if c = '?' then do
      match ← found s (scanInstruction more) with
      | (.ordinary, rest) => pure (.instruction, rest)
      | (.declaration, _) => .error (.malformed .misplacedDeclaration s)
    else if c = '/' then
      (found s (scanEndTag more)).map fun ((name, place), rest) => (.endTag name place, rest)
    else (found s (scanStartTag inside)).map fun (start, rest) => (.startTag start, rest)

/-- The piece of content at the text `c :: rest`. -/
def nextPiece (c : CodePoint) (rest : Text) : Except Fault (Piece × Text) :=
  if c = '<' then markup (c :: rest) rest
  else if c = '&' then
    (found (c :: rest) (scanReference rest)).map fun (reference, rest) => (.reference reference, rest)
  else (found (c :: rest) (scanData (c :: rest))).map fun (_, rest) => (.data, rest)

/-- The verdict where content ends with its text, before which `before` stands. The root element has to be closed
before; a carriage return at the very end is not passed. -/
def atEnd (owner : Owner) (stack : List OpenElement) (before : Text) : Except Fault Text :=
  match owner with
  | .root => .error (.malformed .noElement (if Text.endsWith before "\r" then "\r" else []))
  | .entity => if stack.isEmpty then .ok [] else .error (.malformed .asynchronousEntity [])

/-- Checks a reference at the text `s`. `expand` checks the replacement text of an entity. -/
def checkReference (dtd : Dtd) (opened : List Text)
    (expand : (name text : Text) → Except Fault Unit) (s : Text) : Reference → Except Fault Unit
  | .character n =>
    if isCharacterNumber n then .ok () else .error (.malformed .badCharacterNumber s)
  | .entity name =>
    if (predefined? name).isSome then .ok ()
    else
      match dtd.entity? name with
      | none => if dtd.strict then .error (.malformed .undefinedEntity s) else .ok ()
      | some entity =>
        if opened.contains name then .error (.malformed .recursiveEntity s)
        else
          match entity with
          | .unparsed => .error (.malformed .binaryEntity s)
          | .external => .ok ()
          | .internal text =>
            match expand name text with
            | .ok () => .ok ()
            | .error (.malformed cause _) => .error (.malformed cause s)
            | .error fault => .error fault

/-- The scope at a place in content. -/
def scopeAt (outer : Scope) (stack : List OpenElement) : Scope :=
  match stack with
  | [] => outer
  | element :: _ => element.scope

/-- Checks content up to the end of what it belongs to, and gives what follows. `opened` are the entities that are
being replaced, `outer` is the scope around the content, and `limit` bounds the number of pieces. -/
def checkContentWith (dtd : Dtd) (opened : List Text) (outer : Scope) (owner : Owner)
    (expand : (scope : Scope) → (name text : Text) → Except Fault Unit) :
    (limit : Nat) → (stack : List OpenElement) → (before s : Text) → Except Fault Text
  | 0, stack, before, _ => atEnd owner stack before
  | _ + 1, stack, before, [] => atEnd owner stack before
  | limit + 1, stack, _, c :: rest => do
    let s := c :: rest
    let scope := scopeAt outer stack
    let (piece, after) ← nextPiece c rest
    let goOn := fun stack => checkContentWith dtd opened outer owner expand limit stack s after
    match piece with
    | .data | .comment | .instruction => goOn stack
    | .reference reference => do
      checkReference dtd opened (expand scope) s reference
      goOn stack
    | .startTag start => do
      let inner ← checkStartTag dtd opened scope s start
      if !start.empty then goOn (⟨start.name, inner⟩ :: stack)
      else if stack.isEmpty && owner = .root then pure after
      else goOn stack
    | .endTag name place =>
      match stack with
      | [] => .error (.malformed .asynchronousEntity s)
      | element :: below =>
        if element.name ≠ name then .error (.malformed .mismatchedTag place)
        else if below.isEmpty && owner = .root then pure after
        else goOn below

/-- Checks the replacement text of an entity. `room` bounds how deep entities may refer to entities. -/
def checkReplacement (dtd : Dtd) :
    (room : Nat) → (opened : List Text) → Scope → (name text : Text) → Except Fault Unit
  | 0, _, _, _, _ => .error (.malformed .recursiveEntity [])
  | room + 1, opened, scope, name, text => do
    let opened := name :: opened
    let _ ← checkContentWith dtd opened scope .entity (checkReplacement dtd room opened)
      (text.length + 1) [] [] text

/-- Checks the root element at the start of `s`, and gives what follows it. -/
def checkRoot (dtd : Dtd) (s : Text) : Except Fault Text :=
  checkContentWith dtd [] outerScope .root (checkReplacement dtd (dtd.entities.length + 1) [])
    (s.length + 1) [] [] s

/-- Checks a document. -/
def checkDocument (s : Text) : Except Fault Unit := do
  let (dtd, root) ← Prolog.read (s.length + 1) {} s
  let rest ← checkRoot dtd root
  checkEpilog (rest.length + 1) rest

/-- The byte order mark. -/
def byteOrderMark : CodePoint := Char.ofNat 0xFEFF

/-- Checks what the bytes of a document say. One byte order mark may stand before the document. Where a document
may end, half of a unit is a token that is not closed. -/
def Reading.check (r : Reading) : Except Fault Unit :=
  let verdict := checkDocument (if r.text.head? = some byteOrderMark then r.text.drop 1 else r.text)
  if !r.torn then verdict
  else
    match verdict with
    | .ok () | .error (.malformed .noElement _) => unclosed []
    | .error fault => .error fault

/-- Checks that a text is well-formed XML. -/
def check (source : Text) : Except Fault Unit :=
  if source.hasSurrogate then .error .unencodable else (reading source).check

/-- The words for the cause of a fault of `source`, and for its place. -/
def faultMessage (source : Text) (cause : Cause) (place : Text) : Text :=
  message cause (Position.of (reading source).text place)

end Tidy.Xml
