/-
# Tidy.Xml.Scan -- the tokens of XML

A scanner looks at the start of a text. It finds a token and what follows it, or it finds a character that
cannot stand where it stands, or the text ends inside the token. Scanners check the form of a token; what a
token means in its place is checked later.
-/

import Tidy.Xml.Character

namespace Tidy.Xml

/-- What a scanner finds at the start of a text. -/
inductive Scan (α : Type) where
  /-- A token, and the text after it. -/
  | found (value : α) (rest : Text)
  /-- A character that cannot stand there; `place` is the text from it on. -/
  | invalid (place : Text)
  /-- The text ends inside the token. -/
  | cut

/-- Goes on with a found token. -/
def Scan.bind {α β : Type} (scan : Scan α) (f : α → Text → Scan β) : Scan β :=
  match scan with
  | found value rest => f value rest
  | invalid place => invalid place
  | cut => cut

/-- Turns the value of a found token into another. -/
def Scan.map {α β : Type} (f : α → β) (scan : Scan α) : Scan β :=
  scan.bind fun value rest => .found (f value) rest

/-! ## Names -/

/-- Name characters at the start, and what follows them. -/
def nameTail (s : Text) : Text × Text :=
  (s.takeWhile isNameChar, s.dropWhile isNameChar)

/-- A name without a colon. -/
def scanName : Text → Scan Text
  | [] => .cut
  | c :: rest =>
    if isNameStart c then .found (c :: (nameTail rest).1) (nameTail rest).2
    else .invalid (c :: rest)

/-- A name with at most one colon, which a name start has to follow. -/
def scanQualifiedName (s : Text) : Scan Text :=
  (scanName s).bind fun first rest =>
    match rest with
    | [] => .found first []
    | c :: more =>
      if c = ':' then
        (scanName more).bind fun second rest =>
          match rest with
          | [] => .found (first ++ ":" ++ second) []
          | d :: _ =>
            if d = ':' then .invalid rest else .found (first ++ ":" ++ second) rest
      else .found first rest

/-- White space dropped from the start. -/
def skipSpace (s : Text) : Text :=
  s.dropWhile isSpace

/-! ## References -/

/-- A reference: to an entity by its name, or to a character by its number. -/
inductive Reference where
  | entity (name : Text)
  | character (number : Nat)

/-- Digits and a semicolon, and what they refer to. -/
def scanNumber (isDigit : CodePoint → Bool) (value : Text → Nat) : Text → Scan Reference
  | [] => .cut
  | c :: rest =>
    if isDigit c then
      match rest.dropWhile isDigit with
      | [] => .cut
      | d :: more =>
        if d = ';' then .found (.character (value (c :: rest.takeWhile isDigit))) more
        else .invalid (d :: more)
    else .invalid (c :: rest)

/-- A reference after its ampersand. -/
def scanReference : Text → Scan Reference
  | [] => .cut
  | c :: rest =>
    if c = '#' then
      match rest with
      | [] => .cut
      | d :: more =>
        if d = 'x' then scanNumber (fun c => (c.hexValue?).isSome) Text.hexadecimalValue more
        else scanNumber CodePoint.isAsciiDigit Text.decimalValue (d :: more)
    else
      (scanName (c :: rest)).bind fun name rest =>
        match rest with
        | [] => .cut
        | d :: more => if d = ';' then .found (.entity name) more else .invalid (d :: more)

/-! ## Comments and processing instructions -/

/-- The rest of a comment after its two opening hyphens. -/
def scanCommentBody : Text → Scan Unit
  | [] => .cut
  | c :: rest =>
    if !isLegal c then .invalid (c :: rest)
    else if c = '-' then
      match rest with
      | [] => .cut
      | d :: more =>
        if d = '-' then
          match more with
          | [] => .cut
          | e :: after => if e = '>' then .found () after else .invalid (e :: after)
        else scanCommentBody rest
    else scanCommentBody rest

/-- A comment after its first hyphen. -/
def scanComment : Text → Scan Unit
  | [] => .cut
  | c :: rest => if c = '-' then scanCommentBody rest else .invalid (c :: rest)

/-- The rest of a processing instruction after its target and one space. -/
def scanInstructionBody : Text → Scan Unit
  | [] => .cut
  | c :: rest =>
    if !isLegal c then .invalid (c :: rest)
    else if c = '?' then
      match rest with
      | [] => .cut
      | d :: more => if d = '>' then .found () more else scanInstructionBody rest
    else scanInstructionBody rest

/-- What the target of a processing instruction says that it is. -/
inductive Instruction where
  | ordinary
  | declaration

/-- Targets that spell `xml` are reserved: in lower case for the declaration, in other cases for nothing. -/
def instructionKind? (target : Text) : Option Instruction :=
  if target = "xml" then some .declaration
  else
    match target with
    | [x, m, l] =>
      if (x = 'x' || x = 'X') && (m = 'm' || m = 'M') && (l = 'l' || l = 'L') then none
      else some .ordinary
    | _ => some .ordinary

/-- A processing instruction after its `<?`. -/
def scanInstruction (s : Text) : Scan Instruction :=
  (scanName s).bind fun target rest =>
    match rest with
    | [] => .cut
    | c :: more =>
      if isSpace c then
        match instructionKind? target with
        | none => .invalid rest
        | some kind => (scanInstructionBody more).map fun _ => kind
      else if c = '?' then
        match instructionKind? target with
        | none => .invalid rest
        | some kind =>
          match more with
          | [] => .cut
          | d :: after => if d = '>' then .found kind after else .invalid more
      else .invalid rest

/-! ## Tags -/

/-- An attribute as it is written. `place` is the text from its name on and `valuePlace` the text from its value
on. -/
structure Attribute where
  name : Text
  place : Text
  value : Text
  valuePlace : Text

/-- A start tag. `empty` tells whether it closes its element as well. -/
structure StartTag where
  name : Text
  attributes : List Attribute
  empty : Bool

/-- Checks the form of an attribute value up to its closing `quote`. -/
def scanValue (quote : CodePoint) : Text → Scan Unit
  | [] => .cut
  | c :: rest =>
    if c = quote then .found () rest
    else if !isLegal c || c = '<' then .invalid (c :: rest)
    else if c = '&' then
      match scanReference rest with
      | .found _ _ => scanValue quote rest
      | .invalid place => .invalid place
      | .cut => .cut
    else scanValue quote rest

/-- An attribute at its name: a name, an equals sign and a quoted value, with white space around the sign. -/
def scanAttribute (s : Text) : Scan Attribute :=
  (scanQualifiedName s).bind fun name rest =>
    match skipSpace rest with
    | [] => .cut
    | c :: more =>
      if c = '=' then
        match skipSpace more with
        | [] => .cut
        | q :: value =>
          if q = '"' || q = '\'' then
            (scanValue q value).map fun _ => ⟨name, s, value.takeWhile (· ≠ q), value⟩
          else .invalid (q :: value)
      else .invalid (c :: more)

/-- The end of a start tag: `>`, or `/>` if the tag closes its element as well. -/
def scanTagEnd : Text → Scan Bool
  | [] => .cut
  | c :: rest =>
    if c = '>' then .found false rest
    else if c = '/' then
      match rest with
      | [] => .cut
      | d :: more => if d = '>' then .found true more else .invalid (d :: more)
    else .invalid (c :: rest)

/-- What follows the name or an attribute of a start tag: attributes, each after white space, and the end of
the tag. `limit` bounds the number of attributes. -/
def scanAttributes : (limit : Nat) → Text → Scan (List Attribute × Bool)
  | 0, _ => .cut
  | _ + 1, [] => .cut
  | limit + 1, c :: rest =>
    if isSpace c then
      match skipSpace rest with
      | [] => .cut
      | d :: more =>
        if isNameStart d then
          (scanAttribute (d :: more)).bind fun one after =>
            (scanAttributes limit after).map fun (others, empty) => (one :: others, empty)
        else (scanTagEnd (d :: more)).map fun empty => ([], empty)
    else (scanTagEnd (c :: rest)).map fun empty => ([], empty)

/-- A start tag after its `<`. -/
def scanStartTag (s : Text) : Scan StartTag :=
  (scanQualifiedName s).bind fun name rest =>
    (scanAttributes (rest.length + 1) rest).map fun (attributes, empty) => ⟨name, attributes, empty⟩

/-- The characters of the name of an end tag: colons may stand anywhere after the first character. -/
def isEndNameChar (c : CodePoint) : Bool :=
  isNameChar c || c = ':'

/-- An end tag after its `</`: the name, and the text from the name on. -/
def scanEndTag : Text → Scan (Text × Text)
  | [] => .cut
  | c :: rest =>
    if isNameStart c then
      let name := c :: rest.takeWhile isEndNameChar
      match rest.dropWhile isEndNameChar with
      | [] => .cut
      | d :: more =>
        if d = '>' then .found (name, c :: rest) more
        else if isSpace d then
          match skipSpace more with
          | [] => .cut
          | e :: after => if e = '>' then .found (name, c :: rest) after else .invalid (e :: after)
        else .invalid (d :: more)
    else .invalid (c :: rest)

/-! ## Character data -/

/-- What follows the mark `mark` at the start of a text, or the first character that differs from it. -/
def scanMark : (mark : Text) → Text → Scan Unit
  | [], s => .found () s
  | _ :: _, [] => .cut
  | m :: mark, c :: rest => if m = c then scanMark mark rest else .invalid (c :: rest)

/-- How many bytes the text takes in UTF-8. -/
def byteLength (s : Text) : Nat :=
  s.foldl (fun n c =>
    n + if c.toNat < 0x80 then 1 else if c.toNat < 0x800 then 2 else if c.toNat < 0x10000 then 3 else 4) 0

/-- The rest of the mark that opens a CDATA section, after its `<![`. A text too short to hold the mark is cut
whatever it holds. -/
def scanCdataMark (s : Text) : Scan Unit :=
  if byteLength s < 6 then .cut else scanMark "CDATA[" s

/-- The rest of a CDATA section after its opening mark. -/
def scanCdata : Text → Scan Unit
  | [] => .cut
  | c :: rest =>
    if !isLegal c then .invalid (c :: rest)
    else if Text.startsWith (c :: rest) "]]>" then .found () (rest.drop 2)
    else scanCdata rest

/-- Where a CDATA section without an end counts as cut: before brackets or a carriage return that end the text,
since more could follow to complete them. -/
def cdataCutPlace (s : Text) : Text :=
  if Text.endsWith s "]]" then "]]"
  else if Text.endsWith s "]" then "]"
  else if Text.endsWith s "\r" then "\r"
  else []

/-- Character data from the start: what follows it, up to markup or the end of the text. The closing mark of a
CDATA section may not stand in it. -/
def scanData : Text → Scan Unit
  | [] => .found () []
  | c :: rest =>
    if c = '<' || c = '&' then .found () (c :: rest)
    else if !isLegal c then .invalid (c :: rest)
    else if Text.startsWith (c :: rest) "]]>" then .invalid (rest.drop 1)
    else scanData rest

end Tidy.Xml
