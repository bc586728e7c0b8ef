/-
# Tidy.Xml.PrologToken -- the tokens around the root element

The prolog, the document type declaration with its internal subset, and what follows the root element are made
of these tokens. A token that the end of the text may have cut short but that is complete as it stands counts
as found.
-/

import Tidy.Xml.Scan

namespace Tidy.Xml

/-- How often the part of a content model may occur. -/
inductive Occurrence where
  | once
  | optional
  | repeated
  | many
deriving DecidableEq

/-- A token outside the root element. -/
inductive PrologToken where
  | space
  | declaration
  | instruction
  | comment
  | declarationOpen (keyword : Text)
  | sectionOpen
  | sectionClose
  | elementStart
  | literal (body : Text)
  | name (text : Text) (qualified : Bool)
  | nameToken
  | modelName (times : Occurrence)
  | poundName (text : Text)
  | openBracket
  | closeBracket
  | openParen
  | closeParen (times : Occurrence)
  | comma
  | bar
  | close
  | percent
  | parameterReference

/-- The sign of an occurrence. -/
def occurrenceOf? (c : CodePoint) : Option Occurrence :=
  if c = '?' then some .optional
  else if c = '*' then some .repeated
  else if c = '+' then some .many
  else none

/-- Does the character end a name, a literal or another word of a declaration? -/
def endsWord (others : Text) (c : CodePoint) : Bool :=
  isSpace c || List.contains others c

/-- The rest of a literal after its opening `quote`. -/
def scanLiteral (quote : CodePoint) (s : Text) : Scan PrologToken :=
  let body := s.takeWhile fun c => c ≠ quote && isLegal c
  match s.dropWhile fun c => c ≠ quote && isLegal c with
  | [] => .cut
  | c :: rest =>
    if c ≠ quote then .invalid (c :: rest)
    else
      match rest with
      | [] => .found (.literal body) []
      | d :: _ => if endsWord ">%[" d then .found (.literal body) rest else .invalid rest

/-- A percent sign and what it introduces. -/
def scanPercent : Text → Scan PrologToken
  | [] => .cut
  | c :: rest =>
    if isSpace c || c = '%' then .found .percent (c :: rest)
    else
      (scanName (c :: rest)).bind fun _ rest =>
        match rest with
        | [] => .cut
        | d :: more => if d = ';' then .found .parameterReference more else .invalid (d :: more)

/-- A name after a number sign. -/
def scanPoundName (s : Text) : Scan PrologToken :=
  (scanName s).bind fun name rest =>
    match rest with
    | [] => .found (.poundName name) []
    | d :: _ => if endsWord ")>%|" d then .found (.poundName name) rest else .invalid rest

/-- The letters of the keyword of a declaration. -/
def isKeywordChar (c : CodePoint) : Bool :=
  c.isAsciiLetter || c = '_'

/-- A declaration after its `<!`. -/
def scanDeclaration : Text → Scan PrologToken
  | [] => .cut
  | c :: rest =>
    if c = '-' then (scanComment rest).map fun _ => .comment
    else if c = '[' then .found .sectionOpen rest
    else if isKeywordChar c then
      let keyword := c :: rest.takeWhile isKeywordChar
      match rest.dropWhile isKeywordChar with
      | [] => .cut
      | d :: more =>
        if isSpace d then .found (.declarationOpen keyword) (d :: more)
        else if d = '%' then
          match more with
          | [] => .cut
          | e :: _ =>
            if isSpace e || e = '%' then .invalid (d :: more)
            else .found (.declarationOpen keyword) (d :: more)
        else .invalid (d :: more)
    else .invalid (c :: rest)

/-- What a row of name characters and colons is. -/
inductive NameShape where
  | plain
  | qualified
  | token
deriving DecidableEq

/-- The token of a row of name characters of a shape. -/
def NameShape.toToken (shape : NameShape) (text : Text) : PrologToken :=
  match shape with
  | plain => .name text false
  | qualified => .name text true
  | token => .nameToken

/-- The rest of a row of name characters, where `seen` has been read. One colon that a name character follows
makes a name qualified; any other colon makes it a mere token. -/
def scanNameRow (shape : NameShape) (seen : Text) : Text → Scan PrologToken
  | [] => .found (shape.toToken seen) []
  | c :: rest =>
    if isNameChar c then scanNameRow shape (seen ++ [c]) rest
    else if c = ':' then
      match shape with
      | .plain =>
        match rest with
        | [] => .cut
        | d :: _ =>
          if isNameChar d then scanNameRow .qualified (seen ++ [c]) rest
          else if 0x7F < d.toNat then .invalid rest
          else scanNameRow .token (seen ++ [c]) rest
      | _ => scanNameRow .token (seen ++ [c]) rest
    else if endsWord ">),|[%" c then .found (shape.toToken seen) (c :: rest)
    else
      match occurrenceOf? c with
      | some times =>
        if shape = .token then .invalid (c :: rest) else .found (.modelName times) rest
      | none => .invalid (c :: rest)

/-- The token at the start of a text that is not empty. -/
def scanProlog (c : CodePoint) (rest : Text) : Scan PrologToken :=
  if c = '"' || c = '\'' then scanLiteral c rest
  else if c = '<' then
    match rest with
    | [] => .cut
    | d :: more =>
      if d = '!' then scanDeclaration more
      else if d = '?' then
        (scanInstruction more).map fun kind => match kind with
          | .ordinary => .instruction
          | .declaration => .declaration
      else if d.isAsciiLetter || d = '_' || 0x7F < d.toNat then .found .elementStart (c :: rest)
      else .invalid (d :: more)
  else if isSpace c then .found .space (skipSpace rest)
  else if c = '%' then scanPercent rest
  else if c = ',' then .found .comma rest
  else if c = '[' then .found .openBracket rest
  else if c = ']' then
    match rest with
    | d :: more =>
      if d = ']' then
        match more with
        | [] => .cut
        | e :: after =>
          if e = '>' then .found .sectionClose after else .found .closeBracket rest
      else .found .closeBracket rest
    | [] => .found .closeBracket []
  else if c = '(' then .found .openParen rest
  else if c = ')' then
    match rest with
    | [] => .found (.closeParen .once) []
    | d :: more =>
      match occurrenceOf? d with
      | some times => .found (.closeParen times) more
      | none =>
        if endsWord ">,|)" d then .found (.closeParen .once) rest else .invalid rest
  else if c = '|' then .found .bar rest
  else if c = '>' then .found .close rest
  else if c = '#' then scanPoundName rest
  else if isNameStart c then scanNameRow .plain [c] rest
  else if isNameChar c || c = ':' then scanNameRow .token [c] rest
  else .invalid (c :: rest)

end Tidy.Xml
