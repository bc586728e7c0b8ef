/-
# Tidy.Console.Literal -- values that the parameters of an action may have

An action that is attached to a piece of text has parameters, which are written as values: numbers, quoted texts,
rows in parentheses, sets and mappings in braces, and a few constants. Only whether a text writes a value matters,
and whether the value may stand in a set or be a key of a mapping.
-/

import Tidy.Text.Word

namespace Tidy.Console.Literal

/-! ## Tokens -/

/-- A token of a value. -/
inductive Token where
  | number (imaginary : Bool)
  | quotation (binary : Bool)
  | word (name : Text)
  | mark (c : CodePoint)
  | ellipsis
deriving DecidableEq

/-- The longest row of digits that writes a whole number. -/
def digitLimit : Nat := 4300

/-- A row of digits of some kind in which single low lines may stand between digits. -/
def isGrouped (isDigit : CodePoint → Bool) (t : Text) : Bool :=
  (Text.splitAt '_' t).all fun group => !group.isEmpty && group.all isDigit

/-- Is the text a whole number in base two, eight or sixteen, with the mark of the base after a zero? A low line may
stand after the mark. -/
def isMarkedNumber (t : Text) : Bool :=
  let body := match t.drop 2 with
    | '_' :: rest => rest
    | body => body
  let mark := (t.drop 1).head?.map CodePoint.toNat
  let below := fun (base : Nat) (c : CodePoint) => c.hexValue?.any (· < base)
  t.head? = some (CodePoint.char '0') &&
    ((mark = some 0x78 || mark = some 0x58) && isGrouped (below 16) body ||
     (mark = some 0x6F || mark = some 0x4F) && isGrouped (below 8) body ||
     (mark = some 0x62 || mark = some 0x42) && isGrouped (below 2) body)

/-- Is the text a whole number in base ten? Only a zero may begin with zero. -/
def isWhole (t : Text) : Bool :=
  isGrouped CodePoint.isAsciiDigit t && t.length ≤ digitLimit &&
    (t.head? ≠ some (CodePoint.char '0') || t.all fun c => c = CodePoint.char '0' || c = CodePoint.char '_')

/-- Is the text a fraction, with digits before or after its point? -/
def isFraction (t : Text) : Bool :=
  match Text.splitAt '.' t with
  | [whole] => isGrouped CodePoint.isAsciiDigit whole
  | [whole, decimals] =>
    !(whole.isEmpty && decimals.isEmpty) && (whole.isEmpty || isGrouped CodePoint.isAsciiDigit whole) &&
      (decimals.isEmpty || isGrouped CodePoint.isAsciiDigit decimals)
  | _ => false

/-- Drops a sign at the start. -/
def unsigned : Text → Text
  | '+' :: rest => rest
  | '-' :: rest => rest
  | t => t

/-- Is the text a fraction, perhaps with an exponent? -/
def isReal (t : Text) : Bool :=
  let lead := t.takeWhile fun c => !(c = CodePoint.char 'e' || c = CodePoint.char 'E')
  isFraction lead &&
    (lead.length = t.length || isGrouped CodePoint.isAsciiDigit (unsigned (t.drop (lead.length + 1))))

/-- The number that a text writes, if it writes one. -/
def numberOf? (t : Text) : Option Token :=
  let isImaginary := t.getLast?.any fun c => c = CodePoint.char 'j' || c = CodePoint.char 'J'
  if isWhole t || isMarkedNumber t then some (.number false)
  else if isImaginary then if isReal t.dropLast then some (.number true) else none
  else if isReal t && t.any (fun c => !(c.isAsciiDigit || c = CodePoint.char '_')) then some (.number false)
  else none

/-- How many code points belong to a number: letters, digits and points, and a sign after the mark of an
exponent. -/
def numberLength (marked : Bool) : (afterExponent : Bool) → Text → Nat
  | _, [] => 0
  | afterExponent, c :: rest =>
    if c.isWord || c = '.' then 1 + numberLength marked (!marked && (c = 'e' || c = 'E')) rest
    else if afterExponent && (c = '+' || c = '-') then 1 + numberLength marked false rest
    else 0

/-- The number of hexadecimal digits that an escape needs after its letter; nothing if the escape cannot be read. -/
def escapeDigits? (binary : Bool) (c : CodePoint) : Option Nat :=
  if c = 'x' then some 2
  else if binary then some 0
  else if c = 'u' then some 4
  else if c = 'U' then some 8
  else if c = 'N' then none
  else some 0

/-- Can all escapes of a quotation be read? -/
def areEscapes (binary : Bool) : Text → Bool
  | [] => true
  | '\\' :: c :: rest =>
    match escapeDigits? binary c with
    | none => false
    | some n =>
      let digits := rest.take n
      digits.length = n && digits.all (·.hexValue?.isSome) && Text.hexadecimalValue digits < 0x110000 &&
        areEscapes binary rest
  | _ :: rest => areEscapes binary rest

/-- What stands before the closing quotes, and what follows them. A backslash keeps the next code point; a line ends
a quotation that has single quotes. -/
def quoted? (close : Text) : Text → Option (Text × Text)
  | [] => none
  | c :: rest =>
    match Text.after? close (c :: rest) with
    | some after => some ([], after)
    | none =>
      if c = '\n' && close.length = 1 then none
      else if c = '\\' then
        match rest with
        | [] => none
        | d :: rest => (quoted? close rest).map fun (body, after) => (c :: d :: body, after)
      else (quoted? close rest).map fun (body, after) => (c :: body, after)

/-- Letters before a quotation: whether escapes are kept as they are, and whether it is binary. -/
def letters? (t : Text) : Option (Bool × Bool) :=
  let lower := t.map fun c => if c.within 0x41 0x5A then CodePoint.ofNat (c.toNat + 0x20) else c
  if lower = [] || lower = "u" then some (false, false)
  else if lower = "r" then some (true, false)
  else if lower = "b" then some (false, true)
  else if lower = "br" || lower = "rb" then some (true, true)
  else none

/-- The quotation at the start of a text, after its letters, and the rest. -/
def quotation? (verbatim binary : Bool) (t : Text) : Option (Token × Text) := do
  let quote ← t.head?
  let triple : Text := [quote, quote, quote]
  let (body, after) ← match Text.after? triple t with
    | some inside => quoted? triple inside
    | none => quoted? [quote] (t.drop 1)
  if (verbatim || areEscapes binary body) && (!binary || body.all fun c => c.toNat < 0x80) then
    some (.quotation binary, after)
  else none

/-- Is the code point a quote? -/
def isQuote (c : CodePoint) : Bool :=
  c = '\'' || c = '"'

/-- The next token of a text that does not begin with white space, and the rest. -/
def nextToken? (t : Text) : Option (Token × Text) :=
  let word := t.takeWhile CodePoint.isWord
  let after := t.drop word.length
  match t with
  | [] => none
  | c :: rest =>
    if c.isAsciiDigit || (c = '.' && rest.head?.any CodePoint.isAsciiDigit) then
      let isMarked := isMarkedNumber word
      let length := numberLength isMarked false t
      (numberOf? (t.take length)).map fun token => (token, t.drop length)
    else if after.head?.any isQuote then
      (letters? word).bind fun (verbatim, binary) => quotation? verbatim binary after
    else if !word.isEmpty then some (.word word, after)
    else if Text.startsWith t "..." then some (.ellipsis, t.drop 3)
    else if (Text.ofString "()\x7b\x7d,:+-").contains c then some (.mark c, rest)
    else none

/-- How deep the brackets are after a token. -/
def depthAfter (depth : Nat) : Token → Nat
  | .mark '(' | .mark '\x7b' => depth + 1
  | .mark ')' | .mark '\x7d' => depth - 1
  | _ => depth

/-- The tokens of a text. Lines may end inside brackets only. -/
def tokens? (limit depth : Nat) (t : Text) : Option (List Token) :=
  match limit with
  | 0 => none
  | limit + 1 =>
    match t with
    | [] => some []
    | c :: rest =>
      if c = ' ' || c = '\t' || c.toNat = 0x0C || (c = '\n' && 0 < depth) then tokens? limit depth rest
      else do
        let (token, rest) ← nextToken? t
        let more ← tokens? limit (depthAfter depth token) rest
        some (token :: more)

/-! ## Values -/

/-- What matters of a value. -/
inductive Shape where
  | number (imaginary isSigned : Bool)
  /-- A value that may stand in a set. -/
  | fixed
  /-- A value that may not. -/
  | changing
deriving DecidableEq

/-- A value and the tokens after it. -/
abbrev Parsed := Option (Shape × List Token)

/-- The row of some values. -/
def row (shapes : List Shape) : Shape :=
  if shapes.contains .changing then .changing else .fixed

/-- Drops the quotations at the start of the tokens, if all are of one kind. -/
def joined (binary : Bool) : List Token → Option (List Token)
  | .quotation kind :: rest => if kind = binary then joined binary rest else none
  | tokens => some tokens

mutual

/-- A value: a number with or without a sign, a real number with an imaginary one after it, or an atom. -/
def value? (limit : Nat) (tokens : List Token) : Parsed :=
  match limit with
  | 0 => none
  | limit + 1 => do
    let (left, rest) ← match tokens with
      | .mark '+' :: rest | .mark '-' :: rest =>
        match atom? limit rest with
        | some (.number imaginary false, rest) => some (.number imaginary true, rest)
        | _ => none
      | tokens => atom? limit tokens
    match rest with
    | .mark '+' :: more | .mark '-' :: more =>
      match left, atom? limit more with
      | .number false _, some (.number true false, rest) => some (.fixed, rest)
      | _, _ => none
    | rest => some (left, rest)

/-- A value without a sign. -/
def atom? (limit : Nat) (tokens : List Token) : Parsed :=
  match limit with
  | 0 => none
  | limit + 1 =>
    match tokens with
    | .number imaginary :: rest => some (.number imaginary false, rest)
    | .quotation binary :: rest => (joined binary rest).map fun rest => (.fixed, rest)
    | .ellipsis :: rest => some (.fixed, rest)
    | .word name :: rest =>
      if name = "True" || name = "False" || name = "None" then some (.fixed, rest)
      else match rest with
        | .mark '(' :: .mark ')' :: rest => if name = "set" then some (.changing, rest) else none
        | _ => none
    | .mark '(' :: .mark ')' :: rest => some (.fixed, rest)
    | .mark '(' :: rest =>
      match values? limit ')' rest with
      | some ([shape], false, rest) => some (shape, rest)
      | some (shapes, _, rest) => some (row shapes, rest)
      | none => none
    | .mark '\x7b' :: .mark '\x7d' :: rest => some (.changing, rest)
    | .mark '\x7b' :: rest =>
      match values? limit '\x7d' rest with
      | some (shapes, _, rest) => if shapes.contains .changing then none else some (.changing, rest)
      | none => (members? limit rest).map fun rest => (.changing, rest)
    | _ => none

/-- Values with commas between them up to a closing mark, whether a comma stands after the last, and the rest. -/
def values? (limit : Nat) (close : Char) (tokens : List Token) : Option (List Shape × Bool × List Token) :=
  match limit with
  | 0 => none
  | limit + 1 => do
    let (shape, rest) ← value? limit tokens
    match rest with
    | .mark c :: rest =>
      if c = close then some ([shape], false, rest)
      else if c = ',' then
        if rest.head? = some (.mark close) then some ([shape], true, rest.drop 1)
        else
          let (shapes, comma, rest) ← values? limit close rest
          some (shape :: shapes, comma, rest)
      else none
    | _ => none

/-- Members of a mapping up to its closing brace, and the rest. -/
def members? (limit : Nat) (tokens : List Token) : Option (List Token) :=
  match limit with
  | 0 => none
  | limit + 1 => do
    let (key, rest) ← value? limit tokens
    match rest with
    | .mark ':' :: rest =>
      let (_, rest) ← value? limit rest
      if key = .changing then none
      else match rest with
        | .mark '\x7d' :: rest => some rest
        | .mark ',' :: .mark '\x7d' :: rest => some rest
        | .mark ',' :: rest => members? limit rest
        | _ => none
    | _ => none

end

/-- Does the text write a value, or values with commas between them? -/
def isLiteral (t : Text) : Bool :=
  match tokens? (t.length + 1) 0 t with
  | none => false
  | some tokens =>
    (values? (3 * tokens.length + 6) ')' (tokens ++ [.mark ')'])).any fun (_, _, rest) => rest.isEmpty

end Tidy.Console.Literal
