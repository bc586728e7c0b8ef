/-
# Tidy.Css.Sheet -- the layout of a style sheet

Tokens are gathered into pieces: comments between statements, openings of blocks, closings of blocks, and
declarations. Pieces become entries, indented by the number of open blocks, and an empty line follows each
closing that no other closing follows. No input is refused: a closing brace without a partner closes nothing,
and text that is left over at the end is a declaration without a semicolon.
-/

import Tidy.Css.Declaration
import Tidy.Css.Token
import Tidy.Layout

namespace Tidy.Css

/-! ## Pieces -/

/-- A piece of a style sheet. -/
inductive Piece where
  | comment (text : Text)
  | opening (selector : Text)
  | closing
  | declaration (text : Text) (ended : Bool)
deriving DecidableEq

/-- The declaration in a buffer, if there is any. -/
def flush (buffer : Text) (ended : Bool) : List Piece :=
  let text := Text.trim buffer
  if text.isEmpty then [] else [.declaration text ended]

/-- The pieces of a list of tokens, where `buffer` holds the statement that has begun. White space inside a
statement counts as one space, and a comment inside a statement belongs to it. -/
def gather (buffer : Text) : List Token → List Piece
  | [] => flush buffer false
  | .gap _ :: rest => gather (if buffer.isEmpty then [] else buffer ++ " ") rest
  | .comment t :: rest =>
    if buffer.isEmpty then .comment t :: gather [] rest else gather (buffer ++ t) rest
  | .openBrace :: rest => .opening (Text.trim buffer) :: gather [] rest
  | .closeBrace :: rest => flush buffer true ++ .closing :: gather [] rest
  | .semicolon :: rest => flush buffer true ++ gather [] rest
  | .string t :: rest => gather (buffer ++ t) rest
  | .word t :: rest => gather (buffer ++ t) rest
  | .strayQuote mark :: rest => gather (buffer ++ [mark]) rest

/-! ## Entries -/

/-- The line that opens a block. -/
def openingLine (selector : Text) : Text :=
  if selector.isEmpty then "\x7b" else selector ++ " \x7b"

/-- The line that closes a block. -/
def closingLine : Text := "\x7d"

/-- The line of a declaration at a depth. Text outside all blocks is not a declaration proper, and its colons
are left alone. -/
def declarationLine (depth : Nat) (text : Text) (ended : Bool) : Text :=
  let body := if depth = 0 then text else normalizeDeclaration text
  if ended then body ++ ";" else body

/-- The entries of a list of pieces at a depth. -/
def place (depth : Nat) : List Piece → List Entry
  | [] => []
  | .comment text :: rest => ⟨depth, text⟩ :: place depth rest
  | .opening selector :: rest => ⟨depth, openingLine selector⟩ :: place (depth + 1) rest
  | .closing :: rest => ⟨depth - 1, closingLine⟩ :: place (depth - 1) rest
  | .declaration text ended :: rest =>
    ⟨depth, declarationLine depth text ended⟩ :: place depth rest

/-- Puts an empty line after each closing that no other closing follows. -/
def separate : List Entry → List Entry
  | [] => []
  | [entry] => [entry]
  | entry :: next :: rest =>
    if entry.content = closingLine ∧ next.content ≠ closingLine then
      entry :: Layout.emptyLine :: separate (next :: rest)
    else entry :: separate (next :: rest)

/-- The layout of a style sheet. -/
def entries (source : Text) : List Entry :=
  separate (place 0 (gather [] (Token.all source)))

/-- The style sheet, laid out at a width. -/
def format (width : Nat) (source : Text) : Text :=
  Text.trim (Layout.render width (entries source))

end Tidy.Css
