/-
# Tidy.Console.Echo -- plain text on an output that is no terminal

Control sequences, which colour a terminal or move its cursor, are dropped: an escape character, an opening bracket,
digits, semicolons and question marks, and a letter. What only begins like one is kept.
-/

import Tidy.Text.CodePoint

namespace Tidy.Console

/-- The escape character. -/
def escape : CodePoint := Char.ofNat 0x1B

/-- May the code point stand inside a control sequence? -/
def inSequence (c : CodePoint) : Bool :=
  c.isAsciiDigit || c = ';' || c = '?'

/-- The text without control sequences; `begun` is what may be the start of one. -/
def echoedFrom (begun : Text) : Text → Text
  | [] => begun
  | c :: rest =>
    if c = escape then begun ++ echoedFrom [c] rest
    else if begun.isEmpty then c :: echoedFrom [] rest
    else if begun = [escape] then
      if c = '[' then echoedFrom (begun ++ [c]) rest else begun ++ c :: echoedFrom [] rest
    else if inSequence c then echoedFrom (begun ++ [c]) rest
    else if c.isAsciiLetter then echoedFrom [] rest
    else begun ++ c :: echoedFrom [] rest

/-- The text without control sequences. -/
def echoed (t : Text) : Text :=
  echoedFrom [] t

/-- A text in which a carriage return before a line feed is dropped. -/
def singleEnds : Text → Text
  | [] => []
  | c :: rest =>
    if c = '\r' ∧ rest.head? = some (CodePoint.char '\n') then singleEnds rest else c :: singleEnds rest

end Tidy.Console
