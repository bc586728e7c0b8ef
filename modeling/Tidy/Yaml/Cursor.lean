/-
# Tidy.Yaml.Cursor -- a place in a YAML text

YAML is read by lines and columns: indentation decides what belongs to what, and a key has to stand on one line.
A cursor is the text that is still to be read together with where it starts. The marks of line ends are the line
feed, the next line mark and the two Unicode separators.
-/

import Tidy.Text.CodePoint

namespace Tidy.Yaml

/-- Why a text cannot be read as YAML. Most texts are simply malformed; a value with an explicit tag may also
fail to be of its kind. -/
inductive Fault where
  | malformed
  | unreadable (message : Text)
  | unknownWord (word : Text)
  | emptyNumeral
  | noMoment
  /-- A moment is not written as a text. -/
  | noMomentText
  /-- The number of an escape is beyond all code points by far. -/
  | hugeEscape
  /-- A number in base sixty has too many parts. -/
  | tooManyParts
  /-- Collections are nested too deeply. -/
  | tooDeep
deriving DecidableEq

/-- A place in a text. -/
structure Cursor where
  rest : Text
  line : Nat
  column : Nat
  index : Nat

/-! ## Classes of code points -/

/-- Does the code point end a line? -/
def isBreak (c : CodePoint) : Bool :=
  c = '\n' || c.toNat = 0x85 || c.toNat = 0x2028 || c.toNat = 0x2029

/-- Is here the end of a line or of the text? -/
def isEnd (c : Option CodePoint) : Bool :=
  c.all isBreak

/-- Is here a space, or the end of a line or of the text? -/
def isSpaceOrEnd (c : Option CodePoint) : Bool :=
  c.all fun x => x = CodePoint.char ' ' || isBreak x

/-- Is here a space, a tab, or the end of a line or of the text? -/
def isGapOrEnd (c : Option CodePoint) : Bool :=
  c.all fun x => x = CodePoint.char ' ' || x = CodePoint.char '\t' || isBreak x

/-- One of the characters of anchors, handles and directives. -/
def isNamePart (c : CodePoint) : Bool :=
  c.isAsciiDigit || c.isAsciiLetter || c = '-' || c = '_'

/-- Is the code point one of those of `s`? -/
def isOneOf (s : String) (c : CodePoint) : Bool :=
  (Text.ofString s).contains c

/-- May the code point stand in a YAML text at all? -/
def isAdmissible (c : CodePoint) : Bool :=
  c = '\t' || c = '\n' || c = '\r' || c.within 0x20 0x7E || c.toNat = 0x85 || c.within 0xA0 0xD7FF ||
    c.within 0xE000 0xFFFD || c.within 0x10000 0x10FFFF

/-- The byte order mark. -/
def byteOrderMark : CodePoint := Char.ofNat 0xFEFF

namespace Cursor

/-- The start of a text. -/
def start (source : Text) : Cursor :=
  ⟨source, 0, 0, 0⟩

/-- The code point `n` places ahead. -/
def peek (c : Cursor) (n : Nat) : Option CodePoint :=
  (c.rest.drop n).head?

/-- The place after the next code point. A byte order mark takes no column. -/
def next (c : Cursor) : Cursor :=
  match c.rest with
  | [] => c
  | x :: rest =>
    if isBreak x then ⟨rest, c.line + 1, 0, c.index + 1⟩
    else if x = byteOrderMark then ⟨rest, c.line, c.column, c.index + 1⟩
    else ⟨rest, c.line, c.column + 1, c.index + 1⟩

/-- The place `n` code points ahead. -/
def forward : (n : Nat) → Cursor → Cursor
  | 0, c => c
  | n + 1, c => forward n c.next

/-- The run of code points from here on that satisfy `p`, and the place after it. -/
def span (c : Cursor) (p : CodePoint → Bool) : Text × Cursor :=
  let run := c.rest.takeWhile p
  (run, c.forward run.length)

/-- The place after a run of code points that satisfy `p`. -/
def skip (c : Cursor) (p : CodePoint → Bool) : Cursor :=
  (c.span p).2

/-- Does the text go on with `lead`? -/
def looksAt (c : Cursor) (lead : Text) : Bool :=
  Text.startsWith c.rest lead

/-- The text of a line end here, and the place after it. Line feeds and next line marks count as line feeds. -/
def lineBreak (c : Cursor) : Text × Cursor :=
  match c.rest with
  | [] => ([], c)
  | x :: _ =>
    if x = '\n' || x.toNat = 0x85 then ("\n", c.next)
    else if isBreak x then ([x], c.next)
    else ([], c)

/-- Does a mark of three signs stand here, followed by a gap? -/
def looksAtMark (c : Cursor) (mark : Text) : Bool :=
  c.looksAt mark && isGapOrEnd (c.peek 3)

/-- Does a mark between documents stand here? -/
def looksAtSeparator (c : Cursor) : Bool :=
  c.looksAtMark "---" || c.looksAtMark "..."

/-- The place after the rest of a line that may hold only spaces and a comment. -/
def ignoredLine (c : Cursor) : Except Fault Cursor :=
  let c := c.skip (· = CodePoint.char ' ')
  let c := if c.peek 0 = some (CodePoint.char '#') then c.skip (!isBreak ·) else c
  if isEnd (c.peek 0) then .ok c.lineBreak.2 else .error .malformed

end Cursor

end Tidy.Yaml
