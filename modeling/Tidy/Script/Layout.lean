/-
# Tidy.Script.Layout -- the layout of a script

A script is laid out in one pass over its tokens. Lines break after opening braces, around closing braces,
after semicolons outside parentheses and after commas directly inside braces; operators stand between spaces. The
state of the pass is the line that has begun, the open brackets, and two flags: whether a space is due before
the next token, and whether a closing brace has just been written. Every line is indented by the number of
open braces at its first token.
-/

import Tidy.Layout
import Tidy.Script.Token

namespace Tidy.Script

/-- A token on a line, and whether a space stands before it. -/
structure Placed where
  spaced : Bool
  text : Text
deriving DecidableEq

/-- A line of tokens with its depth. -/
structure Line where
  depth : Nat
  items : List Placed
deriving DecidableEq

/-- The content of a line. -/
def Line.content (line : Line) : Text :=
  line.items.flatMap fun item => if item.spaced then ' ' :: item.text else item.text

/-- The state of the pass. `stack` holds the open brackets, the innermost first. -/
structure State where
  items : List Placed := []
  depth : Nat := 0
  stack : List Mark := []
  pending : Bool := false
  afterClose : Bool := false

/-! ## The operations of the pass -/

/-- How many braces are open. -/
def braces (stack : List Mark) : Nat :=
  stack.count .openBrace

/-- Does the line end in an opening parenthesis or bracket? -/
def endsOpen (items : List Placed) : Bool :=
  match items.getLast? with
  | none => false
  | some item => item.text = [Mark.openParen.char] || item.text = [Mark.openBracket.char]

/-- Writes a token on the line. A space goes before it if one is due or wanted, unless the token is attached or
follows an opening parenthesis or bracket. -/
def State.write (s : State) (text : Text) (spaced attached : Bool) : State :=
  if s.items.isEmpty then
    { s with items := [⟨false, text⟩], depth := braces s.stack, pending := false }
  else
    let space := !attached && (spaced || s.pending) && !endsOpen s.items
    { s with items := s.items ++ [⟨space, text⟩], pending := false }

/-- Ends the line, if one has begun. -/
def State.endLine (s : State) : List Line × State :=
  if s.items.isEmpty then ([], { s with pending := false })
  else ([⟨s.depth, s.items⟩], { s with items := [], pending := false })

/-- Opens a bracket. -/
def State.push (s : State) (m : Mark) : State :=
  { s with stack := m :: s.stack }

/-- The brackets that are open after a closing brace: it closes everything up to the innermost open brace, and
nothing if no brace is open. -/
def closeBraces (stack : List Mark) : List Mark :=
  if stack.contains .openBrace then (stack.dropWhile (· ≠ .openBrace)).drop 1 else stack

/-- The brackets that are open after a closing parenthesis or bracket: it closes its partner only if that is
innermost. -/
def closeMatching (opener : Mark) (stack : List Mark) : List Mark :=
  if stack.head? = some opener then stack.drop 1 else stack

/-! ## One token -/

/-- The words that stay on the line of a closing brace before them. -/
def continuations : List Text :=
  ["else", "catch", "finally", "while"]

/-- Does the token stay on the line of a closing brace before it? -/
def attaches : Token → Bool
  | .mark .semicolon | .mark .comma | .mark .closeParen | .mark .closeBracket => true
  | .operator _ => true
  | t => t.text.head? = some (.char '.')

/-- What a closing brace before the token asks for: a space before a continuation, and a new line before
all that does not attach. -/
def State.settle (s : State) (t : Token) : List Line × State :=
  if s.afterClose then
    let s := { s with afterClose := false }
    if continuations.contains t.text then ([], { s with pending := true })
    else if attaches t then ([], s)
    else s.endLine
  else ([], s)

/-- Writes a mark. -/
def State.placeMark (s : State) (m : Mark) : List Line × State :=
  match m with
  | .openBrace => ((s.write [m.char] true false).push m).endLine
  | .closeBrace =>
    let (done, s) := s.endLine
    let s := { s with stack := closeBraces s.stack }
    (done, { s.write [m.char] false false with afterClose := true })
  | .openParen | .openBracket => ([], (s.write [m.char] false false).push m)
  | .closeParen =>
    ([], { s with stack := closeMatching .openParen s.stack }.write [m.char] false true)
  | .closeBracket =>
    ([], { s with stack := closeMatching .openBracket s.stack }.write [m.char] false true)
  | .semicolon =>
    let s := s.write [m.char] false true
    if s.stack.head? = some .openParen then ([], { s with pending := true }) else s.endLine
  | .comma =>
    let s := s.write [m.char] false true
    if s.stack.head? = some .openBrace then s.endLine else ([], { s with pending := true })

/-- Writes a token. -/
def State.place (s : State) : Token → List Line × State
  | .gap _ => ([], { s with pending := true })
  | .lineComment t => (s.write (Text.trimEnd t) false false).endLine
  | .operator t => ([], { s.write t true false with pending := true })
  | .mark m => s.placeMark m
  | .blockComment t | .string t | .step t | .word t => ([], s.write t false false)
  | .strayQuote q => ([], s.write [q] false false)

/-- The lines that a token completes, and the state after it. -/
def State.step (s : State) (t : Token) : List Line × State :=
  if t.isGap then s.place t
  else
    let (before, s) := s.settle t
    let (after, s) := s.place t
    (before ++ after, s)

/-! ## The pass -/

/-- The lines of a list of tokens, from a state on. -/
def State.lines (s : State) : List Token → List Line
  | [] => s.endLine.1
  | t :: rest => (s.step t).1 ++ (s.step t).2.lines rest

/-- The lines of a script. -/
def lines (source : Text) : List Line :=
  State.lines {} (Token.all source)

/-- The layout of a script. -/
def entries (source : Text) : List Entry :=
  (lines source).map fun line => ⟨line.depth, line.content⟩

/-- The script, laid out at a width. -/
def format (width : Nat) (source : Text) : Text :=
  Text.trim (Layout.render width (entries source))

end Tidy.Script
