/-
# Tidy.Yaml.Scalar -- the spellings of scalars

A scalar is plain, quoted or a block. Line ends inside plain and quoted scalars are folded: one line end is a
space, of several the first is dropped.
-/

import Tidy.Yaml.Cursor

namespace Tidy.Yaml.Cursor

/-- A folded line end: the text of the first line end, then those of the blank lines after it. -/
def folded (first : Text) (blank : List Text) : Text :=
  if first ≠ "\n" then first ++ blank.flatten
  else if blank.isEmpty then " "
  else blank.flatten

/-! ## Quoted scalars -/

/-- The characters that a backslash and a letter stand for. -/
def escapes : List (Char × Nat) :=
  [('0', 0x00), ('a', 0x07), ('b', 0x08), ('t', 0x09), ('\t', 0x09), ('n', 0x0A), ('v', 0x0B),
   ('f', 0x0C), ('r', 0x0D), ('e', 0x1B), (' ', 0x20), ('"', 0x22), ('\\', 0x5C), ('/', 0x2F),
   ('N', 0x85), ('_', 0xA0), ('L', 0x2028), ('P', 0x2029)]

/-- How many hexadecimal digits follow a letter that starts a numbered escape. -/
def escapeLengths : List (Char × Nat) :=
  [('x', 2), ('u', 4), ('U', 8)]

/-- The number that hexadecimal digits write. -/
def hexNumber? (digits : Text) : Option Nat :=
  digits.foldlM (fun n c => c.hexValue?.map (n * 16 + ·)) 0

/-- The line ends of blank lines inside quotes; a mark between documents may not stand there. -/
def quotedBreaks (limit : Nat) (c : Cursor) : Except Fault (List Text × Cursor) :=
  match limit with
  | 0 => .error .malformed
  | limit + 1 =>
    if c.looksAtSeparator then .error .malformed
    else
      let c := c.skip fun x => x = ' ' || x = '\t'
      let (line, after) := c.lineBreak
      if line.isEmpty then .ok ([], c)
      else do
        let (more, c) ← quotedBreaks limit after
        .ok (line :: more, c)

/-- White space inside quotes, folded if a line ends there. -/
def quotedSpaces (c : Cursor) : Except Fault (Text × Cursor) := do
  let (spaces, c) := c.span fun x => x = ' ' || x = '\t'
  if c.rest.isEmpty then .error .malformed
  else
    let (line, after) := c.lineBreak
    if line.isEmpty then .ok (spaces, c)
    else do
      let (blank, c) ← quotedBreaks (after.rest.length + 1) after
      .ok (folded line blank, c)

/-- The text of an escape after its backslash. -/
def escape (c : Cursor) : Except Fault (Text × Cursor) :=
  match c.peek 0 with
  | some (.char x) =>
    match escapes.find? (·.1 = x), escapeLengths.find? (·.1 = x) with
    | some (_, n), _ => .ok ([Char.ofNat n], c.next)
    | none, some (_, length) =>
      let digits := (c.rest.drop 1).take length
      match hexNumber? digits with
      | none => .error .malformed
      | some n =>
        if digits.length < length then .error .malformed
        else match CodePoint.ofNat? n with
          | some y => .ok ([y], c.forward (length + 1))
          | none =>
            if n < 0x80000000 then .error (.unreadable "chr() arg not in range(0x110000)")
            else .error .hugeEscape
    | none, none =>
      let (line, after) := c.lineBreak
      if line.isEmpty then .error .malformed
      else do
        let (blank, c) ← quotedBreaks (after.rest.length + 1) after
        .ok (blank.flatten, c)
  | _ => .error .malformed

/-- What follows an opening quote, up to the closing quote and with it. -/
def quotedBody (limit : Nat) (double : Bool) (c : Cursor) : Except Fault (Text × Cursor) :=
  match limit with
  | 0 => .error .malformed
  | limit + 1 => do
    let (run, c) := c.span fun x => !isGapOrEnd (some x) && !isOneOf "'\"\\" x
    let (piece, c) ←
      match c.peek 0 with
      | some (.char '\'') =>
        if double then (.ok (some ("'" : Text), c.next) : Except Fault (Option Text × Cursor))
        else if c.peek 1 = some (CodePoint.char '\'') then .ok (some "'", c.forward 2)
        else .ok (none, c.next)
      | some (.char '"') => if double then .ok (none, c.next) else .ok (some "\"", c.next)
      | some (.char '\\') =>
        if double then do
          let (t, c) ← c.next.escape
          .ok (some t, c)
        else .ok (some "\\", c.next)
      | _ => do
        let (t, c) ← c.quotedSpaces
        .ok (some t, c)
    match piece with
    | none => .ok (run, c)
    | some piece => do
      let (more, c) ← quotedBody limit double c
      .ok (run ++ piece ++ more, c)

/-- A quoted scalar. -/
def quotedScalar (c : Cursor) (double : Bool) : Except Fault (Text × Cursor) :=
  quotedBody (c.rest.length + 1) double c.next

/-! ## Plain scalars -/

/-- The code points of a plain scalar from here on, up to a gap or to a sign with a meaning of its own. -/
def plainRun (inFlow : Bool) : Text → Text
  | [] => []
  | x :: rest =>
    let closes := fun y => isGapOrEnd (some y) || (inFlow && isOneOf ",[]\x7b\x7d" y)
    if isGapOrEnd (some x) || (x = ':' && rest.head?.all closes) || (inFlow && isOneOf ",?[]\x7b\x7d" x) then []
    else x :: plainRun inFlow rest

/-- What stands between two runs of a plain scalar. -/
structure PlainGap where
  /-- The text that the gap counts as; none where the scalar cannot go on. -/
  text : Text
  crossesLine : Bool
  after : Cursor

/-- The line ends of blank lines between two runs; nothing if a mark between documents is met. -/
def plainBreaks (limit : Nat) (c : Cursor) : Option (List Text) × Cursor :=
  match limit with
  | 0 => (none, c)
  | limit + 1 =>
    let c := c.skip (· = CodePoint.char ' ')
    let (line, after) := c.lineBreak
    if line.isEmpty then (some [], c)
    else if after.looksAtSeparator then (none, after)
    else
      let (more, c) := plainBreaks limit after
      (more.map (line :: ·), c)

/-- The gap after a run of a plain scalar. -/
def plainGap (c : Cursor) : PlainGap :=
  let (spaces, c) := c.span (· = CodePoint.char ' ')
  let (line, after) := c.lineBreak
  if line.isEmpty then ⟨spaces, false, c⟩
  else if after.looksAtSeparator then ⟨[], true, after⟩
  else
    match plainBreaks (after.rest.length + 1) after with
    | (none, c) => ⟨[], true, c⟩
    | (some blank, c) => ⟨folded line blank, true, c⟩

/-- A plain scalar.  -/
structure Plain where
  text : Text
  /-- Did the last gap cross a line end? -/
  crossedLine : Bool
  after : Cursor

/-- The runs of a plain scalar from here on, after a gap that counts as `gap`. Outside of flow collections, later
lines are indented by at least `indent`. -/
def plainRuns (limit : Nat) (inFlow : Bool) (indent : Nat) (gap : Text) (crossed : Bool) (c : Cursor) :
    Plain :=
  match limit with
  | 0 => ⟨[], crossed, c⟩
  | limit + 1 =>
    let run := plainRun inFlow c.rest
    if c.peek 0 = some (CodePoint.char '#') || run.isEmpty then ⟨[], crossed, c⟩
    else
      let next := plainGap (c.forward run.length)
      if next.text.isEmpty || next.after.peek 0 = some (CodePoint.char '#') ||
          (!inFlow && next.after.column < indent) then
        ⟨gap ++ run, next.crossesLine, next.after⟩
      else
        let more := plainRuns limit inFlow indent next.text next.crossesLine next.after
        ⟨gap ++ run ++ more.text, more.crossedLine, more.after⟩

/-- A plain scalar. -/
def plainScalar (c : Cursor) (inFlow : Bool) (indent : Nat) : Plain :=
  plainRuns (c.rest.length + 1) inFlow indent [] false c

/-! ## Block scalars -/

/-- What becomes of the line ends at the end of a block. -/
inductive Chomping where
  | strip
  | clip
  | keep
deriving DecidableEq

/-- The line ends of blank lines, and the place after at most `indent` columns of spaces. -/
def blockBreaks (limit : Nat) (indent : Nat) (c : Cursor) : List Text × Cursor :=
  match limit with
  | 0 => ([], c)
  | limit + 1 =>
    let room := indent - c.column
    let c := c.forward ((c.rest.take room).takeWhile (· = CodePoint.char ' ')).length
    let (line, after) := c.lineBreak
    if line.isEmpty then ([], c)
    else
      let (more, c) := blockBreaks limit indent after
      (line :: more, c)

/-- The line ends of leading blank lines, and the deepest column of spaces among them and after them. -/
def blockLead (limit : Nat) (deepest : Nat) (c : Cursor) : List Text × Nat × Cursor :=
  match limit with
  | 0 => ([], deepest, c)
  | limit + 1 =>
    let c := c.skip (· = CodePoint.char ' ')
    let deepest := max deepest c.column
    let (line, after) := c.lineBreak
    if line.isEmpty then ([], deepest, c)
    else
      let (more, deepest, c) := blockLead limit deepest after
      (line :: more, deepest, c)

/-- The chomping that a sign asks for. -/
def chomping? (c : Option CodePoint) : Option Chomping :=
  if c = some (CodePoint.char '+') then some .keep
  else if c = some (CodePoint.char '-') then some .strip
  else none

/-- The indentation that a digit asks for. -/
def increment? (c : Option CodePoint) : Option Nat :=
  c.bind fun x => if x.isAsciiDigit then some x.asciiDigitValue else none

/-- The signs after the start of a block, in either order. -/
def blockHeader (c : Cursor) : Except Fault (Chomping × Option Nat × Cursor) :=
  let (chomping, increment, c) :=
    match chomping? (c.peek 0) with
    | some chomping =>
      match increment? (c.peek 1) with
      | some n => (chomping, some n, c.forward 2)
      | none => (chomping, none, c.next)
    | none =>
      match increment? (c.peek 0) with
      | some n =>
        match chomping? (c.peek 1) with
        | some chomping => (chomping, some n, c.forward 2)
        | none => (.clip, some n, c.next)
      | none => (.clip, none, c)
  if increment = some 0 || !isSpaceOrEnd (c.peek 0) then .error .malformed
  else do
    .ok (chomping, increment, ← c.ignoredLine)

/-- Does a line of a block start here? -/
def startsLine (c : Cursor) (indent : Nat) : Bool :=
  c.column = indent && !c.rest.isEmpty

/-- Does the line here start with white space of its own? -/
def startsBlank (c : Cursor) : Bool :=
  c.peek 0 = some (CodePoint.char ' ') || c.peek 0 = some (CodePoint.char '\t')

/-- The lines of a block: their text, the last line end and the blank lines after it. -/
def blockLines (limit : Nat) (fold : Bool) (indent : Nat) (blank : List Text) (c : Cursor) :
    Text × Text × List Text × Cursor :=
  match limit with
  | 0 => ([], [], blank, c)
  | limit + 1 =>
    if !c.startsLine indent then ([], [], blank, c)
    else
      let (content, after) := c.span (!isBreak ·)
      let (line, after) := after.lineBreak
      let (next, after) := blockBreaks (after.rest.length + 1) indent after
      let lead := blank.flatten ++ content
      if !after.startsLine indent then (lead, line, next, after)
      else
        let joint : Text :=
          if fold && line = "\n" && !c.startsBlank && !after.startsBlank then
            if next.isEmpty then " " else []
          else line
        let (more, line, next, after) := blockLines limit fold indent next after
        (lead ++ joint ++ more, line, next, after)

/-- A block scalar; `parent` is the indentation of what it belongs to, plus one. -/
def blockScalar (c : Cursor) (fold : Bool) (parent : Nat) : Except Fault (Text × Cursor) := do
  let (chomping, increment, c) ← c.next.blockHeader
  let least := max 1 parent
  let (blank, indent, c) :=
    match increment with
    | some n =>
      let indent := least + n - 1
      let (blank, c) := blockBreaks (c.rest.length + 1) indent c
      (blank, indent, c)
    | none =>
      let (blank, deepest, c) := blockLead (c.rest.length + 1) 0 c
      (blank, max least deepest, c)
  let (body, line, blank, c) := blockLines (c.rest.length + 1) fold indent blank c
  .ok <| match chomping with
    | .strip => (body, c)
    | .clip => (body ++ line, c)
    | .keep => (body ++ line ++ blank.flatten, c)

end Tidy.Yaml.Cursor
