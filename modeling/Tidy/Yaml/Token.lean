/-
# Tidy.Yaml.Token -- the tokens of a YAML text

Indentation becomes tokens: a deeper column opens a block collection and a shallower one closes it. A key needs no
sign before it: whatever may be a key is remembered, and when the sign of its value is met on the same line, the
key mark is put in front of it afterwards.
-/

import Tidy.Yaml.Scalar
import Tidy.Yaml.Tag

namespace Tidy.Yaml

/-- A token. -/
inductive Token where
  | directive (d : Directive)
  | documentStart
  | documentEnd
  | blockSequence
  | blockMapping
  | blockEnd
  | flowSequence
  | flowSequenceEnd
  | flowMapping
  | flowMappingEnd
  | key
  | value
  | blockEntry
  | flowEntry
  | alias (name : Text)
  | anchor (name : Text)
  | tag (name : TagName)
  | scalar (plain : Bool) (t : Text)

/-- Where a key may have started. -/
structure KeyStart where
  /-- How many tokens stand before it. -/
  token : Nat
  /-- Must a key stand here, because the block goes on here? -/
  required : Bool
  index : Nat
  line : Nat
  column : Nat

/-- How far a text has been cut into tokens. -/
structure Progress where
  cursor : Cursor
  /-- The tokens so far, the last one first. -/
  tokens : List Token
  /-- The columns of the open blocks, the innermost first. -/
  blocks : List Nat
  keyAllowed : Bool
  /-- Where a key may have started on the innermost level of flow collections. -/
  start : Option KeyStart
  /-- The same for the levels around it. -/
  outer : List (Option KeyStart)

namespace Progress

/-- The longest key. -/
def keyLimit : Nat := 1024

/-- Before anything was read. -/
def begin (source : Text) : Progress :=
  ⟨Cursor.start source, [], [], true, none, []⟩

/-- Is here the inside of a flow collection? -/
def inFlow (p : Progress) : Bool :=
  !p.outer.isEmpty

/-- One more than the column of the innermost block, and zero outside of all blocks. -/
def parent (p : Progress) : Nat :=
  match p.blocks with
  | [] => 0
  | column :: _ => column + 1

/-- Adds a token that reaches up to `cursor`. -/
def emit (p : Progress) (token : Token) (cursor : Cursor) : Progress :=
  { p with tokens := token :: p.tokens, cursor }

/-- Adds a token of `n` signs. -/
def emitSigns (p : Progress) (n : Nat) (token : Token) : Progress :=
  p.emit token (p.cursor.forward n)

/-- Allows a key to start next, or not. -/
def allowKey (p : Progress) (allowed : Bool) : Progress :=
  { p with keyAllowed := allowed }

/-! ## Blocks -/

/-- Closes the blocks that are deeper than a column. -/
def unwind (column : Nat) (p : Progress) : Progress :=
  let kept := p.blocks.dropWhile (column < ·)
  let closed := p.blocks.length - kept.length
  { p with blocks := kept, tokens := List.replicate closed .blockEnd ++ p.tokens }

/-- Closes all blocks. -/
def unwindAll (p : Progress) : Progress :=
  { p with blocks := [], tokens := List.replicate p.blocks.length .blockEnd ++ p.tokens }

/-- Does a new block start at a column? -/
def opensBlock (p : Progress) (column : Nat) : Bool :=
  p.blocks.head?.all (· < column)

/-- Opens a block at the present column, if it is deeper than the innermost block. -/
def openBlock (p : Progress) (token : Token) : Progress :=
  if p.opensBlock p.cursor.column then
    { p with blocks := p.cursor.column :: p.blocks, tokens := token :: p.tokens }
  else p

/-! ## Keys -/

/-- Has the place of a possible key been left behind? -/
def isStale (c : Cursor) (start : KeyStart) : Bool :=
  start.line ≠ c.line || keyLimit < c.index - start.index

/-- The possible key, unless its place has been left behind. -/
def refreshed (c : Cursor) : Option KeyStart → Except Fault (Option KeyStart)
  | none => .ok none
  | some start =>
    if !isStale c start then .ok (some start)
    else if start.required then .error .malformed
    else .ok none

/-- Gives up all possible keys whose place has been left behind. -/
def refresh (p : Progress) : Except Fault Progress := do
  let start ← refreshed p.cursor p.start
  let outer ← p.outer.mapM (refreshed p.cursor)
  .ok { p with start, outer }

/-- Gives up the possible key of the innermost level. -/
def dropKey (p : Progress) : Except Fault Progress :=
  if p.start.any (·.required) then .error .malformed else .ok { p with start := none }

/-- Remembers that a key may start here. -/
def markKey (p : Progress) : Except Fault Progress :=
  if !p.keyAllowed then .ok p
  else do
    let p ← p.dropKey
    let required := !p.inFlow && p.blocks.head? = some p.cursor.column
    let c := p.cursor
    .ok { p with start := some ⟨p.tokens.length, required, c.index, c.line, c.column⟩ }

/-! ## Signs -/

/-- The end of the text. -/
def finish (p : Progress) : Except Fault Progress :=
  p.unwindAll.dropKey

/-- A directive. -/
def directive (p : Progress) : Except Fault Progress := do
  let p ← p.unwindAll.dropKey
  let (directive, c) ← p.cursor.directive
  .ok ((p.allowKey false).emit (.directive directive) c)

/-- A mark between documents. -/
def separator (p : Progress) (token : Token) : Except Fault Progress := do
  let p ← p.unwindAll.dropKey
  .ok ((p.allowKey false).emitSigns 3 token)

/-- The start of a flow collection. -/
def openFlow (p : Progress) (token : Token) : Except Fault Progress := do
  let p ← p.markKey
  .ok ({ p with start := none, outer := p.start :: p.outer, keyAllowed := true }.emitSigns 1 token)

/-- The end of a flow collection. -/
def closeFlow (p : Progress) (token : Token) : Except Fault Progress := do
  let p ← p.dropKey
  match p.outer with
  | [] => .error .malformed
  | start :: outer => .ok ({ p with start, outer, keyAllowed := false }.emitSigns 1 token)

/-- A comma between the items of a flow collection. -/
def flowEntry (p : Progress) : Except Fault Progress := do
  let p ← (p.allowKey true).dropKey
  .ok (p.emitSigns 1 .flowEntry)

/-- The sign before an item of a block sequence. -/
def blockEntry (p : Progress) : Except Fault Progress := do
  if !p.inFlow && !p.keyAllowed then .error .malformed
  else
    let p := if p.inFlow then p else p.openBlock .blockSequence
    let p ← (p.allowKey true).dropKey
    .ok (p.emitSigns 1 .blockEntry)

/-- The sign before a key. -/
def explicitKey (p : Progress) : Except Fault Progress := do
  if !p.inFlow && !p.keyAllowed then .error .malformed
  else
    let p := if p.inFlow then p else p.openBlock .blockMapping
    let p ← (p.allowKey !p.inFlow).dropKey
    .ok (p.emitSigns 1 .key)

/-- Puts the mark of a key in front of the tokens from `start` on, and opens a block mapping there if the column
asks for one. -/
def insertKey (p : Progress) (start : KeyStart) : Progress :=
  let since := p.tokens.length - start.token
  let later := p.tokens.take since
  let earlier := p.tokens.drop since
  if !p.inFlow && p.opensBlock start.column then
    { p with
      tokens := later ++ .key :: .blockMapping :: earlier
      blocks := start.column :: p.blocks
      start := none }
  else { p with tokens := later ++ .key :: earlier, start := none }

/-- The sign before a value. -/
def valueSign (p : Progress) : Except Fault Progress := do
  match p.start with
  | some start => .ok (((p.insertKey start).allowKey false).emitSigns 1 .value)
  | none =>
    if !p.inFlow && !p.keyAllowed then .error .malformed
    else
      let p := if p.inFlow then p else p.openBlock .blockMapping
      let p ← (p.allowKey !p.inFlow).dropKey
      .ok (p.emitSigns 1 .value)

/-- An alias or an anchor. -/
def named (p : Progress) (token : Text → Token) : Except Fault Progress := do
  let p ← p.markKey
  let (name, c) ← p.cursor.anchorName
  .ok ((p.allowKey false).emit (token name) c)

/-- A tag. -/
def tagged (p : Progress) : Except Fault Progress := do
  let p ← p.markKey
  let (name, c) ← p.cursor.tagName
  .ok ((p.allowKey false).emit (.tag name) c)

/-- A block scalar. -/
def block (p : Progress) (fold : Bool) : Except Fault Progress := do
  let p ← (p.allowKey true).dropKey
  let (t, c) ← p.cursor.blockScalar fold p.parent
  .ok (p.emit (.scalar false t) c)

/-- A quoted scalar. -/
def quoted (p : Progress) (double : Bool) : Except Fault Progress := do
  let p ← p.markKey
  let (t, c) ← p.cursor.quotedScalar double
  .ok ((p.allowKey false).emit (.scalar false t) c)

/-- A plain scalar. -/
def plain (p : Progress) : Except Fault Progress := do
  let p ← p.markKey
  let s := p.cursor.plainScalar p.inFlow p.parent
  .ok ((p.allowKey s.crossedLine).emit (.scalar true s.text) s.after)

/-- May a plain scalar start here? -/
def startsPlain (p : Progress) (x : CodePoint) : Bool :=
  !(isGapOrEnd (some x) || isOneOf "-?:,[]\x7b\x7d#&*!|>'\"%@`" x) ||
    (!isGapOrEnd (p.cursor.peek 1) && (x = '-' || (!p.inFlow && isOneOf "?:" x)))

/-! ## Steps -/

/-- Skips spaces, comments and line ends. Outside of flow collections a key may start on a new line. -/
def skipGap (limit : Nat) (p : Progress) : Progress :=
  match limit with
  | 0 => p
  | limit + 1 =>
    let c := p.cursor.skip (· = CodePoint.char ' ')
    let c := if c.peek 0 = some (CodePoint.char '#') then c.skip (!isBreak ·) else c
    let (line, after) := c.lineBreak
    if line.isEmpty then { p with cursor := c }
    else skipGap limit { p with cursor := after, keyAllowed := p.keyAllowed || !p.inFlow }

/-- Reads the token that starts with `x`. -/
def token (p : Progress) (x : CodePoint) : Except Fault Progress :=
  let c := p.cursor
  let gapAhead := isGapOrEnd (c.peek 1)
  if x = '%' && c.column = 0 then p.directive
  else if c.column = 0 && c.looksAtMark "---" then p.separator .documentStart
  else if c.column = 0 && c.looksAtMark "..." then p.separator .documentEnd
  else if x = '[' then p.openFlow .flowSequence
  else if x = '{' then p.openFlow .flowMapping
  else if x = ']' then p.closeFlow .flowSequenceEnd
  else if x = '}' then p.closeFlow .flowMappingEnd
  else if x = ',' then p.flowEntry
  else if x = '-' && gapAhead then p.blockEntry
  else if x = '?' && (p.inFlow || gapAhead) then p.explicitKey
  else if x = ':' && (p.inFlow || gapAhead) then p.valueSign
  else if x = '*' then p.named .alias
  else if x = '&' then p.named .anchor
  else if x = '!' then p.tagged
  else if x = '|' && !p.inFlow then p.block false
  else if x = '>' && !p.inFlow then p.block true
  else if x = '\'' then p.quoted false
  else if x = '"' then p.quoted true
  else if p.startsPlain x then p.plain
  else .error .malformed

/-- Before the next token: what stands in between is skipped, and blocks that end there are closed. -/
def ready (p : Progress) : Except Fault Progress := do
  let p ← (p.skipGap (p.cursor.rest.length + 1)).refresh
  .ok (if p.inFlow then p else p.unwind p.cursor.column)

/-- Reads one more token, or the end of the text; tells whether it was the end. -/
def step (p : Progress) : Except Fault (Progress × Bool) := do
  let p ← p.ready
  match p.cursor.rest with
  | [] => .ok (← p.finish, true)
  | x :: _ => .ok (← p.token x, false)

/-- The tokens that are settled: those before the first place where the mark of a key may still be put. -/
def settled (p : Progress) : List Token :=
  let starts := (p.start :: p.outer).filterMap fun start => start.filter (!isStale p.cursor ·)
  p.tokens.reverse.take (starts.foldl (fun n start => min n start.token) p.tokens.length)

end Progress

/-- A text that has been cut into tokens, as far as it can be. -/
structure Scan where
  tokens : List Token
  /-- Why the text cannot be cut further, unless this is its end. -/
  fault : Option Fault

/-- Reads tokens until the text ends. Where it cannot be read further, the tokens that are settled remain. -/
def Progress.run (limit : Nat) (p : Progress) : Scan :=
  match limit with
  | 0 => ⟨p.settled, some .malformed⟩
  | limit + 1 =>
    match p.step with
    | .error fault => ⟨p.settled, some fault⟩
    | .ok (p, atEnd) => if atEnd then ⟨p.tokens.reverse, none⟩ else run limit p

/-- The tokens of a text. A byte order mark may stand before it. -/
def scan (source : Text) : Scan :=
  if !source.all isAdmissible then ⟨[], some .malformed⟩
  else
    let p := Progress.begin source
    let p := if source.head? = some byteOrderMark then { p with cursor := p.cursor.next } else p
    p.run (source.length + 2)

end Tidy.Yaml
