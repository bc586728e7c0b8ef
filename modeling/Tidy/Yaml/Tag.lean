/-
# Tidy.Yaml.Tag -- names in a YAML text: anchors, tags and directives

An anchor names a node. A tag names the kind of a node by a handle and a suffix; directives give handles their
meaning.
-/

import Tidy.Json.Fault
import Tidy.Text.Utf8
import Tidy.Yaml.Cursor

namespace Tidy.Yaml

/-- A tag as it is written: without a handle, the suffix is the whole tag. -/
structure TagName where
  handle : Option Text
  suffix : Text

/-- A directive before a document. -/
inductive Directive where
  | version (major : Nat)
  | handle (name meaning : Text)
  | other

namespace Cursor

/-- The name of an anchor or an alias after its sign. -/
def anchorName (c : Cursor) : Except Fault (Text × Cursor) :=
  let (name, c) := c.next.span isNamePart
  let ends := (c.peek 0).all fun x => isGapOrEnd (some x) || isOneOf "?:,]\x7d%@`" x
  if name.isEmpty || !ends then .error .malformed else .ok (name, c)

/-- One of the plain characters of a tag. -/
def isTagPart (c : CodePoint) : Bool :=
  c.isAsciiDigit || c.isAsciiLetter || isOneOf "-;/?:@&=+$,_.!~*'()[]" c

/-- The bytes of percent escapes at the start of a text, and the rest. -/
def percentBytes (limit : Nat) (s : Text) : Except Fault (List UInt8 × Text) :=
  match limit, s with
  | limit + 1, '%' :: a :: b :: rest =>
    match a.hexValue?, b.hexValue? with
    | some high, some low => do
      let (bytes, rest) ← percentBytes limit rest
      .ok ((high * 16 + low).toUInt8 :: bytes, rest)
    | _, _ => .error .malformed
  | _, '%' :: _ => .error .malformed
  | _, s => .ok ([], s)

/-- The text of a tag from here on, with its escapes resolved. -/
def tagText (limit : Nat) (c : Cursor) : Except Fault (Text × Cursor) :=
  match limit with
  | 0 => .ok ([], c)
  | limit + 1 => do
    let (run, c) := c.span isTagPart
    if c.peek 0 = some (CodePoint.char '%') then
      let (bytes, rest) ← percentBytes c.rest.length c.rest
      match Text.ofUtf8 bytes with
      | .error _ => .error .malformed
      | .ok escaped =>
        let (more, c) ← tagText limit (c.forward (c.rest.length - rest.length))
        .ok (run ++ escaped ++ more, c)
    else .ok (run, c)

/-- The text of a tag, which is not empty. -/
def someTagText (c : Cursor) : Except Fault (Text × Cursor) := do
  let (t, after) ← c.tagText (c.rest.length + 1)
  if after.rest.length = c.rest.length then .error .malformed else .ok (t, after)

/-- A handle: an exclamation mark, or a name between two of them. -/
def tagHandle (c : Cursor) : Except Fault (Text × Cursor) :=
  if c.peek 0 ≠ some (CodePoint.char '!') then .error .malformed
  else if c.peek 1 = some (CodePoint.char ' ') then .ok ("!", c.next)
  else
    let (name, after) := c.next.span isNamePart
    if after.peek 0 = some (CodePoint.char '!') then .ok ("!" ++ name ++ "!", after.next)
    else .error .malformed

/-- A tag. -/
def tagName (c : Cursor) : Except Fault (TagName × Cursor) := do
  let (tag, c) ←
    if c.peek 1 = some (CodePoint.char '<') then do
      let (suffix, c) ← (c.forward 2).someTagText
      if c.peek 0 = some (CodePoint.char '>') then
        (.ok (⟨none, suffix⟩, c.next) : Except Fault (TagName × Cursor))
      else .error .malformed
    else if isGapOrEnd (c.peek 1) then .ok (⟨none, "!"⟩, c.next)
    else
      let word := (c.rest.drop 1).takeWhile fun x => !isSpaceOrEnd (some x)
      if word.contains (CodePoint.char '!') then do
        let (handle, c) ← c.tagHandle
        let (suffix, c) ← c.someTagText
        .ok (⟨some handle, suffix⟩, c)
      else do
        let (suffix, c) ← c.next.someTagText
        .ok (⟨some "!", suffix⟩, c)
  if isSpaceOrEnd (c.peek 0) then .ok (tag, c) else .error .malformed

/-! ## Directives -/

/-- A number in a version. -/
def versionNumber (c : Cursor) : Except Fault (Nat × Cursor) :=
  let (digits, c) := c.span CodePoint.isAsciiDigit
  if digits.isEmpty then .error .malformed
  else if Json.digitLimit < digits.length then .error (.unreadable (Json.tooManyDigitsMessage digits.length))
  else .ok (Text.decimalValue digits, c)

/-- The version that a directive names. -/
def versionDirective (c : Cursor) : Except Fault (Directive × Cursor) := do
  let (major, c) ← (c.skip (· = CodePoint.char ' ')).versionNumber
  if c.peek 0 ≠ some (CodePoint.char '.') then .error .malformed
  else do
    let (_, c) ← c.next.versionNumber
    if isSpaceOrEnd (c.peek 0) then .ok (.version major, c) else .error .malformed

/-- The handle that a directive gives a meaning. -/
def handleDirective (c : Cursor) : Except Fault (Directive × Cursor) := do
  let (name, c) ← (c.skip (· = CodePoint.char ' ')).tagHandle
  if c.peek 0 ≠ some (CodePoint.char ' ') then .error .malformed
  else do
    let (meaning, c) ← (c.skip (· = CodePoint.char ' ')).someTagText
    if isSpaceOrEnd (c.peek 0) then .ok (.handle name meaning, c) else .error .malformed

/-- A directive, with the line that it stands on. -/
def directive (c : Cursor) : Except Fault (Directive × Cursor) := do
  let (name, c) := c.next.span isNamePart
  if name.isEmpty || !isSpaceOrEnd (c.peek 0) then .error .malformed
  else do
    let (directive, c) ←
      if name = "YAML" then c.versionDirective
      else if name = "TAG" then c.handleDirective
      else .ok (.other, c.skip (!isBreak ·))
    .ok (directive, ← c.ignoredLine)

end Cursor

end Tidy.Yaml
