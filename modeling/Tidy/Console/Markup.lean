/-
# Tidy.Console.Markup -- texts with tags

A message may hold tags in square brackets, which are not shown. A tag opens a style or an action, and a tag with a
slash closes the last one of its name, or the last one if it gives no name. Tags that are left open are closed at
the end. What stands between tags may hold emoji codes.
-/

import Tidy.Console.Emoji
import Tidy.Console.Literal
import Tidy.Console.Style

namespace Tidy.Console

/-- Why a text with markup cannot be shown. -/
inductive MarkupFault where
  /-- A closing tag closes nothing. -/
  | unmatched
  /-- The parameters of an action are no values. -/
  | parameters
  /-- A part of a colour should be a number and is none. -/
  | noNumber
deriving DecidableEq

/-! ## Pieces -/

/-- A piece of a text with markup. -/
inductive Piece where
  | plain (t : Text)
  | tag (t : Text)

/-- May a tag start with the code point? -/
def startsTag (c : CodePoint) : Bool :=
  c.within 0x61 0x7A || c = '#' || c = '/' || c = '@'

/-- The tag after an opening bracket, and the rest after its closing bracket. -/
def tagAfter? (t : Text) : Option (Text × Text) :=
  match t with
  | [] => none
  | c :: rest =>
    if !startsTag c then none
    else
      let body := rest.takeWhile fun x => !(x = CodePoint.char '[' || x = CodePoint.char ']')
      match rest.drop body.length with
      | ']' :: after => some (c :: body, after)
      | _ => none

/-- A tag in a text: what stands before it, how many backslashes stand directly before it, the tag, and what
follows. -/
structure FoundTag where
  before : Text
  slashes : Nat
  tag : Text
  after : Text

/-- The first tag of a text; `before` is what stands before the text, the last code point first. -/
def firstTag? (before : Text) : Text → Option FoundTag
  | [] => none
  | c :: rest =>
    match if c = '[' then tagAfter? rest else none with
    | some (tag, after) =>
      let slashes := (before.takeWhile (· = CodePoint.char '\\')).length
      some ⟨(before.drop slashes).reverse, slashes, tag, after⟩
    | none => firstTag? (c :: before) rest

/-- A text without the backslash before a bracket. -/
def unescaped : Text → Text
  | [] => []
  | c :: rest =>
    if c = '\\' ∧ rest.head? = some (CodePoint.char '[') then unescaped rest
    else c :: unescaped rest

/-- The pieces of a text with markup. Before a tag, two backslashes stand for one, and one that is left over makes
the tag plain text; a backslash before any other bracket is dropped. -/
def parts (limit : Nat) (t : Text) : List Piece :=
  match limit with
  | 0 => []
  | limit + 1 =>
    match firstTag? [] t with
    | none => [.plain (unescaped t)]
    | some found =>
      let slashes := List.replicate (found.slashes / 2) (CodePoint.char '\\')
      let piece := if found.slashes % 2 = 0 then Piece.tag found.tag else .plain ("[" ++ found.tag ++ "]")
      .plain (unescaped found.before) :: .plain slashes :: piece :: parts limit found.after

/-! ## Tags -/

/-- An open tag: its name in normal form, and what stands after an equals sign. -/
structure Tag where
  name : Text
  parameters : Option Text
deriving DecidableEq

namespace Tag

/-- The name and the parameters that a tag writes. -/
def ofText (t : Text) : Tag :=
  let name := t.takeWhile (· ≠ CodePoint.char '=')
  ⟨name, (t.drop name.length).tail?⟩

/-- The style that a tag asks for. -/
def style (tag : Tag) : Text :=
  match tag.parameters with
  | none => tag.name
  | some parameters => tag.name ++ " " ++ parameters

/-- Does the tag ask for an action? -/
def isAction (tag : Tag) : Bool :=
  tag.name.head? = some (CodePoint.char '@')

/-- The values that an action is given: those in parentheses after the name of a handler, none if there is only the
name, and else all that is written. -/
def values (parameters : Text) : Text :=
  let handler := parameters.takeWhile fun c => c.isWord || c = CodePoint.char '.'
  let rest := parameters.drop handler.length
  if rest.isEmpty then "()"
  else if rest.head? = some (CodePoint.char '(') && rest.getLast? = some (CodePoint.char ')') &&
      !rest.contains CodePoint.newline then rest
  else parameters

/-- Checks a tag that is closed. The styles of tags are kept; actions are checked for their parameters. -/
def closed (tag : Tag) : Except MarkupFault (List Text) :=
  if tag.isAction then
    match tag.parameters with
    | none | some [] => .ok []
    | some parameters =>
      if Literal.isLiteral (values (Text.trim parameters)) then .ok [] else .error .parameters
  else .ok [tag.style]

end Tag

/-- The name of a tag in normal form. -/
def tagName (name : Text) : Except MarkupFault Text :=
  match normalName name with
  | .ok name => .ok name
  | .error _ => .error .noNumber

/-- The tag that a closing tag closes, and the tags that stay open; the last open tag is the first of them. -/
def close (name : Text) (opened : List Tag) : Except MarkupFault (Tag × List Tag) :=
  let found := if name.isEmpty then opened.head? else opened.find? (·.name = name)
  match found with
  | some tag => .ok (tag, opened.erase tag)
  | none => .error .unmatched

/-- A text without its tags, and the styles of its parts. -/
structure Plain where
  text : Text
  styles : List Text

/-- The text of pieces without their tags and with emoji for their codes; `opened` are the open tags, the last one
first. -/
def plainText (opened : List Tag) : List Piece → Except MarkupFault Plain
  | [] => .ok ⟨[], opened.map Tag.style⟩
  | .plain t :: rest => do
    let plain ← plainText opened rest
    .ok { plain with text := showEmoji t ++ plain.text }
  | .tag t :: rest =>
    let tag := Tag.ofText t
    match tag.name with
    | '/' :: name => do
      let name ← if (Text.trim name).isEmpty then .ok [] else tagName (Text.trim name)
      let (tag, opened) ← close name opened
      let styles ← tag.closed
      let plain ← plainText opened rest
      .ok { plain with styles := styles ++ plain.styles }
    | name => do
      let name ← tagName name
      plainText ({ tag with name } :: opened) rest

/-- Does a style have a colour with a part that is no number? -/
def isNumberless (style : Text) : Bool :=
  match Style.ofText style with
  | .error .noNumber => true
  | _ => false

/-- The text of a message without its markup. All its styles are looked at before it is shown. -/
def withoutMarkup (t : Text) : Except MarkupFault Text := do
  let plain ← plainText [] (parts (t.length + 1) t)
  if plain.styles.any isNumberless then .error .noNumber else .ok plain.text

end Tidy.Console
