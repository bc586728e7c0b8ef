/-
# Tidy.Console.Emoji -- emoji codes

A name between two colons, in either case, stands for an emoji. The name may end in `-text` or `-emoji`, which asks for that form of
the character. A name that no emoji has stays as it is written.
-/

import Tidy.Console.EmojiName
import Tidy.Text.Blank
import Tidy.Text.Lowercase

namespace Tidy.Console

/-- The name in a code, and the mark that asks for a form of the character. -/
def emojiName (code : Text) : Text × Text :=
  let without := fun (n : Nat) => code.take (code.length - n)
  if Text.endsWith code "-text" then (without 5, [CodePoint.ofNat 0xFE0E])
  else if Text.endsWith code "-emoji" then (without 6, [CodePoint.ofNat 0xFE0F])
  else (code, [])

/-- What is shown for the code between two colons. -/
def emojiShown (code : Text) : Text :=
  let (name, form) := emojiName code
  match emojiNamed? (Text.lower name) with
  | some emoji => emoji ++ form
  | none => ":" ++ code ++ ":"

/-- Writes emoji for their codes. `begun` is what stands after a colon that may begin a code; a code holds no white
space. -/
def showEmojiFrom (begun : Option Text) : Text → Text
  | [] =>
    match begun with
    | none => []
    | some code => ":" ++ code
  | c :: rest =>
    match begun with
    | none => if c = ':' then showEmojiFrom (some []) rest else c :: showEmojiFrom none rest
    | some code =>
      if c = ':' then emojiShown code ++ showEmojiFrom none rest
      else if c.isBlank then ":" ++ code ++ c :: showEmojiFrom none rest
      else showEmojiFrom (some (code ++ [c])) rest

/-- Writes emoji for their codes. -/
def showEmoji (t : Text) : Text :=
  showEmojiFrom none t

end Tidy.Console
