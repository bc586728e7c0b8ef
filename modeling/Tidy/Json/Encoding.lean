/-
# Tidy.Json.Encoding -- what the bytes of a JSON document say

JSON starts with ASCII characters, so zeros among the first four bytes show UTF-16 or UTF-32 and the order of the
bytes of a unit. Everything else is UTF-8, with or without a byte order mark.
-/

import Tidy.Text.Utf8
import Tidy.Text.Utf32

namespace Tidy.Json

/-- How bytes write a text. -/
inductive Encoding where
  | utf8
  | utf16 (order : Text.ByteOrder)
  | utf32 (order : Text.ByteOrder)
deriving DecidableEq

/-- The byte order mark. -/
def byteOrderMark : CodePoint := Char.ofNat 0xFEFF

/-- The encoding that the first bytes show. Two bytes can show UTF-16; one and three show nothing. -/
def Encoding.of : List UInt8 → Encoding
  | [a, b] => if a = 0 then .utf16 .big else if b = 0 then .utf16 .little else .utf8
  | a :: b :: c :: d :: _ =>
    if a = 0 then if b = 0 then .utf32 .big else .utf16 .big
    else if b = 0 then if c = 0 ∧ d = 0 then .utf32 .little else .utf16 .little
    else .utf8
  | _ => .utf8

/-- The text of UTF-8 bytes. A byte order mark in front of it is dropped. -/
def unmarked? (bytes : List UInt8) : Option Text :=
  match Text.ofUtf8 bytes with
  | .error _ => none
  | .ok [] => some []
  | .ok (c :: rest) => some (if c = byteOrderMark then rest else c :: rest)

/-- The text that the bytes of a document write. -/
def textOf? (bytes : List UInt8) : Option Text :=
  match Encoding.of bytes with
  | .utf8 => unmarked? bytes
  | .utf16 order => Text.ofUtf16? order bytes
  | .utf32 order => Text.ofUtf32? order bytes

end Tidy.Json
