/-
# Tidy.Xml.Encoding -- what the bytes of a document say

A document is handed over as UTF-8, but its first two bytes may tell otherwise: it starts with an ASCII
character, so a zero byte beside that character can only be the other half of a UTF-16 unit. The bytes are then
read again as UTF-16, and a byte may be left over at the end.
-/

import Tidy.Text.Utf16
import Tidy.Text.Utf8

namespace Tidy.Xml

/-- What the bytes of a document say. -/
structure Reading where
  text : Text
  /-- Is half of a unit left over at the end? -/
  torn : Bool

/-- The order that a zero among the first two bytes shows. -/
def byteOrder? : List UInt8 → Option Text.ByteOrder
  | first :: rest =>
    if first = 0 then some .big
    else if rest.head? = some 0 then some .little
    else none
  | [] => none

/-- What a text says when its UTF-8 form is read as a document. It is the text itself unless its first bytes show
UTF-16. -/
def reading (source : Text) : Reading :=
  match source.toUtf8? with
  | none => ⟨source, false⟩
  | some bytes =>
    match byteOrder? bytes with
    | none => ⟨source, false⟩
    | some order => ⟨Text.ofUnits (order.units bytes), bytes.length % 2 = 1⟩

end Tidy.Xml
