/-
# Tidy.Xml.Character -- the character classes of XML

Names are made of the letters, ideographs, digits, combining characters and extenders that XML 1.0 (fourth
edition) lists, with the low line, the hyphen and the full stop. The colon is apart: it divides a prefix from
a local name.
-/

import Tidy.Text.CodePoint

namespace Tidy.Xml

/-- The ranges of characters that may start a name. -/
def nameStartRanges : List (Nat × Nat) :=
  [(0x41, 0x5A), (0x5F, 0x5F), (0x61, 0x7A), (0xC0, 0xD6), (0xD8, 0xF6), (0xF8, 0x131),
   (0x134, 0x13E), (0x141, 0x148), (0x14A, 0x17E), (0x180, 0x1C3), (0x1CD, 0x1F0), (0x1F4, 0x1F5),
   (0x1FA, 0x217), (0x250, 0x2A8), (0x2BB, 0x2C1), (0x386, 0x386), (0x388, 0x38A), (0x38C, 0x38C),
   (0x38E, 0x3A1), (0x3A3, 0x3CE), (0x3D0, 0x3D6), (0x3DA, 0x3DA), (0x3DC, 0x3DC), (0x3DE, 0x3DE),
   (0x3E0, 0x3E0), (0x3E2, 0x3F3), (0x401, 0x40C), (0x40E, 0x44F), (0x451, 0x45C), (0x45E, 0x481),
   (0x490, 0x4C4), (0x4C7, 0x4C8), (0x4CB, 0x4CC), (0x4D0, 0x4EB), (0x4EE, 0x4F5), (0x4F8, 0x4F9),
   (0x531, 0x556), (0x559, 0x559), (0x561, 0x586), (0x5D0, 0x5EA), (0x5F0, 0x5F2), (0x621, 0x63A),
   (0x641, 0x64A), (0x671, 0x6B7), (0x6BA, 0x6BE), (0x6C0, 0x6CE), (0x6D0, 0x6D3), (0x6D5, 0x6D5),
   (0x6E5, 0x6E6), (0x905, 0x939), (0x93D, 0x93D), (0x958, 0x961), (0x985, 0x98C), (0x98F, 0x990),
   (0x993, 0x9A8), (0x9AA, 0x9B0), (0x9B2, 0x9B2), (0x9B6, 0x9B9), (0x9DC, 0x9DD), (0x9DF, 0x9E1),
   (0x9F0, 0x9F1), (0xA05, 0xA0A), (0xA0F, 0xA10), (0xA13, 0xA28), (0xA2A, 0xA30), (0xA32, 0xA33),
   (0xA35, 0xA36), (0xA38, 0xA39), (0xA59, 0xA5C), (0xA5E, 0xA5E), (0xA72, 0xA74), (0xA85, 0xA8B),
   (0xA8D, 0xA8D), (0xA8F, 0xA91), (0xA93, 0xAA8), (0xAAA, 0xAB0), (0xAB2, 0xAB3), (0xAB5, 0xAB9),
   (0xABD, 0xABD), (0xAE0, 0xAE0), (0xB05, 0xB0C), (0xB0F, 0xB10), (0xB13, 0xB28), (0xB2A, 0xB30),
   (0xB32, 0xB33), (0xB36, 0xB39), (0xB3D, 0xB3D), (0xB5C, 0xB5D), (0xB5F, 0xB61), (0xB85, 0xB8A),
   (0xB8E, 0xB90), (0xB92, 0xB95), (0xB99, 0xB9A), (0xB9C, 0xB9C), (0xB9E, 0xB9F), (0xBA3, 0xBA4),
   (0xBA8, 0xBAA), (0xBAE, 0xBB5), (0xBB7, 0xBB9), (0xC05, 0xC0C), (0xC0E, 0xC10), (0xC12, 0xC28),
   (0xC2A, 0xC33), (0xC35, 0xC39), (0xC60, 0xC61), (0xC85, 0xC8C), (0xC8E, 0xC90), (0xC92, 0xCA8),
   (0xCAA, 0xCB3), (0xCB5, 0xCB9), (0xCDE, 0xCDE), (0xCE0, 0xCE1), (0xD05, 0xD0C), (0xD0E, 0xD10),
   (0xD12, 0xD28), (0xD2A, 0xD39), (0xD60, 0xD61), (0xE01, 0xE2E), (0xE30, 0xE30), (0xE32, 0xE33),
   (0xE40, 0xE45), (0xE81, 0xE82), (0xE84, 0xE84), (0xE87, 0xE88), (0xE8A, 0xE8A), (0xE8D, 0xE8D),
   (0xE94, 0xE97), (0xE99, 0xE9F), (0xEA1, 0xEA3), (0xEA5, 0xEA5), (0xEA7, 0xEA7), (0xEAA, 0xEAB),
   (0xEAD, 0xEAE), (0xEB0, 0xEB0), (0xEB2, 0xEB3), (0xEBD, 0xEBD), (0xEC0, 0xEC4), (0xF40, 0xF47),
   (0xF49, 0xF69), (0x10A0, 0x10C5), (0x10D0, 0x10F6), (0x1100, 0x1100), (0x1102, 0x1103),
   (0x1105, 0x1107), (0x1109, 0x1109), (0x110B, 0x110C), (0x110E, 0x1112), (0x113C, 0x113C),
   (0x113E, 0x113E), (0x1140, 0x1140), (0x114C, 0x114C), (0x114E, 0x114E), (0x1150, 0x1150),
   (0x1154, 0x1155), (0x1159, 0x1159), (0x115F, 0x1161), (0x1163, 0x1163), (0x1165, 0x1165),
   (0x1167, 0x1167), (0x1169, 0x1169), (0x116D, 0x116E), (0x1172, 0x1173), (0x1175, 0x1175),
   (0x119E, 0x119E), (0x11A8, 0x11A8), (0x11AB, 0x11AB), (0x11AE, 0x11AF), (0x11B7, 0x11B8),
   (0x11BA, 0x11BA), (0x11BC, 0x11C2), (0x11EB, 0x11EB), (0x11F0, 0x11F0), (0x11F9, 0x11F9),
   (0x1E00, 0x1E9B), (0x1EA0, 0x1EF9), (0x1F00, 0x1F15), (0x1F18, 0x1F1D), (0x1F20, 0x1F45),
   (0x1F48, 0x1F4D), (0x1F50, 0x1F57), (0x1F59, 0x1F59), (0x1F5B, 0x1F5B), (0x1F5D, 0x1F5D),
   (0x1F5F, 0x1F7D), (0x1F80, 0x1FB4), (0x1FB6, 0x1FBC), (0x1FBE, 0x1FBE), (0x1FC2, 0x1FC4),
   (0x1FC6, 0x1FCC), (0x1FD0, 0x1FD3), (0x1FD6, 0x1FDB), (0x1FE0, 0x1FEC), (0x1FF2, 0x1FF4),
   (0x1FF6, 0x1FFC), (0x2126, 0x2126), (0x212A, 0x212B), (0x212E, 0x212E), (0x2180, 0x2182),
   (0x3007, 0x3007), (0x3021, 0x3029), (0x3041, 0x3094), (0x30A1, 0x30FA), (0x3105, 0x312C),
   (0x4E00, 0x9FA5), (0xAC00, 0xD7A3)]

/-- The ranges of characters that may stand in a name but not start one. -/
def nameExtraRanges : List (Nat × Nat) :=
  [(0x2D, 0x2E), (0x30, 0x39), (0xB7, 0xB7), (0x2D0, 0x2D1), (0x300, 0x345), (0x360, 0x361),
   (0x387, 0x387), (0x483, 0x486), (0x591, 0x5A1), (0x5A3, 0x5B9), (0x5BB, 0x5BD), (0x5BF, 0x5BF),
   (0x5C1, 0x5C2), (0x5C4, 0x5C4), (0x640, 0x640), (0x64B, 0x652), (0x660, 0x669), (0x670, 0x670),
   (0x6D6, 0x6E4), (0x6E7, 0x6E8), (0x6EA, 0x6ED), (0x6F0, 0x6F9), (0x901, 0x903), (0x93C, 0x93C),
   (0x93E, 0x94D), (0x951, 0x954), (0x962, 0x963), (0x966, 0x96F), (0x981, 0x983), (0x9BC, 0x9BC),
   (0x9BE, 0x9C4), (0x9C7, 0x9C8), (0x9CB, 0x9CD), (0x9D7, 0x9D7), (0x9E2, 0x9E3), (0x9E6, 0x9EF),
   (0xA02, 0xA02), (0xA3C, 0xA3C), (0xA3E, 0xA42), (0xA47, 0xA48), (0xA4B, 0xA4D), (0xA66, 0xA71),
   (0xA81, 0xA83), (0xABC, 0xABC), (0xABE, 0xAC5), (0xAC7, 0xAC9), (0xACB, 0xACD), (0xAE6, 0xAEF),
   (0xB01, 0xB03), (0xB3C, 0xB3C), (0xB3E, 0xB43), (0xB47, 0xB48), (0xB4B, 0xB4D), (0xB56, 0xB57),
   (0xB66, 0xB6F), (0xB82, 0xB83), (0xBBE, 0xBC2), (0xBC6, 0xBC8), (0xBCA, 0xBCD), (0xBD7, 0xBD7),
   (0xBE7, 0xBEF), (0xC01, 0xC03), (0xC3E, 0xC44), (0xC46, 0xC48), (0xC4A, 0xC4D), (0xC55, 0xC56),
   (0xC66, 0xC6F), (0xC82, 0xC83), (0xCBE, 0xCC4), (0xCC6, 0xCC8), (0xCCA, 0xCCD), (0xCD5, 0xCD6),
   (0xCE6, 0xCEF), (0xD02, 0xD03), (0xD3E, 0xD43), (0xD46, 0xD48), (0xD4A, 0xD4D), (0xD57, 0xD57),
   (0xD66, 0xD6F), (0xE31, 0xE31), (0xE34, 0xE3A), (0xE46, 0xE4E), (0xE50, 0xE59), (0xEB1, 0xEB1),
   (0xEB4, 0xEB9), (0xEBB, 0xEBC), (0xEC6, 0xEC6), (0xEC8, 0xECD), (0xED0, 0xED9), (0xF18, 0xF19),
   (0xF20, 0xF29), (0xF35, 0xF35), (0xF37, 0xF37), (0xF39, 0xF39), (0xF3E, 0xF3F), (0xF71, 0xF84),
   (0xF86, 0xF8B), (0xF90, 0xF95), (0xF97, 0xF97), (0xF99, 0xFAD), (0xFB1, 0xFB7), (0xFB9, 0xFB9),
   (0x20D0, 0x20DC), (0x20E1, 0x20E1), (0x3005, 0x3005), (0x302A, 0x302F), (0x3031, 0x3035),
   (0x3099, 0x309A), (0x309D, 0x309E), (0x30FC, 0x30FE)]

/-- May the character start a name? -/
def isNameStart (c : CodePoint) : Bool :=
  c.isAsciiLetter || c = '_' || (0x7F < c.toNat && c.inTable nameStartRanges)

/-- May the character stand in a name? -/
def isNameChar (c : CodePoint) : Bool :=
  isNameStart c || c.isAsciiDigit || c = '-' || c = '.' ||
    (0x7F < c.toNat && c.inTable nameExtraRanges)

/-- The white space of XML. -/
def isSpace (c : CodePoint) : Bool :=
  c = ' ' || c = '\t' || c = '\n' || c = '\r'

/-- May the number be the number of a character of a document? -/
def isCharacterNumber (n : Nat) : Bool :=
  if n < 0x20 then n = 0x09 || n = 0x0A || n = 0x0D
  else n < 0x110000 && !(0xD800 ≤ n && n < 0xE000) && n != 0xFFFE && n != 0xFFFF

/-- May the character stand in a document? -/
def isLegal (c : CodePoint) : Bool :=
  isCharacterNumber c.toNat

/-- May the character stand in a public identifier? -/
def isPublicIdChar (c : CodePoint) : Bool :=
  c.isAsciiLetter || c.isAsciiDigit ||
    (Text.ofString " \r\n-_.'()+,/=?;!*%#:$@").any (· = c)

end Tidy.Xml
