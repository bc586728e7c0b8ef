/-
# Tidy.Xml.Declaration -- the XML declaration

The declaration holds up to three settings in a fixed order: the version, the encoding and whether the document
stands alone. Each is a name, an equals sign and a quoted value of letters, digits, full stops, hyphens and low
lines. Of all this only the last setting matters to the check of a document.
-/

import Tidy.Xml.Character

namespace Tidy.Xml

/-- A setting of a declaration. `place` and `valuePlace` are what is left of the declaration from its name and
from its value on. -/
structure Setting where
  name : Text
  place : Text
  value : Text
  valuePlace : Text

/-- What stands next in a declaration. -/
inductive NextSetting where
  | none
  | some (setting : Setting) (rest : Text)
  | bad (place : Text)

/-- A character that may stand in the value of a setting. -/
def isSettingChar (c : CodePoint) : Bool :=
  c.isAsciiLetter || c.isAsciiDigit || c = '.' || c = '-' || c = '_'

/-- A character that may stand in the name of a setting. -/
def isSettingNameChar (c : CodePoint) : Bool :=
  c.toNat < 0x80 && c ≠ '=' && !isSpace c

/-- The value of a setting called `name`, after its equals sign. -/
def settingValue (name place s : Text) : NextSetting :=
  match s.dropWhile isSpace with
  | [] => .bad []
  | q :: value =>
    if q = '"' || q = '\'' then
      match value.dropWhile isSettingChar with
      | [] => .bad []
      | c :: rest =>
        if c = q then .some ⟨name, place, value.takeWhile isSettingChar, value⟩ rest
        else .bad (c :: rest)
    else .bad (q :: value)

/-- The next setting of a declaration, which white space has to precede. -/
def nextSetting (s : Text) : NextSetting :=
  match s with
  | [] => .none
  | c :: _ =>
    if !isSpace c then .bad s
    else
      match s.dropWhile isSpace with
      | [] => .none
      | place =>
        let name := place.takeWhile isSettingNameChar
        match place.dropWhile isSettingNameChar with
        | [] => .bad []
        | c :: rest =>
          if c = '=' then
            if name.isEmpty then .bad (c :: rest) else settingValue name place rest
          else if isSpace c then
            match rest.dropWhile isSpace with
            | [] => .bad []
            | d :: more => if d = '=' then settingValue name place more else .bad (d :: more)
          else .bad (c :: rest)

/-- Checks the setting that says whether a document stands alone. -/
def readStandalone (setting : Setting) (rest : Text) : Except Text Bool :=
  if setting.name ≠ "standalone" then .error setting.place
  else if setting.value ≠ "yes" ∧ setting.value ≠ "no" then .error setting.valuePlace
  else
    match rest.dropWhile isSpace with
    | [] => .ok (setting.value = "yes")
    | place => .error place

/-- Checks what follows the version. -/
def readEncoding (s : Text) : Except Text Bool :=
  match nextSetting s with
  | .none => .ok false
  | .bad place => .error place
  | .some setting rest =>
    if setting.name = "encoding" then
      if !(setting.value.head?.any CodePoint.isAsciiLetter) then .error setting.valuePlace
      else
        match nextSetting rest with
        | .none => .ok false
        | .bad place => .error place
        | .some standalone rest => readStandalone standalone rest
    else readStandalone setting rest

/-- Whether the document stands alone, from what stands between `<?xml` and `?>`; or what is left of it at the
first fault. -/
def readDeclaration (s : Text) : Except Text Bool :=
  match nextSetting s with
  | .none => .error s
  | .bad place => .error place
  | .some setting rest =>
    if setting.name = "version" then readEncoding rest else .error setting.place

end Tidy.Xml
