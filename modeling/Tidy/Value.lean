/-
# Tidy.Value -- values of any kind

Settings files and requests hold values of any kind, which are checked field by field. A value that is refused is
shown in the message, so every value has a text: `text` is the value alone, `spelled` is the value as it stands
inside another one, where texts are quoted.
-/

import Tidy.Json.Fault
import Tidy.Json.Value
import Tidy.Number.Shortest
import Tidy.Text.Quoted

namespace Tidy

/-- A day of the calendar. -/
structure Date where
  year : Nat
  month : Nat
  day : Nat
deriving DecidableEq

/-- A time of a day, to the microsecond. -/
structure Clock where
  hour : Nat
  minute : Nat
  second : Nat
  micro : Nat
deriving DecidableEq

/-- How far a clock is ahead of universal time: nothing is known, it is universal time, or so many minutes. -/
inductive Zone where
  | unknown
  | universal
  | ahead (minutes : Int)
deriving DecidableEq

/-- A value of any kind. `cycle` is a collection that is met again inside itself. -/
inductive Value where
  | null
  | bool (b : Bool)
  | int (n : Int)
  | float (x : Binary64)
  | str (t : Text)
  | bytes (data : List UInt8)
  | date (day : Date)
  | moment (day : Date) (clock : Clock) (zone : Zone)
  | list (items : List Value)
  | pair (first second : Value)
  | set (items : List Value)
  | map (members : List (Value × Value))
  | cycle (isMap : Bool)
deriving Inhabited

namespace Value

/-! ## Values of JSON -/

mutual

/-- The value of a JSON document. -/
def ofJson : Json → Value
  | .null => .null
  | .bool b => .bool b
  | .int n => .int n
  | .float x => .float x
  | .str t => .str t
  | .arr items => .list (ofItems items)
  | .obj members => .map (ofMembers members)

/-- The values of the items of an array. -/
def ofItems : List Json → List Value
  | [] => []
  | item :: rest => ofJson item :: ofItems rest

/-- The values of the members of an object. -/
def ofMembers : List (Text × Json) → List (Value × Value)
  | [] => []
  | (name, value) :: rest => (.str name, ofJson value) :: ofMembers rest

end

/-! ## Texts -/

/-- A number in a column of at least `width` digits. -/
def padded (width n : Nat) : Text :=
  let digits := Text.ofNat n
  List.replicate (width - digits.length) (CodePoint.char '0') ++ digits

/-- The text of a day. -/
def dateText (d : Date) : Text :=
  padded 4 d.year ++ "-" ++ padded 2 d.month ++ "-" ++ padded 2 d.day

/-- The text of a time of a day; microseconds are shown unless there are none. -/
def clockText (c : Clock) : Text :=
  let micro : Text := if c.micro = 0 then [] else "." ++ padded 6 c.micro
  padded 2 c.hour ++ ":" ++ padded 2 c.minute ++ ":" ++ padded 2 c.second ++ micro

/-- The text of a zone after a time. -/
def zoneText : Zone → Text
  | .unknown => []
  | .universal => "+00:00"
  | .ahead minutes =>
    let sign : Text := if minutes < 0 then "-" else "+"
    sign ++ padded 2 (minutes.natAbs / 60) ++ ":" ++ padded 2 (minutes.natAbs % 60)

/-- The spelling of a span of minutes: whole days, which may be negative, and seconds, which may not. -/
def spanSpelled (minutes : Int) : Text :=
  let days := minutes.fdiv 1440
  let seconds := (minutes - days * 1440) * 60
  let parts : List Text :=
    (if days = 0 then [] else ["days=" ++ Text.ofInt days]) ++
      (if seconds = 0 then [] else ["seconds=" ++ Text.ofInt seconds])
  let amount : Text := if parts.isEmpty then "0" else Text.join ", " parts
  "datetime.timedelta(" ++ amount ++ ")"

/-- The spelling of a moment inside a collection. Seconds are left out if there are none, and so are
microseconds. -/
def momentSpelled (d : Date) (c : Clock) (zone : Zone) : Text :=
  let seconds : List Nat :=
    if c.micro ≠ 0 then [c.second, c.micro] else if c.second ≠ 0 then [c.second] else []
  let numbers := [d.year, d.month, d.day, c.hour, c.minute] ++ seconds
  let offset : Text := match zone with
    | .unknown => []
    | .universal => ", tzinfo=datetime.timezone.utc"
    | .ahead minutes =>
      if minutes = 0 then ", tzinfo=datetime.timezone.utc"
      else ", tzinfo=datetime.timezone(" ++ spanSpelled minutes ++ ")"
  "datetime.datetime(" ++ Text.join ", " (numbers.map Text.ofNat) ++ offset ++ ")"

/-- A byte inside the spelling of bytes between `mark`s. -/
def byteSpelled (mark : CodePoint) (b : UInt8) : Text :=
  let c : CodePoint := Char.ofNat b.toNat
  if c = mark || c = '\\' then ['\\', c]
  else if c = '\t' then "\\t"
  else if c = '\n' then "\\n"
  else if c = '\r' then "\\r"
  else if b.toNat < 0x20 || 0x7F ≤ b.toNat then "\\x" ++ Text.hex 2 b.toNat
  else [c]

/-- The spelling of bytes: between single quotes, or double ones if only single ones occur among them. -/
def bytesSpelled (data : List UInt8) : Text :=
  let mark : CodePoint := if data.contains 0x27 && !data.contains 0x22 then '"' else '\''
  'b' :: mark :: (data.flatMap (byteSpelled mark) ++ [mark])

mutual

/-- The value as it is spelled inside a collection. -/
def spelled : Value → Text
  | null => "None"
  | bool true => "True"
  | bool false => "False"
  | int n => Text.ofInt n
  | float x => x.toText
  | str t => Text.quoted t
  | bytes data => bytesSpelled data
  | date d =>
    "datetime.date(" ++ Text.join ", " ([d.year, d.month, d.day].map Text.ofNat) ++ ")"
  | moment d c zone => momentSpelled d c zone
  | list items => "[" ++ Text.join ", " (spelledItems items) ++ "]"
  | pair first second => "(" ++ spelled first ++ ", " ++ spelled second ++ ")"
  | set [] => "set()"
  | set (item :: rest) => "\x7b" ++ Text.join ", " (spelledItems (item :: rest)) ++ "\x7d"
  | map members => "\x7b" ++ Text.join ", " (spelledMembers members) ++ "\x7d"
  | cycle true => "\x7b...\x7d"
  | cycle false => "[...]"

/-- The spellings of items. -/
def spelledItems : List Value → List Text
  | [] => []
  | item :: rest => spelled item :: spelledItems rest

/-- The spellings of members. -/
def spelledMembers : List (Value × Value) → List Text
  | [] => []
  | (name, value) :: rest => (spelled name ++ ": " ++ spelled value) :: spelledMembers rest

end

/-- The text of a value that stands alone. -/
def text : Value → Text
  | str t => t
  | date d => dateText d
  | moment d c zone => dateText d ++ " " ++ clockText c ++ zoneText zone
  | value => spelled value

/-! ## Values without a text -/

/-- The words for a number with too many digits to be shown. -/
def longNumberMessage : Text :=
  "Exceeds the limit (4300 digits) for integer string conversion; use sys.set_int_max_str_digits() to increase the limit"

mutual

/-- Does a number with too many digits stand in the value? Such a value has neither a text nor a spelling. -/
def hasLongNumber : Value → Bool
  | int n => Json.digitLimit < (Text.ofNat n.natAbs).length
  | list items => itemsHaveLongNumber items
  | pair first second => hasLongNumber first || hasLongNumber second
  | set items => itemsHaveLongNumber items
  | map members => membersHaveLongNumber members
  | _ => false

/-- Does such a number stand in one of the items? -/
def itemsHaveLongNumber : List Value → Bool
  | [] => false
  | item :: rest => hasLongNumber item || itemsHaveLongNumber rest

/-- Does such a number stand in one of the members? -/
def membersHaveLongNumber : List (Value × Value) → Bool
  | [] => false
  | (name, value) :: rest => hasLongNumber name || hasLongNumber value || membersHaveLongNumber rest

end

/-! ## Names in a mapping -/

/-- May the value name a member of a mapping? Collections may not. -/
def isName : Value → Bool
  | list _ | set _ | map _ | cycle _ => false
  | pair first second => isName first && isName second
  | _ => true

/-- The whole number that a value counts as, when it names a member. -/
def asWhole? : Value → Option Int
  | bool b => some (if b then 1 else 0)
  | int n => some n
  | float x => x.toInt?
  | _ => none

/-- Do two values name the same member? Numbers are compared by what they are worth. -/
def sameName : Value → Value → Bool
  | str a, str b => a = b
  | null, null => true
  | bytes a, bytes b => a = b
  | date a, date b => a = b
  | moment d c z, moment d' c' z' => d = d' && c = c' && z = z'
  | float x, float y =>
    if x.isNotANumber then false
    else (x.code = y.code && x.negative = y.negative) || (x.isZero && y.isZero)
  | pair a b, pair a' b' => sameName a a' && sameName b b'
  | a, b =>
    match asWhole? a, asWhole? b with
    | some m, some n => m = n
    | _, _ => false

/-- Adds a member to a mapping: a known name keeps its place and takes the new value. -/
def put (name value : Value) : List (Value × Value) → List (Value × Value)
  | [] => [(name, value)]
  | (n, v) :: rest => if sameName n name then (n, value) :: rest else (n, v) :: put name value rest

/-- Adds an item to a set. -/
def addItem (item : Value) (items : List Value) : List Value :=
  if items.any (sameName · item) then items else items ++ [item]

end Value

end Tidy
