/-
# Tidy.Text.Utf8 -- the UTF-8 form of texts

A text has a UTF-8 form exactly if no surrogate stands in it. Reading is strict: overlong forms, encoded
surrogates and numbers beyond `0x10FFFF` are refused, and the refusal names the bytes at fault.
-/

import Tidy.Text.CodePoint

namespace Tidy.Text

/-! ## Writing -/

/-- The UTF-8 form of one code point number. -/
def utf8Bytes (n : Nat) : List UInt8 :=
  if n < 0x80 then [n.toUInt8]
  else if n < 0x800 then [(0xC0 + n / 0x40).toUInt8, (0x80 + n % 0x40).toUInt8]
  else if n < 0x10000 then
    [(0xE0 + n / 0x1000).toUInt8, (0x80 + n / 0x40 % 0x40).toUInt8, (0x80 + n % 0x40).toUInt8]
  else
    [(0xF0 + n / 0x40000).toUInt8, (0x80 + n / 0x1000 % 0x40).toUInt8,
      (0x80 + n / 0x40 % 0x40).toUInt8, (0x80 + n % 0x40).toUInt8]

/-- How many bytes the UTF-8 form of a text has. -/
def byteLength (t : Text) : Nat :=
  (t.flatMap fun c => utf8Bytes c.toNat).length

/-- The UTF-8 form of a text, if no surrogate stands in it. -/
def toUtf8? (t : Text) : Option (List UInt8) :=
  if t.hasSurrogate then none else some (t.flatMap fun c => utf8Bytes c.toNat)

/-! ## Reading -/

/-- Why a row of bytes is not UTF-8. -/
inductive Utf8Fault.Reason where
  | start
  | continuation
  | ended
deriving DecidableEq

/-- A fault in a row of bytes: where it begins, the bytes at fault, and the reason. -/
structure Utf8Fault where
  offset : Nat
  bytes : List UInt8
  reason : Utf8Fault.Reason

/-- The words for a reason. -/
def Utf8Fault.Reason.message : Reason → Text
  | start => "invalid start byte"
  | continuation => "invalid continuation byte"
  | ended => "unexpected end of data"

/-- The words for a fault. -/
def Utf8Fault.message (fault : Utf8Fault) : Text :=
  let place : Text := match fault.bytes with
    | [b] => "byte 0x" ++ hex 2 b.toNat ++ " in position " ++ ofNat fault.offset
    | bytes =>
      "bytes in position " ++ ofNat fault.offset ++ "-" ++ ofNat (fault.offset + bytes.length - 1)
  "'utf-8' codec can't decode " ++ place ++ ": " ++ fault.reason.message

/-- Is the byte a continuation byte? -/
def isContinuation (b : UInt8) : Bool :=
  0x80 ≤ b && b < 0xC0

/-- How many continuation bytes follow a start byte. -/
def continuations? (b : UInt8) : Option Nat :=
  if b < 0x80 then some 0
  else if b < 0xC2 then none
  else if b < 0xE0 then some 1
  else if b < 0xF0 then some 2
  else if b < 0xF5 then some 3
  else none

/-- May `second` follow the start byte `first`? This is where overlong forms, surrogates and numbers that
are too large are refused. -/
def mayFollow (first second : UInt8) : Bool :=
  isContinuation second &&
    (first != 0xE0 || 0xA0 ≤ second) && (first != 0xED || second < 0xA0) &&
    (first != 0xF0 || 0x90 ≤ second) && (first != 0xF4 || second < 0x90)

/-- The number that a start byte and its continuation bytes write. -/
def utf8Number (first : UInt8) (more : List UInt8) : Nat :=
  let lead := match more.length with
    | 0 => first.toNat
    | 1 => first.toNat - 0xC0
    | 2 => first.toNat - 0xE0
    | _ => first.toNat - 0xF0
  more.foldl (fun n b => n * 0x40 + (b.toNat - 0x80)) lead

/-- Reads a row of bytes that starts at `offset`. -/
def ofUtf8From (offset : Nat) : List UInt8 → Except Utf8Fault Text
  | [] => .ok []
  | first :: rest =>
    match continuations? first with
    | none => .error ⟨offset, [first], .start⟩
    | some 0 => do
      let t ← ofUtf8From (offset + 1) rest
      pure (CodePoint.char (Char.ofNat first.toNat) :: t)
    | some n =>
      match rest with
      | [] => .error ⟨offset, [first], .ended⟩
      | second :: rest =>
        if !mayFollow first second then .error ⟨offset, [first], .continuation⟩
        else if n = 1 then do
          let t ← ofUtf8From (offset + 2) rest
          pure (CodePoint.char (Char.ofNat (utf8Number first [second])) :: t)
        else match rest with
          | [] => .error ⟨offset, [first, second], .ended⟩
          | third :: rest =>
            if !isContinuation third then .error ⟨offset, [first, second], .continuation⟩
            else if n = 2 then do
              let t ← ofUtf8From (offset + 3) rest
              pure (CodePoint.char (Char.ofNat (utf8Number first [second, third])) :: t)
            else match rest with
              | [] => .error ⟨offset, [first, second, third], .ended⟩
              | fourth :: rest =>
                if !isContinuation fourth then
                  .error ⟨offset, [first, second, third], .continuation⟩
                else do
                  let t ← ofUtf8From (offset + 4) rest
                  pure (CodePoint.char (Char.ofNat (utf8Number first [second, third, fourth])) :: t)

/-- Reads a row of bytes. -/
def ofUtf8 (bytes : List UInt8) : Except Utf8Fault Text :=
  ofUtf8From 0 bytes

/-- The character that stands for bytes that cannot be read. -/
def replacement : CodePoint := Char.ofNat 0xFFFD

/-- Reads a row of bytes in which every fault stands for one replacement character. -/
def ofUtf8Lossy : List UInt8 → Text
  | [] => []
  | first :: rest =>
    match ofUtf8 (first :: rest) with
    | .ok t => t
    | .error fault =>
      let whole := (ofUtf8 ((first :: rest).take fault.offset)).toOption.getD []
      whole ++ replacement :: ofUtf8Lossy (rest.drop (fault.offset + fault.bytes.length - 1))
termination_by bytes => bytes.length
decreasing_by
  simp only [List.length_drop, List.length_cons]
  omega

/-- Writes each `\r\n` and each other `\r` as `\n`. -/
def unifyNewlines : Text → Text
  | [] => []
  | [c] => if c = '\r' then ['\n'] else [c]
  | c :: d :: rest =>
    if c = '\r' then
      if d = '\n' then '\n' :: unifyNewlines rest else '\n' :: unifyNewlines (d :: rest)
    else c :: unifyNewlines (d :: rest)

end Tidy.Text
