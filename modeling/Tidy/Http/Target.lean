/-
# Tidy.Http.Target -- the path that a request asks for

The target of a request is a reference: perhaps a scheme, perhaps a host after two slashes, then the path, and after
it a query or a fragment that decide nothing here. A reference that does not name both a scheme and a host stands on
the root of the service. A target that is too long, holds a control character or begins its path in a way that can be
misread is never sent. Parts that are single dots are dropped and two dots drop the part before them; only then
are the escapes resolved, by the client and once more by the service.
-/

import Tidy.Text.Quoted
import Tidy.Text.Utf8

namespace Tidy.Http

/-- The mark between the parts of a path. -/
def slash : CodePoint := '/'

/-- The parts of a target that decide what is asked for. -/
structure Target where
  scheme : Text
  host : Text
  path : Text
deriving DecidableEq

namespace Target

/-- Does the code point end a path? -/
def endsPath (c : CodePoint) : Bool :=
  c = '?' || c = '#'

/-- May the code point stand in the name of a scheme, after a letter? -/
def inScheme (c : CodePoint) : Bool :=
  c.isAsciiLetter || c.isAsciiDigit || c = '+' || c = '-' || c = '.'

/-- The scheme in front of a reference, and the rest. A colon may stand there without a name. -/
def splitScheme (t : Text) : Text × Text :=
  let name := t.takeWhile inScheme
  match name, t.drop name.length with
  | [], ':' :: rest => ([], rest)
  | first :: _, ':' :: rest => if first.isAsciiLetter then (name, rest) else ([], t)
  | _, _ => ([], t)

/-- The host in front of a reference, and the rest. -/
def splitHost (t : Text) : Text × Text :=
  match t with
  | '/' :: '/' :: rest =>
    let host := rest.takeWhile fun c => !(c = slash || endsPath c)
    (host, rest.drop host.length)
  | _ => ([], t)

/-- The target that a text writes. -/
def ofText (t : Text) : Target :=
  let (scheme, afterScheme) := splitScheme t
  let (host, afterHost) := splitHost afterScheme
  ⟨scheme, host, afterHost.takeWhile (!endsPath ·)⟩

/-- The path on the service, as it is written. -/
def located (target : Target) : Text :=
  if target.scheme.isEmpty || target.host.isEmpty then
    slash :: target.path.dropWhile (· = slash)
  else if target.path.isEmpty then [slash]
  else target.path

end Target

/-! ## Targets that are not sent -/

/-- Why a target is not sent. -/
inductive TargetFault where
  | tooLong
  | control (c : CodePoint) (place : Nat)
  | badStart (mark : Text)
deriving DecidableEq

namespace TargetFault

/-- How long a target may be. -/
def lengthLimit : Nat := 65536

/-- Is the code point a control character of ASCII? -/
def isControl (c : CodePoint) : Bool :=
  c.toNat < 0x20 || c.toNat = 0x7F

/-- The start that a path may not have where neither scheme nor host stand before it. -/
def start? (target : Target) : Option TargetFault :=
  match target.scheme, target.host, target.path with
  | [], [], '/' :: '/' :: _ => some (.badStart "//")
  | [], [], ':' :: _ => some (.badStart ":")
  | _, _, _ => none

/-- What stands against sending a target. -/
def of? (t : Text) : Option TargetFault :=
  if t.length > lengthLimit then some .tooLong
  else match t.findIdx? isControl, t.find? isControl with
    | some place, some c => some (.control c place)
    | _, _ => start? (Target.ofText t)

/-- The words for a fault. -/
def message : TargetFault → Text
  | tooLong => "URL too long"
  | control c place => ("Invalid non-printable ASCII character in URL, " : Text) ++ Text.quoted [c] ++ " at position " ++
      Text.ofNat place ++ "."
  | badStart mark => ("Relative URLs cannot have a path starting with '" : Text) ++ mark ++ "'"

end TargetFault

/-! ## Dots -/

/-- The parts after those of `done`, which come in reverse, where dots have been followed. -/
def followDots (done : List Text) : List Text → List Text
  | [] => done.reverse
  | part :: rest =>
    if part = "." then followDots done rest
    else if part = ".." then followDots (if done = [[]] then done else done.tail) rest
    else followDots (part :: done) rest

/-- A path in which dots have been followed. -/
def withoutDots (path : Text) : Text :=
  Text.join [slash] (followDots [] (Text.splitAt slash path))

/-! ## Escapes -/

/-- The bytes of a text in which a percent sign and two digits stand for a byte. -/
def escapedBytes : Text → List UInt8
  | [] => []
  | '%' :: a :: b :: rest =>
    match a.hexValue?, b.hexValue? with
    | some high, some low => (high * 16 + low).toUInt8 :: escapedBytes rest
    | _, _ => 0x25 :: escapedBytes (a :: b :: rest)
  | c :: rest => Text.utf8Bytes c.toNat ++ escapedBytes rest
termination_by t => t.length

/-- A text with its escapes resolved; bytes that are not UTF-8 become replacement characters. -/
def resolved (t : Text) : Text :=
  Text.ofUtf8Lossy (escapedBytes t)

/-- The path that a target asks for. -/
def Target.asked (target : Target) : Text :=
  resolved (resolved (withoutDots target.located))

end Tidy.Http
