/-
# Tidy.Http.Message -- requests and responses

A request has a method, a target, the type of its content and a body of bytes. A response has a status and a body,
which is JSON or plain text. What JSON cannot carry, lone surrogates and numbers that are not finite, makes the
response an internal error.
-/

import Tidy.Http.Target
import Tidy.Json.Value
import Tidy.Text.Blank
import Tidy.Text.Lowercase

namespace Tidy

mutual

/-- Can the value be carried as UTF-8 JSON? -/
def Json.isPortable : Json → Bool
  | .float x => x.isFinite
  | .str t => !t.hasSurrogate
  | .arr items => Json.arePortable items
  | .obj members => Json.haveNames members
  | _ => true

/-- Can all items be carried? -/
def Json.arePortable : List Json → Bool
  | [] => true
  | item :: rest => item.isPortable && Json.arePortable rest

/-- Can all members be carried? -/
def Json.haveNames : List (Text × Json) → Bool
  | [] => true
  | (name, value) :: rest => !name.hasSurrogate && value.isPortable && Json.haveNames rest

end

namespace Http

/-- A request. -/
structure Message where
  method : Text
  /-- The path, perhaps with more around it. -/
  target : Text
  contentType : Text
  body : List UInt8

/-- The body of a response. -/
inductive Body where
  | json (value : Json)
  | text (t : Text)

/-- A response. -/
structure Response where
  status : Nat
  body : Body

namespace Response

/-- The response where something went wrong that the client cannot know of. -/
def internalError : Response :=
  ⟨500, .text "Internal Server Error"⟩

/-- A response with a JSON body. -/
def json (status : Nat) (value : Json) : Response :=
  if value.isPortable then ⟨status, .json value⟩ else internalError

/-- A response that gives details on what is wrong. -/
def detail (status : Nat) (value : Json) : Response :=
  json status (.obj [("detail", value)])

/-- The response for a path that leads nowhere. -/
def notFound : Response :=
  detail 404 (.str "Not Found")

/-- The response for a method that a path does not have. -/
def notAllowed : Response :=
  detail 405 (.str "Method Not Allowed")

/-- The response without its body. -/
def bodiless (response : Response) : Response :=
  { response with body := .text [] }

end Response

namespace Message

/-- The letters that are written with capitals of the alphabet, beside the small letters of the alphabet. -/
def otherCapitals : List (Nat × String) :=
  [(0xDF, "SS"), (0x131, "I"), (0x17F, "S"), (0xFB00, "FF"), (0xFB01, "FI"), (0xFB02, "FL"), (0xFB03, "FFI"),
   (0xFB04, "FFL"), (0xFB05, "ST"), (0xFB06, "ST")]

/-- A code point in capitals, as far as these are letters of the alphabet. -/
def capitals (c : CodePoint) : Text :=
  if c.within 0x61 0x7A then [CodePoint.ofNat (c.toNat - 0x20)]
  else match otherCapitals.find? (·.1 = c.toNat) with
    | some (_, letters) => letters
    | none => [c]

/-- The method of a request in capitals. -/
def verb (message : Message) : Text :=
  message.method.flatMap capitals

/-- The path that a request asks for. -/
def path (message : Message) : Text :=
  (Target.ofText message.target).asked

/-- Is the content JSON, by its type? -/
def isJson (message : Message) : Bool :=
  let kind := Text.lower (Text.trim (message.contentType.takeWhile (· ≠ CodePoint.char ';')))
  match Text.splitAt '/' kind with
  | [main, sub] => main = "application" && (sub = "json" || Text.endsWith sub "+json")
  | _ => false

end Message

end Http

end Tidy
