/-
# Tidy.Engine -- formatting, validating and minifying documents

Formatting gives a result in every case: a text, or the source unchanged with a message. A blank source is valid
and becomes the empty text in every language. A width that the memory has no room for cannot be laid out, which
only shows where indentation is needed.
-/

import Tidy.Css.Sheet
import Tidy.Json.Reader
import Tidy.Json.Writer
import Tidy.Language
import Tidy.Markup.Tag
import Tidy.Script.Layout
import Tidy.Xml.Document

namespace Tidy

/-- Why a document cannot be formatted. -/
inductive Failure where
  | json (fault : Json.Fault)
  | xml (fault : Xml.Fault)
  | width

/-- The words for a failure on `source`. Faults in the middle of the work show only the language. -/
def Failure.message (language : Language) (source : Text) : Failure → Text
  | json fault => fault.message source
  | xml (.malformed cause place) => Xml.faultMessage (Text.trim source) cause place
  | xml _ | width => language.displayName ++ " formatting error"

/-- The outcome of formatting: the text, and a message exactly if the source is not valid. -/
structure Formatted where
  text : Text
  error : Option Text
deriving DecidableEq

/-- Is the outcome that of a valid source? -/
def Formatted.isValid (formatted : Formatted) : Bool :=
  formatted.error.isNone

/-- The verdict on a document: a message exactly if it is not valid. -/
structure Verdict where
  error : Option Text
deriving DecidableEq

/-- Is the document valid? -/
def Verdict.isValid (verdict : Verdict) : Bool :=
  verdict.error.isNone

/-- The memory that a layout may use: a run of `limit` spaces or more does not fit. -/
structure Memory where
  limit : Nat
deriving DecidableEq

/-- All the memory that a machine word can count: what is below two to the power of 63. -/
def Memory.word : Memory := ⟨0x8000000000000000⟩

/-- The memory that a process is given: what is below two to the power of 37. -/
def Memory.process : Memory := ⟨0x2000000000⟩

namespace Engine

/-- The width that is used where none is given. -/
def defaultWidth : Nat := 2

/-- A layout at a width, if the memory has room for the width. -/
def laidOut (memory : Memory) (width : Nat) (layout : Nat → Text) : Except Failure Text :=
  if memory.limit ≤ width then .error .width else .ok (layout width)

/-- A JSON value, laid out. A string has no need of the width. -/
def formatValue (memory : Memory) (width : Nat) (value : Json) : Except Failure Text :=
  match value with
  | .str t => .ok (Json.writeString t)
  | value => laidOut memory width fun width => Layout.render width value.entries

/-- Formats a document that is not blank. -/
def formatDocument (memory : Memory) (language : Language) (width : Nat) (source : Text) :
    Except Failure Text :=
  match language with
  | .json =>
    match Json.parse source with
    | .error fault => .error (.json fault)
    | .ok value => formatValue memory width value
  | .xml =>
    match Xml.check (Text.trim source) with
    | .error fault => .error (.xml fault)
    | .ok () => laidOut memory width fun width => Markup.format width (Text.trim source)
  | .typescript => laidOut memory width fun width => Script.format width source
  | .css => laidOut memory width fun width => Css.format width source
  | .html => laidOut memory width fun width => Markup.format width source

/-- Formats a document. -/
def format (memory : Memory) (language : Language) (width : Nat) (source : Text) : Formatted :=
  if source.isBlank then ⟨[], none⟩
  else
    match formatDocument memory language width source with
    | .ok text => ⟨text, none⟩
    | .error failure => ⟨source, some (failure.message language source)⟩

/-- Validates a document. Its width is small, so that the memory does not matter. -/
def validate (language : Language) (source : Text) : Verdict :=
  ⟨(format .word language defaultWidth source).error⟩

/-- The source on one line: runs of white space become single spaces. -/
def minifyText (source : Text) : Text :=
  Text.trim (Text.collapse source)

/-- Minifies a document. JSON loses all white space between its tokens; what is not JSON is treated as plain text,
or left unchanged if `fallback` is not set. -/
def minify (language : Language) (fallback : Bool) (source : Text) : Text :=
  if source.isBlank then []
  else
    match language with
    | .json =>
      match Json.parse source with
      | .ok value => value.compact
      | .error _ => if fallback then minifyText source else source
    | _ => minifyText source

/-! ## Samples -/

/-- A sample document of each language. -/
def sample : Language → Text
  | .json =>
    "\x7b\"name\":\"John Doe\",\"age\":30,\"city\":\"New York\"," ++
      "\"hobbies\":[\"reading\",\"coding\",\"traveling\"]," ++
      "\"address\":\x7b\"street\":\"123 Main St\",\"zipCode\":\"10001\"\x7d\x7d"
  | .typescript =>
    "interface User\x7bname:string;age:number;email:string;\x7d" ++
      "const user:User=\x7bname:\"John\",age:30,email:\"john@example.com\"\x7d;" ++
      "function greetUser(user:User):string\x7breturn `Hello, $\x7buser.name\x7d!`;\x7d"
  | .xml =>
    "<?xml version=\"1.0\" encoding=\"UTF-8\"?><users>" ++
      "<user id=\"1\"><name>John Doe</name><email>john@example.com</email>" ++
      "<active>true</active></user>" ++
      "<user id=\"2\"><name>Jane Smith</name><email>jane@example.com</email>" ++
      "<active>false</active></user></users>"
  | .css =>
    "body\x7bmargin:0;padding:0;font-family:Arial,sans-serif;\x7d" ++
      ".header\x7bbackground-color:#333;color:white;padding:20px;\x7d" ++
      ".container\x7bmax-width:1200px;margin:0 auto;padding:20px;\x7d"
  | .html =>
    "<!DOCTYPE html><html lang=\"en\"><head><meta charset=\"UTF-8\" />" ++
      "<meta name=\"viewport\" content=\"width=device-width, initial-scale=1.0\" />" ++
      "<title>Example</title></head><body>" ++
      "<header class=\"header\"><h1>Welcome</h1></header>" ++
      "<main class=\"container\"><p>This is a sample HTML document.</p></main>" ++
      "</body></html>"

end Engine

end Tidy
