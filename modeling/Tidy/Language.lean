/-
# Tidy.Language -- the languages of documents

The five languages, with their tags, their names, how their documents are validated, and what their files are
called.
-/

import Tidy.Text.Blank
import Tidy.Text.Lowercase

namespace Tidy

/-- A language of documents. -/
inductive Language where
  | json
  | typescript
  | xml
  | css
  | html
deriving DecidableEq

/-- How the validity of a document is decided. -/
inductive Strategy where
  | parser
  | heuristic
deriving DecidableEq

/-- The tag of a strategy. -/
def Strategy.tag : Strategy → Text
  | parser => "parser"
  | heuristic => "heuristic"

/-- The strategies. -/
def Strategy.all : List Strategy := [.parser, .heuristic]

namespace Language

/-- All languages, in the order in which they are listed. -/
def all : List Language := [json, typescript, xml, css, html]

/-- The tag of a language. -/
def tag : Language → Text
  | json => "json"
  | typescript => "typescript"
  | xml => "xml"
  | css => "css"
  | html => "html"

/-- The name of a language in messages. -/
def displayName : Language → Text
  | json => "JSON"
  | typescript => "TypeScript"
  | xml => "XML"
  | css => "CSS"
  | html => "HTML"

/-- The tag in capitals. -/
def capitals : Language → Text
  | json => "JSON"
  | typescript => "TYPESCRIPT"
  | xml => "XML"
  | css => "CSS"
  | html => "HTML"

/-- How documents of a language are validated. -/
def strategy : Language → Strategy
  | json | xml => .parser
  | typescript | css | html => .heuristic

/-- One line on what is done with documents of a language. -/
def description : Language → Text
  | json => "Parse and re-serialize; reports parser errors with line and column."
  | typescript => "Operator spacing and brace/semicolon line breaks; no syntax check."
  | xml => "Well-formedness checked by expat; one tag per line, indented by depth."
  | css => "Declaration per line, indented by block depth; no validation."
  | html => "One tag per line, indented by a running depth counter; no validation."

/-- The language that has exactly this tag. -/
def withTag? (t : Text) : Option Language :=
  all.find? fun language => language.tag = t

/-- The language that a text names, in any case and with white space around it. -/
def ofText? (t : Text) : Option Language :=
  withTag? (Text.lower (Text.trim t))

/-- The ending of the files of a language. -/
def extension : Language → Text
  | json => "json"
  | typescript => "ts"
  | xml => "xml"
  | css => "css"
  | html => "html"

/-- The name of the file that formatted output is saved to. -/
def defaultFilename (language : Language) : Text :=
  "formatted." ++ language.extension

/-- The suffixes of file names that tell a language. -/
def suffixes : List (Text × Language) :=
  [(".json", json), (".ts", typescript), (".tsx", typescript), (".js", typescript),
   (".jsx", typescript), (".mjs", typescript), (".cjs", typescript), (".xml", xml), (".svg", xml),
   (".xsd", xml), (".xsl", xml), (".css", css), (".html", html), (".htm", html)]

/-- The language that a suffix tells, in any case. -/
def ofSuffix? (suffix : Text) : Option Language :=
  (suffixes.find? fun s => s.1 = Text.lower suffix).map (·.2)

end Language

end Tidy
