/-
# Tidy.Http.Service -- the service

The service formats, validates and minifies documents and tells about the languages. A document that is not valid
is no error of the request: the response says so. A path with slashes at its end that leads nowhere is asked for
again without them.
-/

import Tidy.Http.Payload
import Tidy.Indent
import Tidy.Request

namespace Tidy.Http

/-- What a path leads to. -/
inductive Resource where
  | health
  | format
  | validate
  | minify
  | languages
  | sample (language : Text)
deriving DecidableEq

namespace Resource

/-- The paths that have no parts that vary. -/
def fixed : List (Text × Resource) :=
  [("/health", .health), ("/api/v1/format", .format), ("/api/v1/validate", .validate),
   ("/api/v1/minify", .minify), ("/api/v1/languages", .languages)]

/-- The start of the paths of samples. -/
def sampleRoot : Text := "/api/v1/samples/"

/-- What a path leads to. A line feed at the end of a fixed path counts for nothing. -/
def leadsTo? (path : Text) : Option Resource :=
  match fixed.find? (fun entry => path = entry.1 ∨ path = entry.1 ++ "\n"), Text.after? sampleRoot path with
  | some (_, resource), _ => some resource
  | none, some name =>
    if name.isEmpty || name.contains (CodePoint.char '/') then none else some (.sample name)
  | none, none => none

/-- What a path leads to when it may be asked for again. Where it leads nowhere, has slashes at its end and leads
somewhere without them, it is asked for without them: dots are followed and escapes resolved that are left in it. -/
def ofPath? (retries : Nat) (path : Text) : Option Resource :=
  let trimmed := (path.reverse.dropWhile (· = slash)).reverse
  match leadsTo? path, retries with
  | some resource, _ => some resource
  | none, retries + 1 =>
    if trimmed ≠ path ∧ (leadsTo? trimmed).isSome then ofPath? retries (resolved (withoutDots trimmed)) else none
  | none, 0 => none

/-- How many times a path may be asked for again. -/
def maxRetries : Nat := 20

/-- The method of a resource. -/
def method : Resource → Text
  | .format | .validate | .minify => "POST"
  | .health | .languages | .sample _ => "GET"

end Resource

/-! ## Answers -/

/-- A message or nothing. -/
def optionalText : Option Text → Json
  | some t => .str t
  | none => .null

/-- The outcome of formatting. -/
def formattedJson (f : Formatted) : Json :=
  .obj [("formatted_text", .str f.text), ("is_valid", .bool f.isValid), ("error_message", optionalText f.error)]

/-- The verdict on a document. -/
def verdictJson (v : Verdict) : Json :=
  .obj [("is_valid", .bool v.isValid), ("error_message", optionalText v.error)]

/-- A language and what is done with it. -/
def capabilityJson (c : Capability) : Json :=
  .obj [("language", .str c.language.tag), ("strategy", .str c.strategy.tag),
    ("description", .str c.description)]

/-- Formats a document at the width of an option. -/
def formatAnswer (memory : Memory) (document : Document) (indent : Value) : Response :=
  match Indent.resolve indent (.int Indent.defaultTabWidth) with
  | .error fault => .detail 400 (.str fault.message)
  | .ok width => .json 200 (formattedJson (Engine.format memory document.language width document.source))

/-- Validates a document. -/
def validateAnswer (document : Document) : Response :=
  .json 200 (verdictJson (Engine.validate document.language document.source))

/-- Minifies a document. -/
def minifyAnswer (document : Document) : Response :=
  .json 200 (.obj [("minified", .str (Engine.minify document.language true document.source))])

/-- The sample of a language that is named by its tag. -/
def sampleAnswer (name : Text) : Response :=
  match Check.language (.str name) with
  | .ok language =>
    .json 200 (.obj [("language", .str language.tag), ("source", .str (Engine.sample language))])
  | .error problem => refuse "path" (fun _ => .str name) [⟨["language"], problem⟩]

/-- The answer of a resource. -/
def answer (memory : Memory) (message : Message) : Resource → Response
  | .health => .json 200 (.obj [("status", .str "healthy"), ("version", .str "0.1.0")])
  | .format => withPayload message (fun record => (checkDocument record).both (checkIndent record))
      fun (document, indent) => formatAnswer memory document indent
  | .validate => withPayload message checkDocument validateAnswer
  | .minify => withPayload message checkDocument minifyAnswer
  | .languages => .json 200 (.arr (Capability.all.map capabilityJson))
  | .sample name => sampleAnswer name

/-- The response to a request. A request for the head of a response gets no body. -/
def respond (memory : Memory) (message : Message) : Response :=
  let response := match Resource.ofPath? Resource.maxRetries message.path with
    | none => .notFound
    | some resource =>
      if message.verb = resource.method then answer memory message resource else .notAllowed
  if message.verb = "HEAD" then response.bodiless else response

/-- What comes of a request: its response, unless the target is not sent. -/
def exchange (memory : Memory) (message : Message) : Except TargetFault Response :=
  match TargetFault.of? message.target with
  | some fault => .error fault
  | none => .ok (respond memory message)

end Tidy.Http
