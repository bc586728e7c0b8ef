/-
# Tidy.Http.Payload -- what the body of a request asks for

The body of a request is a JSON object with the fields of a document: its source, its language and the option for
its indentation. Whatever is wrong with it is listed in the response.
-/

import Tidy.Http.Message
import Tidy.Json.Encoding
import Tidy.Json.Reader
import Tidy.Record.Field

namespace Tidy.Http

/-- A document that a request asks something about. -/
structure Document where
  source : Text
  language : Language

/-- Why a body cannot be read. -/
inductive BodyFault where
  | absent
  | malformed (complaint : Json.Complaint) (position : Nat)
  | unreadable

/-- The value of a body. Content of another type than JSON is taken as a text. -/
def readBody (message : Message) : Except BodyFault Json := do
  if message.body.isEmpty then .error .absent
  else if !message.isJson then
    match Text.ofUtf8 message.body with
    | .ok t => .ok (.str t)
    | .error _ => .error .unreadable
  else
    let source ← (Json.textOf? message.body).elim (.error .unreadable) .ok
    match Json.readDocument .relaxed source with
    | .ok value => .ok value
    | .error (.lies complaint rest) => .error (.malformed complaint (source.length - rest.length))
    | .error _ => .error .unreadable

/-! ## Issues -/

/-- The value that an issue of a body is about: a field that is missing is missed in the whole body. -/
def inputOf (body : Json) (issue : Issue) : Json :=
  match issue.problem, issue.path with
  | .missing, _ => body
  | _, name :: _ => (body.member? name).getD body
  | _, [] => body

/-- An issue in a response. -/
def issueJson (part : Text) (input : Json) (issue : Issue) : Json :=
  let context : List (Text × Json) := match issue.problem with
    | .choice options => [("ctx", .obj [("expected", .str (Problem.alternatives options))])]
    | _ => []
  let members : List (Text × Json) :=
    [("type", .str issue.problem.code), ("loc", .arr ((part :: issue.path).map .str)),
     ("msg", .str issue.problem.message), ("input", input)]
  .obj (members ++ context)

/-- The response for issues in some part of a request. -/
def refuse (part : Text) (input : Issue → Json) (issues : List Issue) : Response :=
  .detail 422 (.arr (issues.map fun issue => issueJson part (input issue) issue))

/-- The response for a body that cannot be read. -/
def refuseBody : BodyFault → Response
  | .absent => refuse "body" (fun _ => .null) [⟨[], .missing⟩]
  | .malformed complaint position =>
    .detail 422 (.arr [.obj [("type", .str "json_invalid"), ("loc", .arr [.str "body", .int position]),
      ("msg", .str "JSON decode error"), ("input", .obj []),
      ("ctx", .obj [("error", .str complaint.message)])]])
  | .unreadable => .detail 400 (.str "There was an error parsing the body")

/-! ## Fields -/

/-- The option for the indentation: a number or a text as it is, or what counts as a number. -/
def checkIndent (record : Record) : Checked Value :=
  match record.get? "indent" with
  | none => .ok (.int 2)
  | some (.str t) => .ok (.str t)
  | some value =>
    match Check.integer value with
    | .ok n => .ok (.int n)
    | .error problem => .error [⟨["indent", "int"], problem⟩, ⟨["indent", "str"], .textKind⟩]

/-- The document that a record describes. -/
def checkDocument (record : Record) : Checked Document := do
  let (source, language) ←
    (record.required "source" Check.text).both (record.optional "language" Check.language .json)
  return ⟨source, language⟩

/-- Answers a request whose body passes a check. -/
def withPayload {α : Type} (message : Message) (check : Record → Checked α) (answer : α → Response) :
    Response :=
  match readBody message with
  | .error fault => refuseBody fault
  | .ok body =>
    let checked := match body with
      | .obj _ => check (Record.ofJson body)
      | _ => .error [⟨[], .recordKind⟩]
    match checked with
    | .ok payload => answer payload
    | .error issues => refuse "body" (inputOf body) issues

end Tidy.Http
