/-
# Tidy.Request -- requests, and the records of what was done

A request names a document, its language and the width of its indentation. The records of results are checked as
well: a message is there exactly if the document is not valid, so that a record either is an outcome of the engine
or is refused.
-/

import Tidy.Engine
import Tidy.Record.Field

namespace Tidy

/-- A request to format a document. -/
structure Request where
  source : Text
  language : Language
  width : Nat

/-- Why there is no request. -/
inductive Refusal where
  | language (given : Value)
  | fields (issues : List Issue)

/-- The language that a value names. -/
def Language.ofValue (given : Value) : Except Refusal Language :=
  match given with
  | .str t => (Language.ofText? t).elim (.error (.language given)) .ok
  | _ => .error (.language given)

/-- The words for a value that names no language. -/
def Language.refusal (given : Value) : Text :=
  "Unsupported language: " ++ given.spelled

namespace Request

/-- The request that the fields of a record make. -/
def check (record : Record) : Checked Request := do
  let (source, language, width) ←
    (record.required "source" Check.text).both
      ((record.optional "language" Check.language .json).both
        (record.optional "indent" Check.positive Engine.defaultWidth))
  return ⟨source, language, width⟩

/-- The request for a document in a language that is named freely. The language is looked at first. -/
def of (source : Text) (language indent : Value) : Except Refusal Request := do
  let language ← Language.ofValue language
  match check [("source", .str source), ("language", .str language.tag), ("indent", indent)] with
  | .ok request => return request
  | .error issues => throw (.fields issues)

/-- What is requested. -/
def format (memory : Memory) (request : Request) : Formatted :=
  Engine.format memory request.language request.width request.source

end Request

/-! ## Records of results -/

/-- The message of a result, which is there exactly if the result is not valid. -/
def checkMessage (isValid : Bool) (message : Option Text) : Checked (Option Text) :=
  if isValid = message.isNone then .ok message
  else .error [⟨[], .rule "error_message must be set exactly when is_valid is false"⟩]

/-- The outcome that the fields of a record give. -/
def Formatted.check (record : Record) : Checked Formatted := do
  let (text, isValid, message) ←
    (record.required "formatted_text" Check.text).both
      ((record.required "is_valid" Check.boolean).both
        (record.optional "error_message" Check.optionalText none))
  return ⟨text, ← checkMessage isValid message⟩

/-- The verdict that the fields of a record give. -/
def Verdict.check (record : Record) : Checked Verdict := do
  let (isValid, message) ←
    (record.required "is_valid" Check.boolean).both
      (record.optional "error_message" Check.optionalText none)
  return ⟨← checkMessage isValid message⟩

/-! ## What can be done with each language -/

/-- A language, how its documents are validated, and a line on it. -/
structure Capability where
  language : Language
  strategy : Strategy
  description : Text

namespace Capability

/-- The capability for a language. -/
def of (language : Language) : Capability :=
  ⟨language, language.strategy, language.description⟩

/-- The capabilities, in the order in which they are listed. -/
def all : List Capability :=
  Language.all.map of

/-- The capability that the fields of a record give. -/
def check (record : Record) : Checked Capability := do
  let (language, strategy, description) ←
    (record.required "language" Check.language).both
      ((record.required "strategy" Check.strategy).both
        (record.required "description" Check.text))
  return ⟨language, strategy, description⟩

end Capability

end Tidy
