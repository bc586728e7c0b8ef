/-
# Tidy.Record.Problem -- why a field of a record is refused

A problem is a cause with a short code and a message. An issue says which field has the problem.
-/

import Tidy.Value

namespace Tidy

/-- Why a value is refused. -/
inductive Problem where
  | missing
  | fractional
  | notFinite
  | notInteger
  | hugeInteger
  | integerKind
  | notPositive
  | notBoolean
  | booleanKind
  | textKind
  | notUnicode
  | choice (options : List Text)
  | rule (message : Text)
  | frozen
  | recordKind
deriving DecidableEq

namespace Problem

/-- Options in single quotes, with `or` before the last. -/
def alternatives : List Text → Text
  | [] => []
  | [option] => "'" ++ option ++ "'"
  | [first, last] => "'" ++ first ++ "' or '" ++ last ++ "'"
  | option :: rest => "'" ++ option ++ "', " ++ alternatives rest

/-- The code of a problem. -/
def code : Problem → Text
  | missing => "missing"
  | fractional => "int_from_float"
  | notFinite => "finite_number"
  | notInteger => "int_parsing"
  | hugeInteger => "int_parsing_size"
  | integerKind => "int_type"
  | notPositive => "greater_than"
  | notBoolean => "bool_parsing"
  | booleanKind => "bool_type"
  | textKind => "string_type"
  | notUnicode => "string_unicode"
  | choice _ => "enum"
  | rule _ => "value_error"
  | frozen => "frozen_instance"
  | recordKind => "model_attributes_type"

/-- The words for a problem. -/
def message : Problem → Text
  | missing => "Field required"
  | fractional => "Input should be a valid integer, got a number with a fractional part"
  | notFinite => "Input should be a finite number"
  | notInteger => "Input should be a valid integer, unable to parse string as an integer"
  | hugeInteger => "Unable to parse input string as an integer, exceeded maximum size"
  | integerKind => "Input should be a valid integer"
  | notPositive => "Input should be greater than 0"
  | notBoolean => "Input should be a valid boolean, unable to interpret input"
  | booleanKind => "Input should be a valid boolean"
  | textKind => "Input should be a valid string"
  | notUnicode => "Input should be a valid string, unable to parse raw data as a unicode string"
  | choice options => "Input should be " ++ alternatives options
  | rule message => "Value error, " ++ message
  | frozen => "Instance is frozen"
  | recordKind => "Input should be a valid dictionary or object to extract fields from"

end Problem

/-- A problem of a field; the path is empty if the record as a whole is refused. -/
structure Issue where
  path : List Text
  problem : Problem
deriving DecidableEq

end Tidy
