/-
# Tidy.Json.Value -- JSON documents

The values of the JSON grammar. Integers are unbounded and apart from floating point numbers: which of the
two a literal writes is decided by its spelling. The members of an object keep the order in which they were
first written.
-/

import Tidy.Number.Binary64
import Tidy.Text.CodePoint

namespace Tidy

/-- A JSON value. -/
inductive Json where
  | null
  | bool (b : Bool)
  | int (n : Int)
  | float (x : Binary64)
  | str (t : Text)
  | arr (items : List Json)
  | obj (members : List (Text × Json))
deriving Inhabited

namespace Json

/-- Adds a member: a new name goes to the end, a known name keeps its place and takes the new value. -/
def put (name : Text) (value : Json) : List (Text × Json) → List (Text × Json)
  | [] => [(name, value)]
  | (n, v) :: rest => if n = name then (n, value) :: rest else (n, v) :: put name value rest

/-- The object of members given in the order in which they were written. -/
def ofMembers (members : List (Text × Json)) : Json :=
  .obj (members.foldl (fun known m => put m.1 m.2 known) [])

/-- The member of an object with a given name. -/
def member? (name : Text) : Json → Option Json
  | .obj members => (members.find? fun m => m.1 = name).map (·.2)
  | _ => none

end Json

end Tidy
