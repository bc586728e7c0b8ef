/-
# Tidy.Yaml.Document -- what a YAML document says

A document is empty, or a mapping, or something else. The members of a mapping are looked up by name; of members
with one name the last counts. Values are made only for the members that are asked for: a node that is met inside
itself is a `cycle` there.
-/

import Tidy.Yaml.Survey

namespace Tidy.Yaml

namespace Graph

/-- Adds the value of a member. -/
def putMember (known : List (Value × Value)) (member : Value × Value) : List (Value × Value) :=
  Value.put member.1 member.2 known

/-- The value of a node inside the nodes of `path`. -/
def value (graph : Graph) (limit : Nat) (path : List Nat) (number : Nat) : Except Fault Value := do
  match limit with
  | 0 => .error .malformed
  | limit + 1 =>
    let isMapping := graph.kind? number = some (Text.ofString "map")
    let inner := graph.value limit (number :: path)
    let innerPair := fun (m : Nat × Nat) => do return (← inner m.1, ← inner m.2)
    if !graph.isCollection number then graph.scalarValue number
    else if path.contains number then .ok (.cycle isMapping)
    else
      match (graph.node number).content with
      | .scalar _ => .error .malformed
      | .mapping members =>
        let members ← members.mapM innerPair
        let joined := members.foldl putMember []
        .ok (if isMapping then .map joined else .set (joined.map (·.1)))
      | .sequence items =>
        if graph.kind? number = some (Text.ofString "seq") then return .list (← items.mapM inner)
        else
          let pairs ← (items.flatMap graph.members).mapM innerPair
          .ok (.list (pairs.map fun (first, second) => .pair first second))

end Graph

/-- What a document says. -/
inductive Document where
  | empty
  | mapping (graph : Graph) (members : List (Nat × Nat))
  | other

namespace Document

/-- The document with a root. -/
def ofRoot (graph : Graph) (root : Nat) : Except Fault Document := do
  let graph ← Survey.check graph root
  if graph.kind? root = some (Text.ofString "map") then .ok (.mapping graph (graph.members root))
  else if graph.isCollection root then .ok .other
  else match ← graph.scalarValue root with
    | .null => .ok .empty
    | _ => .ok .other

/-- Is the node a text? -/
def isText (graph : Graph) (name : Text) (number : Nat) : Bool :=
  !graph.isCollection number &&
    match graph.scalarValue number with
    | .ok (.str t) => t = name
    | _ => false

/-- The value of the last member with a name. -/
def get? (document : Document) (name : Text) : Option Value :=
  match document with
  | .mapping graph members =>
    (members.reverse.find? fun m => isText graph name m.1).bind fun m =>
      (graph.value (graph.size + 2) [] m.2).toOption
  | _ => none

end Document

/-- The document in a text. -/
def read (source : Text) : Except Fault Document := do
  match ← Node.ofText source with
  | (_, none) => .ok .empty
  | (graph, some root) => Document.ofRoot graph root

end Tidy.Yaml
