/-
# Tidy.Yaml.Survey -- are the nodes of a document what their tags say?

The nodes are visited from the root on, each once. A scalar is read when it is met; a collection waits for its turn,
and the nodes inside it are met then, so that of several faults the one nearest to the root shows. When its turn
comes, a mapping takes in the members that are merged into it, and a collection that should name a member is
refused before anyone looks inside it.
-/

import Tidy.Yaml.Meaning
import Tidy.Yaml.Node

namespace Tidy.Yaml

namespace Graph

/-- The node with a number. -/
def node (graph : Graph) (number : Nat) : Node :=
  graph.getD number (.plain [])

/-- The members of a mapping. -/
def members (graph : Graph) (number : Nat) : List (Nat × Nat) :=
  match (graph.node number).content with
  | .mapping members => members
  | _ => []

/-- The kinds of collections. -/
def collectionKinds : List Text := ["map", "seq", "set", "omap", "pairs"]

/-- The built-in kind of a node. -/
def kind? (graph : Graph) (number : Nat) : Option Text :=
  Text.after? Node.builtIn (graph.node number).tag

/-- Is the node tagged as a collection? -/
def isCollection (graph : Graph) (number : Nat) : Bool :=
  (graph.kind? number).any collectionKinds.contains

/-- The text of a scalar. A mapping may hold its text under the sign for its value. -/
def scalarText (graph : Graph) (limit number : Nat) : Except Fault Text :=
  match limit, (graph.node number).content with
  | _, .scalar t => .ok t
  | limit + 1, .mapping members =>
    match members.find? fun m => (graph.node m.1).tag = Node.builtInTag "value" with
    | some m => graph.scalarText limit m.2
    | none => .error .malformed
  | _, _ => .error .malformed

/-- The value of a node that is no collection. -/
def scalarValue (graph : Graph) (number : Nat) : Except Fault Value := do
  match graph.kind? number with
  | none => .error .malformed
  | some kind =>
    let t ← graph.scalarText (graph.size + 1) number
    match (graph.node number).content with
    | .mapping _ => if kind = "timestamp" then .error .noMomentText else Yaml.scalarValue kind t
    | _ => Yaml.scalarValue kind t

end Graph

/-- How far the nodes have been visited. -/
structure Survey where
  graph : Graph
  /-- The nodes that have been met. -/
  met : Array Bool
  /-- The collections that wait for their turn, the last one first. -/
  waiting : List Nat

namespace Survey

/-- A step of a survey. -/
abbrev Surveyor := StateT Survey (Except Fault)

/-- Refuses the document. -/
def refuse {α : Type} : Surveyor α :=
  fun _ => .error .malformed

/-- Changes a node. -/
def alter (number : Nat) (f : Node → Node) : Surveyor Unit :=
  modify fun s => { s with graph := s.graph.modify number f }

/-- Sets the members of a mapping. -/
def setMembers (number : Nat) (members : List (Nat × Nat)) : Surveyor Unit :=
  alter number fun node => { node with content := .mapping members }

/-! ## Merging -/

mutual

/-- Takes the members into a mapping that are merged into it. They stand before its own members, so that its own
members win. The sign for a value counts as a text where it names a member. The members before `index` have been
looked at, and `merged` are to be taken in. -/
def mergeFrom (limit number index : Nat) (merged : List (Nat × Nat)) : Surveyor Unit := do
  match limit with
  | 0 => refuse
  | limit + 1 =>
    let graph := (← get).graph
    let members := graph.members number
    match members[index]? with
    | none => unless merged.isEmpty do setMembers number (merged ++ members)
    | some (key, value) =>
      if (graph.node key).tag = Node.builtInTag "merge" then
        setMembers number (members.eraseIdx index)
        let more ← mergedMembers limit value
        mergeFrom limit number index (merged ++ more)
      else
        if (graph.node key).tag = Node.builtInTag "value" then
          alter key fun node => { node with tag := Node.builtInTag "str" }
        mergeFrom limit number (index + 1) merged

/-- The members that a node merges in: those of a mapping, or those of the mappings of a sequence, of which the
first win. -/
def mergedMembers (limit number : Nat) : Surveyor (List (Nat × Nat)) := do
  match limit with
  | 0 => refuse
  | limit + 1 =>
    match ((← get).graph.node number).content with
    | .scalar _ => refuse
    | .mapping _ =>
      mergeFrom limit number 0 []
      return (← get).graph.members number
    | .sequence items => do
      let groups ← itemMembers limit items
      return groups.reverse.flatten

/-- The members of each of some mappings. -/
def itemMembers (limit : Nat) (items : List Nat) : Surveyor (List (List (Nat × Nat))) := do
  match limit, items with
  | _, [] => return []
  | 0, _ => refuse
  | limit + 1, item :: rest =>
    match ((← get).graph.node item).content with
    | .mapping _ =>
      mergeFrom limit item 0 []
      let members := (← get).graph.members item
      return members :: (← itemMembers limit rest)
    | _ => refuse

end

/-- How many steps a merge may take. -/
def mergeLimit : Nat := 0x20000

/-! ## Visiting -/

/-- Meets a node. -/
def meet (number : Nat) : Surveyor Unit := do
  let s ← get
  unless s.met.getD number false do
    let waiting ←
      if s.graph.isCollection number then pure (number :: s.waiting)
      else do
        let _ ← s.graph.scalarValue number
        pure s.waiting
    set { s with met := s.met.setIfInBounds number true, waiting }

/-- Meets the members of a mapping. What would be a key has to be no collection. -/
def meetMembers : List (Nat × Nat) → Surveyor Unit
  | [] => return
  | (key, value) :: rest => do
    meet key
    if (← get).graph.isCollection key then refuse
    meet value
    meetMembers rest

/-- Meets the items of a sequence each of which has to be a mapping with one member. -/
def meetPairs : List Nat → Surveyor Unit
  | [] => return
  | item :: rest => do
    match ((← get).graph.node item).content with
    | .mapping [(first, second)] =>
      meet first
      meet second
      meetPairs rest
    | _ => refuse

/-- Looks inside a collection. -/
def lookInside (number : Nat) : Surveyor Unit := do
  let graph := (← get).graph
  match graph.kind? number, (graph.node number).content with
  | some kind, .mapping _ =>
    if kind = "map" || kind = "set" then
      mergeFrom mergeLimit number 0 []
      meetMembers ((← get).graph.members number)
    else refuse
  | some kind, .sequence items =>
    if kind = "seq" then items.forM meet
    else if kind = "omap" || kind = "pairs" then meetPairs items
    else refuse
  | _, _ => refuse

/-- Looks inside the collections that wait, and then inside those that wait after that. -/
def rounds (limit : Nat) : Surveyor Unit := do
  match limit with
  | 0 => return
  | limit + 1 =>
    let s ← get
    if s.waiting.isEmpty then return
    else
      set { s with waiting := [] }
      s.waiting.reverse.forM lookInside
      rounds limit

/-- The graph of a document in which all is what it should be, with all members merged in. -/
def check (graph : Graph) (root : Nat) : Except Fault Graph := do
  let surveyor : Surveyor Unit := do
    meet root
    rounds (graph.size + 1)
  let (_, s) ← surveyor.run ⟨graph, Array.replicate graph.size false, []⟩
  .ok s.graph

end Survey

end Tidy.Yaml
