/-
# Tidy.Yaml.Node -- the nodes of a YAML document

The nodes of a document form a graph: each has a number, a full tag and a content, and collections name their nodes
by number. An alias is the number of the node that it names, so that a node may be met many times, also inside
itself. A fault of the text shows when its tokens are reached, and not before.
-/

import Tidy.Yaml.Kind
import Tidy.Yaml.Token

namespace Tidy.Yaml

/-- What a node holds. -/
inductive Content where
  | scalar (t : Text)
  | sequence (items : List Nat)
  | mapping (members : List (Nat × Nat))

/-- A node. -/
structure Node where
  tag : Text
  content : Content

/-- The nodes of a document by their numbers. -/
abbrev Graph := Array Node

namespace Node

/-- The start of the tags of the kinds that are built in. -/
def builtIn : Text := "tag:yaml.org,2002:"

/-- The tag of a built-in kind. -/
def builtInTag (name : Text) : Text :=
  builtIn ++ name

/-- A scalar whose kind is told by its text. -/
def plain (t : Text) : Node :=
  ⟨builtInTag (Kind.ofText t).tag, .scalar t⟩

/-- The tag that stands for the kind that is told by the node itself. -/
def plainTag : Text := "!"

/-- How deep collections may be nested. -/
def nestingLimit : Nat := 485

/-! ## Reading -/

/-- What is known while a document is read: the tokens ahead and what stands after them, the nodes so far, what
anchors name, and what handles mean. -/
structure Reading where
  scan : Scan
  graph : Graph
  anchors : List (Text × Nat)
  handles : List (Text × Text)

/-- A step of reading. -/
abbrev Reader := StateT Reading (Except Fault)

/-- What handles mean where no directive says otherwise. -/
def defaultHandles : List (Text × Text) :=
  [("!", "!"), ("!!", builtIn)]

/-- Refuses the text. -/
def refuse {α : Type} : Reader α :=
  fun _ => .error .malformed

/-- The next token; nothing at the end of the text. -/
def peek : Reader (Option Token) := do
  let scan := (← get).scan
  match scan.tokens, scan.fault with
  | token :: _, _ => return some token
  | [], some fault => throw fault
  | [], none => return none

/-- Drops the next token. -/
def drop : Reader Unit :=
  modify fun r => { r with scan.tokens := r.scan.tokens.drop 1 }

/-- Adds a node, and gives it a name if there is one. -/
def add (anchor : Option Text) (node : Node) : Reader Nat := do
  let number := (← get).graph.size
  let named := (anchor.map fun name => (name, number)).toList
  modify fun r => { r with graph := r.graph.push node, anchors := named ++ r.anchors }
  return number

/-- Adds a node where nothing is written. -/
def addEmpty : Reader Nat :=
  add none (plain [])

/-- Sets the content of a node. -/
def fill (number : Nat) (content : Content) : Reader Unit :=
  modify fun r => { r with graph := r.graph.modify number fun node => { node with content } }

/-- The full tag. -/
def resolveTag (tag : TagName) : Reader Text := do
  match tag.handle with
  | none => return tag.suffix
  | some handle =>
    match (← get).handles.find? (·.1 = handle) with
    | some (_, meaning) => return meaning ++ tag.suffix
    | none => refuse

/-- An anchor and a tag before a node, in either order. -/
def properties : Reader (Option Text × Option Text) := do
  match ← peek with
  | some (.anchor name) =>
    drop
    match ← peek with
    | some (.tag tag) =>
      drop
      return (some name, some (← resolveTag tag))
    | _ => return (some name, none)
  | some (.tag tag) =>
    drop
    match ← peek with
    | some (.anchor name) =>
      drop
      return (some name, some (← resolveTag tag))
    | _ => return (none, some (← resolveTag tag))
  | _ => return (none, none)

/-- Is a block entry, a key, a value or the end of a block next? -/
def blockGoesOn : Option Token → Bool
  | some .key | some .value | some .blockEnd => true
  | _ => false

/-- A scalar. The kind of one without a tag is told by its text if it has no quotes; the plain tag asks for that
in any case. -/
def ofScalar (tag : Option Text) (isPlain : Bool) (t : Text) : Node :=
  match tag with
  | none => if isPlain then plain t else ⟨builtInTag "str", .scalar t⟩
  | some tag => if tag = plainTag then plain t else ⟨tag, .scalar t⟩

/-- The tag of a collection. -/
def collectionTag (tag : Option Text) (kind : Text) : Text :=
  (tag.filter (· ≠ plainTag)).getD (builtInTag kind)

/-- Adds a sequence, whose name is known inside it. -/
def addSequence (anchor tag : Option Text) (items : Reader (List Nat)) : Reader Nat := do
  let number ← add anchor ⟨collectionTag tag "seq", .sequence []⟩
  fill number (.sequence (← items))
  return number

/-- Adds a mapping, whose name is known inside it. -/
def addMapping (anchor tag : Option Text) (members : Reader (List (Nat × Nat))) : Reader Nat := do
  let number ← add anchor ⟨collectionTag tag "map", .mapping []⟩
  fill number (.mapping (← members))
  return number

mutual

/-- The number of the next node, inside of which `room` collections may be nested. Block collections may stand where
`block` is set, and a sequence that is not indented where `bare` is set. -/
def read (limit room : Nat) (block bare : Bool) : Reader Nat := do
  match limit, room with
  | 0, _ => refuse
  | _, 0 => throw .tooDeep
  | limit + 1, room + 1 =>
    match ← peek with
    | some (.alias name) =>
      drop
      match (← get).anchors.find? (·.1 = name) with
      | some (_, number) => return number
      | none => refuse
    | _ =>
      let (anchor, tag) ← properties
      let ahead ← peek
      let known := (← get).anchors
      if anchor.any fun name => known.any (·.1 = name) then refuse
      match ahead with
      | some .blockEntry =>
        if bare then addSequence anchor tag (bareItems limit room) else leaf anchor tag
      | some (.scalar isPlain t) =>
        drop
        add anchor (ofScalar tag isPlain t)
      | some .flowSequence =>
        drop
        addSequence anchor tag (flowItems limit room true)
      | some .flowMapping =>
        drop
        addMapping anchor tag (flowMembers limit room true)
      | some .blockSequence =>
        if block then
          drop
          addSequence anchor tag (blockItems limit room)
        else leaf anchor tag
      | some .blockMapping =>
        if block then
          drop
          addMapping anchor tag (blockMembers limit room)
        else leaf anchor tag
      | _ => leaf anchor tag

/-- A node of which nothing but an anchor or a tag is written. -/
def leaf (anchor tag : Option Text) : Reader Nat := do
  if anchor.isNone && tag.isNone then refuse
  add anchor (ofScalar tag true [])

/-- The items of a block sequence, up to its end. -/
def blockItems (limit room : Nat) : Reader (List Nat) := do
  match limit with
  | 0 => refuse
  | limit + 1 =>
    match ← peek with
    | some .blockEntry =>
      drop
      let item ← match ← peek with
        | some .blockEntry | some .blockEnd => addEmpty
        | _ => read limit room true false
      return item :: (← blockItems limit room)
    | some .blockEnd =>
      drop
      return []
    | _ => refuse

/-- The items of a sequence that is not indented. -/
def bareItems (limit room : Nat) : Reader (List Nat) := do
  match limit with
  | 0 => refuse
  | limit + 1 =>
    match ← peek with
    | some .blockEntry =>
      drop
      let ahead ← peek
      let item ← match ahead with
        | some .blockEntry => addEmpty
        | ahead => if blockGoesOn ahead then addEmpty else read limit room true false
      return item :: (← bareItems limit room)
    | _ => return []

/-- The members of a block mapping, up to its end. -/
def blockMembers (limit room : Nat) : Reader (List (Nat × Nat)) := do
  match limit with
  | 0 => refuse
  | limit + 1 =>
    match ← peek with
    | some .key =>
      drop
      let key ← if blockGoesOn (← peek) then addEmpty else read limit room true true
      let value ← match ← peek with
        | some .value =>
          drop
          if blockGoesOn (← peek) then addEmpty else read limit room true true
        | _ => addEmpty
      return (key, value) :: (← blockMembers limit room)
    | some .blockEnd =>
      drop
      return []
    | _ => refuse

/-- The key and the value after the mark of a key in a flow collection that ends with `close`. -/
def flowPair (limit room : Nat) (isClose : Token → Bool) : Reader (Nat × Nat) := do
  match limit with
  | 0 => refuse
  | limit + 1 =>
    let ends : Option Token → Bool := fun ahead => match ahead with
      | some .flowEntry => true
      | some token => isClose token
      | none => false
    let isValue : Option Token → Bool := fun ahead => match ahead with
      | some .value => true
      | _ => false
    let ahead ← peek
    let key ← if isValue ahead || ends ahead then addEmpty else read limit room false false
    if isValue (← peek) then
      drop
      let value ← if ends (← peek) then addEmpty else read limit room false false
      return (key, value)
    else return (key, ← addEmpty)

/-- The items of a flow sequence, up to its end. A single key makes an item a mapping. -/
def flowItems (limit room : Nat) (first : Bool) : Reader (List Nat) := do
  match limit with
  | 0 => refuse
  | limit + 1 =>
    match ← peek with
    | some .flowSequenceEnd =>
      drop
      return []
    | ahead =>
      unless first do
        match ahead with
        | some .flowEntry => drop
        | _ => refuse
      match ← peek with
      | some .key =>
        drop
        if room = 0 then throw .tooDeep
        let item ← addMapping none none do
          return [← flowPair limit (room - 1) fun token => match token with
            | .flowSequenceEnd => true
            | _ => false]
        return item :: (← flowItems limit room false)
      | some .flowSequenceEnd =>
        drop
        return []
      | _ =>
        let item ← read limit room false false
        return item :: (← flowItems limit room false)

/-- The members of a flow mapping, up to its end. -/
def flowMembers (limit room : Nat) (first : Bool) : Reader (List (Nat × Nat)) := do
  match limit with
  | 0 => refuse
  | limit + 1 =>
    match ← peek with
    | some .flowMappingEnd =>
      drop
      return []
    | ahead =>
      unless first do
        match ahead with
        | some .flowEntry => drop
        | _ => refuse
      match ← peek with
      | some .key =>
        drop
        let member ← flowPair limit room fun token => match token with
          | .flowMappingEnd => true
          | _ => false
        return member :: (← flowMembers limit room false)
      | some .flowMappingEnd =>
        drop
        return []
      | _ =>
        let key ← read limit room false false
        let value ← addEmpty
        return (key, value) :: (← flowMembers limit room false)

end

/-! ## Documents -/

/-- The directives before a document, and what they say. A version and each handle may be named once. -/
def directives (limit : Nat) (versions : Nat) (handles : List (Text × Text)) :
    Reader (List (Text × Text)) := do
  match limit with
  | 0 => refuse
  | limit + 1 =>
    match ← peek with
    | some (.directive d) =>
      drop
      match d with
      | .version major => if versions ≠ 0 || major ≠ 1 then refuse else directives limit 1 handles
      | .handle name meaning =>
        if handles.any (·.1 = name) then refuse
        else directives limit versions ((name, meaning) :: handles)
      | .other => directives limit versions handles
    | _ => return handles ++ defaultHandles

/-- The root of a document that starts with a mark. -/
def markedRoot (limit : Nat) : Reader Nat := do
  match ← peek with
  | none | some (.directive _) | some .documentStart | some .documentEnd => addEmpty
  | _ => read limit nestingLimit true false

/-- The root of the first document of a stream, or nothing if there is no document. -/
def root (limit : Nat) : Reader (Option Nat) := do
  match ← peek with
  | none => return none
  | some (.directive _) | some .documentStart =>
    let handles ← directives limit 0 []
    match ← peek with
    | some .documentStart =>
      drop
      modify fun r => { r with handles }
      return some (← markedRoot limit)
    | _ => refuse
  | _ => return some (← read limit nestingLimit true false)

/-- Checks that no other document follows. What stands before the mark of another document is still read. -/
def endOfStream (limit : Nat) : Reader Unit := do
  match limit with
  | 0 => refuse
  | limit + 1 =>
    match ← peek with
    | none => return
    | some .documentEnd =>
      drop
      endOfStream limit
    | some (.directive _) =>
      let _ ← directives limit 0 []
      let _ ← peek
      refuse
    | some _ => refuse

/-- The document in a text: its nodes and the number of its root, if it has one. -/
def ofText (source : Text) : Except Fault (Graph × Option Nat) := do
  let scan := scan source
  let limit := 3 * scan.tokens.length + 4
  let reader : Reader (Option Nat) := do
    let root ← root limit
    endOfStream limit
    return root
  let (root, reading) ← reader.run ⟨scan, #[], [], defaultHandles⟩
  .ok (reading.graph, root)

end Node

end Tidy.Yaml
