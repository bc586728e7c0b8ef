/-
# Tidy.Xml.Dtd -- what a document type declares

Of the declarations in an internal subset, the check of a document needs the general entities and the default
values of attributes. Parameter entities are not expanded: after the first reference to one, later declarations
may depend on it, so they are passed over unless the document stands alone.
-/

import Tidy.Xml.Fault
import Tidy.Xml.Scan
import Tidy.Xml.PrologToken

namespace Tidy.Xml

/-- A general entity. -/
inductive Entity where
  /-- Declared with its replacement text. -/
  | internal (text : Text)
  /-- Declared with the place where it is found. -/
  | external
  /-- Not XML at all. -/
  | unparsed

/-- A declared attribute: whether its values are kept as they are, and its default value. -/
structure AttributeDefault where
  name : Text
  verbatim : Bool
  value : Option Text

/-- What has been declared. -/
structure Dtd where
  entities : List (Text × Entity) := []
  attributes : List (Text × AttributeDefault) := []
  elements : List Text := []
  /-- The document says that it stands alone. -/
  standalone : Bool := false
  /-- There are declarations that are not read: an external subset or parameter entities. -/
  incomplete : Bool := false
  /-- Declarations still count. -/
  reading : Bool := true

/-- The entity of a name. -/
def Dtd.entity? (dtd : Dtd) (name : Text) : Option Entity :=
  (dtd.entities.find? fun e => e.1 = name).map (·.2)

/-- Does every entity have to be declared? -/
def Dtd.strict (dtd : Dtd) : Bool :=
  !dtd.incomplete || dtd.standalone

/-- The first declaration of an entity counts. -/
def Dtd.declareEntity (dtd : Dtd) (name : Text) (entity : Entity) : Dtd :=
  if dtd.entities.any fun e => e.1 = name then dtd
  else { dtd with entities := dtd.entities ++ [(name, entity)] }

/-- The declared attributes of an element, in order. -/
def Dtd.attributesOf (dtd : Dtd) (element : Text) : List AttributeDefault :=
  (dtd.attributes.filter fun a => a.1 = element).map (·.2)

/-- Declares an attribute. One with a default value, or one that identifies its element, counts only if the
attribute has not been declared before. -/
def Dtd.declareAttribute (dtd : Dtd) (element : Text) (default : AttributeDefault)
    (identifies : Bool) : Dtd :=
  let known := (dtd.attributesOf element).any fun a => a.name = default.name
  if (default.value.isSome || identifies) && known then dtd
  else { dtd with attributes := dtd.attributes ++ [(element, default)] }

/-- The entities that need no declaration, with their characters. -/
def predefined : List (Text × CodePoint) :=
  [("lt", '<'), ("gt", '>'), ("amp", '&'), ("quot", '"'), ("apos", '\'')]

/-- The character of an entity that needs no declaration. -/
def predefined? (name : Text) : Option CodePoint :=
  (predefined.find? fun e => e.1 = name).map (·.2)

/-! ## Values -/

/-- A fault in a value. `place` is what is left of the value, or nothing if the fault counts against the token
that holds the value. -/
structure ValueFault where
  cause : Cause
  place : Option Text

/-- The replacement text of an entity whose declaration holds `s` between quotes: character references are
replaced, references to entities stay, and line ends become line feeds. Parameter entities may not be referred
to. -/
def entityValue : Text → Except ValueFault Text
  | [] => .ok []
  | c :: rest =>
    if c = '&' then
      match scanReference rest with
      | .cut => .error ⟨.invalidToken, some (c :: rest)⟩
      | .invalid place => .error ⟨.invalidToken, some place⟩
      | .found (.entity _) _ => do
        let value ← entityValue rest
        pure (c :: value)
      | .found (.character n) more =>
        if isCharacterNumber n then do
          let value ← entityValue (rest.drop (rest.length - more.length))
          pure (CodePoint.char (Char.ofNat n) :: value)
        else .error ⟨.badCharacterNumber, some (c :: rest)⟩
    else if c = '%' then
      match scanPercent rest with
      | .cut => .error ⟨.invalidToken, some (c :: rest)⟩
      | .invalid place => .error ⟨.invalidToken, some place⟩
      | .found .parameterReference _ => .error ⟨.parameterReference, some (c :: rest)⟩
      | .found _ place => .error ⟨.invalidToken, some place⟩
    else if c = '\r' then do
      let value ← entityValue (if rest.head? = some (.char '\n') then rest.drop 1 else rest)
      pure (CodePoint.newline :: value)
    else do
      let value ← entityValue rest
      pure (c :: value)
termination_by s => s.length
decreasing_by
  all_goals simp only [List.length_cons, List.length_drop]
  · omega
  · omega
  · split <;> (try simp only [List.length_drop]) <;> omega
  · omega

/-- The value of an attribute as it is built: white space that ends it may not be doubled unless the value is kept
verbatim. -/
def appendSpace (verbatim : Bool) (built : Text) : Text :=
  if !verbatim && (built.isEmpty || built.getLast? = some (.char ' ')) then built else built ++ " "

/-- The value of an attribute that is written as `s`, appended to `built`: references are replaced and white
space becomes spaces. `expand` appends the replacement text of an entity. -/
def attributeValueWith (dtd : Dtd) (strict verbatim : Bool)
    (expand : (name : Text) → (text : Text) → (built : Text) → Except Cause Text) :
    (limit : Nat) → (built : Text) → (s : Text) → Except ValueFault Text
  | 0, built, _ => .ok built
  | _ + 1, built, [] => .ok built
  | limit + 1, built, c :: rest =>
    if c = '<' then .error ⟨.invalidToken, some (c :: rest)⟩
    else if c = '&' then
      match scanReference rest with
      | .cut => .error ⟨.invalidToken, some (c :: rest)⟩
      | .invalid place => .error ⟨.invalidToken, some place⟩
      | .found (.character n) more =>
        if !isCharacterNumber n then .error ⟨.badCharacterNumber, some (c :: rest)⟩
        else
          let built :=
            if n = 0x20 then appendSpace verbatim built
            else built ++ [CodePoint.char (Char.ofNat n)]
          attributeValueWith dtd strict verbatim expand limit built more
      | .found (.entity name) more =>
        match predefined? name with
        | some meant => attributeValueWith dtd strict verbatim expand limit (built ++ [meant]) more
        | none =>
          match dtd.entity? name with
          | none =>
            if strict then .error ⟨.undefinedEntity, none⟩
            else attributeValueWith dtd strict verbatim expand limit built more
          | some .unparsed => .error ⟨.binaryEntity, some (c :: rest)⟩
          | some .external => .error ⟨.externalEntityInAttribute, some (c :: rest)⟩
          | some (.internal text) =>
            match expand name text built with
            | .error cause => .error ⟨cause, none⟩
            | .ok built => attributeValueWith dtd strict verbatim expand limit built more
    else if c = '\r' then
      let more := if rest.head? = some (.char '\n') then rest.drop 1 else rest
      attributeValueWith dtd strict verbatim expand limit (appendSpace verbatim built) more
    else if isSpace c then
      attributeValueWith dtd strict verbatim expand limit (appendSpace verbatim built) rest
    else attributeValueWith dtd strict verbatim expand limit (built ++ [c]) rest

/-- Appends the replacement text of an entity to the value of an attribute. `opened` are the entities that are
being replaced; `room` bounds their number. -/
def expandInValue (dtd : Dtd) (strict verbatim : Bool) :
    (room : Nat) → (opened : List Text) → (name text built : Text) → Except Cause Text
  | 0, _, _, _, _ => .error .recursiveEntity
  | room + 1, opened, name, text, built =>
    if opened.contains name then .error .recursiveEntity
    else
      (attributeValueWith dtd strict verbatim (expandInValue dtd strict verbatim room (name :: opened))
        (text.length + 1) built text).mapError (·.cause)

/-- The value of an attribute that is written as `s`, outside all entities but `opened`. Values that are not kept
verbatim do not end in a space. -/
def attributeValue (dtd : Dtd) (strict verbatim : Bool) (opened : List Text) (s : Text) :
    Except ValueFault Text := do
  let room := dtd.entities.length + 1
  let value ← attributeValueWith dtd strict verbatim (expandInValue dtd strict verbatim room opened)
    (s.length + 1) [] s
  pure (if !verbatim && value.getLast? = some (.char ' ') then value.dropLast else value)

end Tidy.Xml
