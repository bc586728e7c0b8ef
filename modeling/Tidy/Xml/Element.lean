/-
# Tidy.Xml.Element -- start tags, attributes and namespaces

A start tag names an element and its attributes, may bind prefixes to namespaces, and takes the default values
of the attributes that it leaves out. No attribute may occur twice, neither under one spelling nor under two
prefixes of one namespace, and every prefix has to be bound.
-/

import Tidy.Xml.Dtd

namespace Tidy.Xml

/-- The namespaces of the prefixes that are bound, the innermost binding first. -/
abbrev Scope := List (Text × Text)

/-- The namespace that the prefix `xml` always has. -/
def xmlNamespace : Text := "http://www.w3.org/XML/1998/namespace"

/-- The namespace of namespace declarations. -/
def xmlnsNamespace : Text := "http://www.w3.org/2000/xmlns/"

/-- The scope outside all elements. -/
def outerScope : Scope := [("xml", xmlNamespace)]

/-- The namespace of a prefix. -/
def Scope.find? (scope : Scope) (lead : Text) : Option Text :=
  (List.find? (fun b => b.1 = lead) scope).map (·.2)

/-- The prefix and the local part of a name with a colon. -/
def splitName? (name : Text) : Option (Text × Text) :=
  match name.dropWhile (· ≠ CodePoint.char ':') with
  | [] => none
  | _ :: part => some (name.takeWhile (· ≠ CodePoint.char ':'), part)

/-- What an attribute name declares. -/
inductive Declares where
  | defaultNamespace
  | namespaceOf (lead : Text)
  | nothing

/-- What an attribute name declares. -/
def declares (name : Text) : Declares :=
  if name = "xmlns" then .defaultNamespace
  else
    match Text.after? "xmlns:" name with
    | some lead => .namespaceOf lead
    | none => .nothing

/-- Checks that a prefix, or the default if there is none, may be bound to a namespace. -/
def checkBinding (lead : Option Text) (namespaceName : Text) : Except Cause Unit :=
  if namespaceName = [] ∧ lead.isSome then .error .undeclaredPrefix
  else if lead = some "xmlns" then .error .reservedXmlns
  else if namespaceName.any (· = ' ') then .error .syntaxError
  else if lead = some "xml" then
    if namespaceName = xmlNamespace then .ok () else .error .reservedXml
  else if namespaceName = xmlNamespace ∨ namespaceName = xmlnsNamespace then
    .error .reservedNamespace
  else .ok ()

/-- The scope after an attribute with a value. -/
def bindAttribute (scope : Scope) (name value : Text) : Except Cause Scope :=
  match declares name with
  | .nothing => .ok scope
  | .defaultNamespace => do
    checkBinding none value
    pure scope
  | .namespaceOf lead => do
    checkBinding (some lead) value
    pure ((lead, value) :: scope)

/-- Is the attribute a namespace declaration? -/
def declaresNamespace (name : Text) : Bool :=
  match declares name with
  | .nothing => false
  | _ => true

/-- Are values of the attribute kept verbatim? They are unless the attribute is declared otherwise. -/
def keepsVerbatim (declared : List AttributeDefault) (name : Text) : Bool :=
  match declared.find? fun a => a.name = name with
  | some a => a.verbatim
  | none => true

/-- Checks the attributes of a tag one by one, and binds the prefixes that they declare. `tag` is the place of
the tag and `seen` holds the names so far. -/
def checkAttributes (dtd : Dtd) (opened : List Text) (declared : List AttributeDefault) (tag : Text) :
    Scope → (seen : List Text) → List Attribute → Except Fault Scope
  | scope, _, [] => .ok scope
  | scope, seen, a :: rest =>
    if seen.contains a.name then .error (.malformed .duplicateAttribute a.place)
    else
      match attributeValue dtd dtd.strict (keepsVerbatim declared a.name) opened a.value with
      | .error fault =>
        .error (.malformed fault.cause (match fault.place with
          | none => tag
          | some left => a.valuePlace.drop (a.value.length - left.length)))
      | .ok value =>
        match bindAttribute scope a.name value with
        | .error cause => .error (.malformed cause tag)
        | .ok scope => checkAttributes dtd opened declared tag scope (a.name :: seen) rest

/-- Binds the prefixes that default values declare. -/
def bindDefaults (tag : Text) : Scope → List (Text × Text) → Except Fault Scope
  | scope, [] => .ok scope
  | scope, (name, value) :: rest =>
    match bindAttribute scope name value with
    | .error cause => .error (.malformed cause tag)
    | .ok scope => bindDefaults tag scope rest

/-- Checks that the prefixes of attribute names are bound, and that no two names are the same name of one
namespace. -/
def checkQualified (scope : Scope) (tag : Text) :
    (seen : List (Text × Text)) → List Text → Except Fault Unit
  | _, [] => .ok ()
  | seen, name :: rest =>
    match splitName? name with
    | none => checkQualified scope tag seen rest
    | some (lead, part) =>
      match scope.find? lead with
      | none => .error (.malformed .unboundPrefix tag)
      | some namespaceName =>
        if seen.contains (namespaceName, part) then .error (.malformed .duplicateAttribute tag)
        else checkQualified scope tag ((namespaceName, part) :: seen) rest

/-- The defaults that a tag with the attributes `given` takes. -/
def defaultsFor (declared : List AttributeDefault) (given : List Text) : List (Text × Text) :=
  declared.filterMap fun a =>
    match a.value with
    | some value => if given.contains a.name then none else some (a.name, value)
    | none => none

/-- Checks a start tag at the place `tag`, and gives the scope inside its element. -/
def checkStartTag (dtd : Dtd) (opened : List Text) (scope : Scope) (tag : Text) (start : StartTag) :
    Except Fault Scope := do
  let declared := dtd.attributesOf start.name
  let given := start.attributes.map (·.name)
  let defaults := defaultsFor declared given
  let scope ← checkAttributes dtd opened declared tag scope [] start.attributes
  let scope ← bindDefaults tag scope defaults
  let names := (given ++ defaults.map (·.1)).filter fun name => !declaresNamespace name
  checkQualified scope tag [] names
  match splitName? start.name with
  | none => pure scope
  | some (lead, _) =>
    if (scope.find? lead).isSome then pure scope else .error (.malformed .unboundPrefix tag)

end Tidy.Xml
