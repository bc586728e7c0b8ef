/-
# Tidy.Settings.File -- preferences from a file

Preferences are kept in a YAML file, which is given or else is one of two files that are searched for. A file
without content sets nothing.
-/

import Tidy.Directory
import Tidy.Settings
import Tidy.Yaml.Document

namespace Tidy.Settings

/-- Why preferences cannot be read. -/
inductive FileFault where
  | notFound (path : Text)
  | inaccessible
  | unparsable (path : Text)
  | notMapping (path : Text)
  | invalid (path : Text) (issues : List Issue)
  | undecodable (fault : Text.Utf8Fault)
  | unreadable (fault : Yaml.Fault)

/-- The words for a fault that is about the file. The others are about its bytes, or about a path that is too long,
and have no words of their own. -/
def FileFault.message? : FileFault → Option Text
  | notFound path => some ("Config file not found: " ++ path)
  | unparsable path => some ("Cannot parse " ++ path)
  | notMapping path => some (path ++ ": expected a mapping at the top level")
  | invalid path _ => some ("Invalid settings in " ++ path)
  | inaccessible | undecodable _ | unreadable _ => none

/-- The names of the files that are searched for. -/
def defaultFiles : List Text := ["formatkit.yml", ".formatkit.yml"]

/-- The content of the file at a path, if there is one. -/
def open? (d : Directory) (path : Text) : Except FileFault (Option (List UInt8)) :=
  if Path.hasZero path then .ok none
  else match d.look path with
    | .file content => .ok (some content)
    | .tooLong => .error .inaccessible
    | _ => .ok none

/-- The first of the files with some names that is found in the directory `base`, with the path that messages
show. -/
def search (d : Directory) (base : Text) : List Text → Except FileFault (Option (Text × List UInt8))
  | [] => .ok none
  | name :: rest => do
    match ← open? d (Path.inside base name) with
    | some content => .ok (some (Path.inside (if base.isEmpty then d.name else base) name, content))
    | none => search d base rest

/-- The file that is read, with the path that messages show; nothing if none is given and none is found. -/
def locate (d : Directory) (given base : Option Text) : Except FileFault (Option (Text × List UInt8)) :=
  match given with
  | some path => do
    match ← open? d (Path.normal path) with
    | some content => .ok (some (Path.normal path, content))
    | none => .error (.notFound (Path.normal path))
  | none => search d (base.getD []) defaultFiles

/-- The record of the fields that a document sets. -/
def record (document : Yaml.Document) : Record :=
  fieldNames.filterMap fun name => (document.get? name).map fun value => (name, value)

/-- The preferences that the content of a file sets. -/
def ofFile (path : Text) (content : List UInt8) : Except FileFault Settings :=
  match Text.ofFile content with
  | .error fault => .error (.undecodable fault)
  | .ok source =>
    match Yaml.read source with
    | .error .malformed => .error (.unparsable path)
    | .error fault => .error (.unreadable fault)
    | .ok .empty => .ok default
    | .ok .other => .error (.notMapping path)
    | .ok document =>
      match check (record document) with
      | .ok settings => .ok settings
      | .error issues => .error (.invalid path issues)

/-- The preferences of the file that is given, or of the first file that is found in the directory `base`. -/
def load (d : Directory) (given base : Option Text) : Except FileFault Settings := do
  match ← locate d given base with
  | none => .ok default
  | some (path, content) => ofFile path content

end Tidy.Settings
