/-
# Tidy.Directory -- the files that a run can see

Files and directories have places: the names on the way from the root. A path is followed name by name, from the
root or from the working directory. What stands before a slash has to be a directory, so a path that ends with a
slash or with a dot names no file. The directory above the root is the root. A directory is known by the files in
it, or because it is always there.
-/

import Tidy.Path
import Tidy.Text.Utf8

namespace Tidy

/-- A working directory, with the files that are seen from it. -/
structure Directory where
  /-- The full path of the directory, as messages show it. -/
  name : Text
  /-- The place of the directory. -/
  home : List Text
  files : List (List Text × List UInt8)
  /-- Directories that are there, whether files stand in them or not. -/
  folders : List (List Text) := []

/-- What a path names. A device has no content, and takes any without keeping it. -/
inductive Found where
  | file (content : List UInt8)
  | device
  | directory
  | missing
  | tooLong
deriving DecidableEq

/-- Why a path leads to no file that could be written. -/
inductive WriteFault where
  | noDirectory
  | underFile
  | isDirectory
  | tooLong
deriving DecidableEq

namespace Directory

/-- The part of a path that leads to the directory above. -/
def above : Text := ".."

/-- The part of a path that leads nowhere else. -/
def here : Text := "."

/-- The most bytes that a name may have. -/
def nameLimit : Nat := 255

/-- The least number of bytes that a path may not have. -/
def pathLimit : Nat := 4096

/-- Directories that every system has, as paths. -/
def usual : List Text :=
  ["/bin", "/dev/shm", "/etc", "/home", "/lib", "/media", "/mnt", "/opt", "/proc", "/root", "/run", "/sbin", "/srv",
   "/sys", "/tmp", "/usr/bin", "/usr/include", "/usr/lib", "/usr/local/bin", "/usr/local/lib", "/usr/local/share",
   "/usr/sbin", "/usr/share", "/var/cache", "/var/lib", "/var/log", "/var/tmp"]

/-- The places of devices, as paths. -/
def devices : List Text := ["/dev/null"]

/-- The content of the file at a place. -/
def file? (d : Directory) (place : List Text) : Option (List UInt8) :=
  (d.files.find? fun f => f.1 = place).map (·.2)

/-- Is there a device at the place? -/
def isDevice (place : List Text) : Bool :=
  devices.any fun path => Path.parts path = place

/-- Is the place a directory? -/
def isDirectory (d : Directory) (place : List Text) : Bool :=
  place.isPrefixOf d.home || d.folders.any (fun folder => place.isPrefixOf folder) ||
    usual.any (fun path => place.isPrefixOf (Path.parts path)) ||
    d.files.any fun f => place.length < f.1.length && place.isPrefixOf f.1

/-- The place that the parts of a path lead to from a place. -/
def walk (d : Directory) (place : List Text) : List Text → Except WriteFault (List Text)
  | [] => .ok place
  | part :: rest =>
    if d.isDirectory place then
      if part.isEmpty || part = here then d.walk place rest
      else if part = above then d.walk place.dropLast rest
      else if nameLimit < part.byteLength then .error .tooLong
      else d.walk (place ++ [part]) rest
    else if (d.file? place).isSome || isDevice place then .error .underFile
    else .error .noDirectory

/-- The place that a path leads to. -/
def place (d : Directory) (path : Text) : Except WriteFault (List Text) :=
  if path.isEmpty then .error .noDirectory
  else if pathLimit ≤ path.byteLength then .error .tooLong
  else d.walk (if Text.startsWith path "/" then [] else d.home) (Text.splitAt Path.slash path)

/-- What a path names. -/
def look (d : Directory) (path : Text) : Found :=
  match d.place path with
  | .error .tooLong => .tooLong
  | .error _ => .missing
  | .ok place =>
    if d.isDirectory place then .directory
    else if isDevice place then .device
    else match d.file? place with
      | some content => .file content
      | none => .missing

/-- Puts a file at a place, in the stead of one that is there. -/
def put (place : List Text) (content : List UInt8) :
    List (List Text × List UInt8) → List (List Text × List UInt8)
  | [] => [(place, content)]
  | f :: rest => if f.1 = place then (place, content) :: rest else f :: put place content rest

/-- The directory after a file was written. -/
def write (d : Directory) (path : Text) (content : List UInt8) : Except WriteFault Directory := do
  let place ← d.place (Path.normal path)
  if d.isDirectory place then .error .isDirectory
  else if isDevice place then .ok d
  else .ok { d with files := put place content d.files }

/-- The files of `after` that are not the same in `before`. -/
def changes (before after : Directory) : List (List Text × List UInt8) :=
  after.files.filter fun f => before.file? f.1 ≠ some f.2

/-- The names that lead from the working directory to a place inside it. -/
def inside? (d : Directory) (place : List Text) : Option (List Text) :=
  if d.home.isPrefixOf place then some (place.drop d.home.length) else none

end Directory

/-- The text of a file: the bytes are UTF-8, and all line ends become line feeds. -/
def Text.ofFile (content : List UInt8) : Except Text.Utf8Fault Text :=
  (Text.ofUtf8 content).map Text.unifyNewlines

end Tidy
