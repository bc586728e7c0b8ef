/-
# Tidy.Main -- the command line

The outer layer of the program: it looks at the files that the arguments may name, runs the program on them and
does what the outcome says.
-/

import Tidy.Cli.Run

namespace Tidy.Main

/-- The paths that an argument may name: itself, or the value of a switch that is attached to it. -/
def candidates (argument : Text) : List Text :=
  let attached := (argument.dropWhile (· ≠ CodePoint.char '=')).drop 1
  [argument, attached, argument.drop 2]

/-- The path of a place. -/
def pathOf (place : List Text) : Text :=
  "/" ++ Text.join "/" place

/-- The place that names lead to from another place, as they are written. -/
def placeFrom (place : List Text) (names : List Text) : List Text :=
  names.foldl (fun place name => if name = Directory.above then place.dropLast else place ++ [name]) place

/-- The places on the way of a path. -/
def placesOf (home : List Text) (path : Text) : List (List Text) :=
  let names := Path.parts path
  let start := if Text.startsWith path "/" then [] else home
  (List.range names.length).map fun n => placeFrom start (names.take (n + 1))

/-- Adds what stands on disk at a place to what a run can see. -/
def observe (d : Directory) (place : List Text) : IO Directory := do
  let path := pathOf place
  match path.toString? with
  | none => return d
  | some s =>
    let location := (← IO.currentDir) / s
    if Path.hasZero path || Directory.isDevice place then return d
    else if ← location.isDir then return { d with folders := place :: d.folders }
    else if ← location.pathExists then
      let content ← IO.FS.readBinFile location
      return { d with files := Directory.put place content.toList d.files }
    else return d

/-- What a run with some arguments can see. -/
def surroundings (arguments : List Text) : IO Directory := do
  let name := Text.ofString (← IO.currentDir).toString
  let home := Path.parts name
  let paths := Settings.defaultFiles ++ arguments.flatMap candidates
  (paths.flatMap (placesOf home)).foldlM observe { name, home, files := [] }

/-- Writes the files that a run has changed. -/
def writeChanges (before after : Directory) : IO Unit := do
  for (place, content) in before.changes after do
    match (pathOf place).toString? with
    | none => pure ()
    | some s => IO.FS.writeBinFile ((← IO.currentDir) / s) ⟨content.toArray⟩

end Tidy.Main

open Tidy in
/-- Runs the program on the arguments of the command line. -/
def main (args : List String) : IO UInt32 := do
  let arguments := args.map Text.ofString
  let d ← Main.surroundings arguments
  let stdin ← IO.getStdin
  let input ← if Cli.readsInput d arguments then stdin.readBinToEnd else pure ByteArray.empty
  let outcome := Cli.run { directory := d, input := input.toList } arguments
  Main.writeChanges d outcome.directory
  (← IO.getStdout).putStr (outcome.output.toString?.getD "")
  (← IO.getStderr).putStr (outcome.errors.toString?.getD "")
  return outcome.exitCode.toUInt32
