/-
# Tidy.Cli.Arguments -- reading the command line

Arguments are read from left to right. A long switch may have its value after an equals sign, short switches may
be written together, and after two dashes nothing is a switch. Before a command, the first argument that is no
switch ends the reading; after it, switches may stand anywhere.
-/

import Tidy.Cli.Command
import Tidy.Text.Similar
import Tidy.Text.Quoted

namespace Tidy.Cli

/-- Why a command line is not understood. -/
inductive UsageFault where
  | unknownSwitch (scope : Scope) (name : Text)
  | noValue (name : Text)
  | needlessValue (name : Text)
  | badValue (scope : Scope) (hint reason : Text)
  | missingChoice (scope : Scope) (hint : Text) (options : List Text)
  | extra (scope : Scope) (arguments : List Text)
  | unknownCommand (name : Text)
  | noCommand

namespace UsageFault

/-- The scope whose usage is shown with the message. -/
def scope? : UsageFault → Option Scope
  | unknownSwitch scope _ | badValue scope _ _ | missingChoice scope _ _ | extra scope _ => some scope
  | unknownCommand _ | noCommand => some .program
  | noValue _ | needlessValue _ => none

/-- What may have been meant. -/
def suggestion (near : List Text) : Text :=
  match near with
  | [] => []
  | [name] => " Did you mean " ++ Text.quoted name ++ "?"
  | _ =>
    let sorted := near.mergeSort Text.precedes
    " (Did you mean one of: " ++ Text.join ", " (sorted.map Text.quoted) ++ "?)"

/-- The words for a fault. -/
def message : UsageFault → Text
  | unknownSwitch scope name =>
    "No such option " ++ Text.quoted name ++ "." ++
      (if Switch.isLong name then suggestion (Text.closest name scope.longNames) else [])
  | noValue name => "Option " ++ Text.quoted name ++ " requires an argument."
  | needlessValue name => "Option " ++ Text.quoted name ++ " does not take a value."
  | badValue _ hint reason => "Invalid value for " ++ hint ++ ": " ++ reason
  | missingChoice _ hint options =>
    "Missing argument " ++ hint ++ ". Choose from:\n\t" ++ Text.join ",\n\t" options
  | extra _ [argument] => "Got unexpected extra argument (" ++ argument ++ ")"
  | extra _ arguments => "Got unexpected extra arguments (" ++ Text.join " " arguments ++ ")"
  | unknownCommand name =>
    "No such command " ++ Text.quoted name ++ "." ++
      suggestion (Text.closest name (Command.all.map Command.name))
  | noCommand => "Missing command."

/-- What is written for a fault. -/
def report (fault : UsageFault) : Text :=
  let lead : Text := match fault.scope? with
    | some scope => scope.usage ++ "\nTry '" ++ scope.path ++ " --help' for help.\n\n"
    | none => []
  lead ++ "Error: " ++ fault.message ++ "\n"

end UsageFault

/-- A switch that was set, with its value. -/
structure Setting where
  switch : Switch
  value : Text

/-- What a command line sets, in order, and its other arguments. -/
structure Arguments where
  settings : List Setting
  others : List Text

namespace Arguments

/-- Adds settings in front. -/
def prepend (settings : List Setting) (a : Arguments) : Arguments :=
  { a with settings := settings ++ a.settings }

/-- The last value of a switch. -/
def value? (a : Arguments) (switch : Switch) : Option Text :=
  (a.settings.reverse.find? fun s => s.switch = switch).map (·.value)

/-- Is the switch set? -/
def isSet (a : Arguments) (switch : Switch) : Bool :=
  a.settings.any fun s => s.switch = switch

/-- The switches in the order in which they were first set. -/
def order (a : Arguments) : List Switch :=
  a.settings.foldl (fun known s => if known.contains s.switch then known else known ++ [s.switch]) []

/-- What one argument sets. The last switch may still wait for its value. -/
structure Reading where
  settings : List Setting
  /-- The switch that takes the next argument as its value, and the name that was used for it. -/
  waiting : Option (Switch × Text)

/-- A long switch. -/
def readLong (scope : Scope) (argument : Text) : Except UsageFault Reading :=
  let name := argument.takeWhile (· ≠ CodePoint.char '=')
  let attached : Option Text := match argument.drop name.length with
    | [] => none
    | _ :: value => some value
  match scope.switch? name with
  | none => .error (.unknownSwitch scope name)
  | some switch =>
    match switch.takesValue, attached with
    | true, some value => .ok ⟨[⟨switch, value⟩], none⟩
    | true, none => .ok ⟨[], some (switch, name)⟩
    | false, some _ => .error (.needlessValue name)
    | false, none => .ok ⟨[⟨switch, []⟩], none⟩

/-- Short switches that are written together. What follows one that takes a value is its value. -/
def readShort (scope : Scope) : Text → Except UsageFault Reading
  | [] => .ok ⟨[], none⟩
  | c :: rest =>
    let name : Text := ['-', c]
    match scope.switch? name with
    | none => .error (.unknownSwitch scope name)
    | some switch =>
      if switch.takesValue then
        if rest.isEmpty then .ok ⟨[], some (switch, name)⟩ else .ok ⟨[⟨switch, rest⟩], none⟩
      else do
        let more ← readShort scope rest
        .ok { more with settings := ⟨switch, []⟩ :: more.settings }

/-- What an argument that starts with a dash sets. -/
def readSwitch (scope : Scope) (argument : Text) : Except UsageFault Reading :=
  if Switch.isLong argument then readLong scope argument else readShort scope (argument.drop 1)

/-- Reads the arguments of a scope. -/
def read (scope : Scope) : List Text → Except UsageFault Arguments
  | [] => .ok ⟨[], []⟩
  | argument :: rest =>
    if argument = "--" then .ok ⟨[], rest⟩
    else if Text.startsWith argument "-" && 1 < argument.length then
      match readSwitch scope argument with
      | .error fault => .error fault
      | .ok ⟨settings, none⟩ => (read scope rest).map (·.prepend settings)
      | .ok ⟨settings, some (switch, name)⟩ =>
        match rest with
        | [] => .error (.noValue name)
        | value :: rest => (read scope rest).map (·.prepend (settings ++ [⟨switch, value⟩]))
    else if scope = .program then .ok ⟨[], argument :: rest⟩
    else (read scope rest).map fun a => { a with others := argument :: a.others }

end Arguments

end Tidy.Cli
