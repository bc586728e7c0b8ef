/-
# Tidy.Cli.Run -- a run of the program

A run is a function of the working directory, the standard input and the arguments. Its outcome holds the exit
code, what was written to the two outputs, and the working directory as the run leaves it. A text with a lone
surrogate cannot be written: where a file was asked for, the file is there already, and empty.
-/

import Tidy.Cli.Arguments
import Tidy.Console
import Tidy.Engine
import Tidy.Settings.File

namespace Tidy.Cli

/-- What stops a run in the middle. -/
inductive Crash where
  | unshowable (fault : Console.MarkupFault)
  | undecodable
  | unencodable
  | unwritable (fault : WriteFault)
  | inaccessible
  | zeroInPath
  | unreadable (fault : Yaml.Fault)
deriving DecidableEq

/-- The outcome of a run. -/
structure Outcome where
  exitCode : Nat
  output : Text
  errors : Text
  crash : Option Crash
  directory : Directory

/-- What a run is given. -/
structure Surroundings where
  directory : Directory
  input : List UInt8
  memory : Memory := .process

namespace Outcome

/-- A run that went well. -/
def done (d : Directory) (output : Text) : Outcome :=
  ⟨0, Console.echoed output, [], none, d⟩

/-- A run that was not understood. -/
def misused (d : Directory) (fault : UsageFault) : Outcome :=
  ⟨2, [], Console.echoed fault.report, none, d⟩

/-- A run that was stopped. -/
def crashed (d : Directory) (crash : Crash) : Outcome :=
  ⟨1, [], [], some crash, d⟩

/-- A run that ends with what is shown for an error, if it can be shown. -/
def ended (d : Directory) : Except Console.MarkupFault Text → Outcome
  | .ok errors => ⟨1, [], errors, none, d⟩
  | .error fault => crashed d (.unshowable fault)

/-- A run that ends with an error message. -/
def failed (d : Directory) (message : Text) : Outcome :=
  ended d (Console.error message)

end Outcome

/-- The name for the standard input. -/
def dash : Text := "-"

/-- What is wrong with a path whose file has to be there. -/
def absent (path : Text) : Text :=
  "File " ++ Text.quoted path ++ " does not exist."

/-- What is wrong with a path that is a directory. -/
def isADirectory (path : Text) : Text :=
  "File " ++ Text.quoted path ++ " is a directory."

/-- What is wrong with a word that is none of the languages. -/
def noChoice (word : Text) : Text :=
  Text.quoted word ++ " is not one of " ++ Text.join ", " (Language.all.map fun l => Text.quoted l.tag) ++ "."

/-- Is the word a number? Single underscores may stand between its digits, of which there may not be too many. -/
def isInteger (word : Text) : Bool :=
  let body := Text.trim word
  let digits := match body with
    | '+' :: rest => rest
    | '-' :: rest => rest
    | body => body
  let groups := Text.splitAt '_' digits
  groups.all (fun group => !group.isEmpty && group.all fun c => c.decimalValue?.isSome) &&
    groups.flatten.length ≤ Indent.digitLimit

/-- Why a command line is not acted upon. -/
inductive Stop where
  | usage (fault : UsageFault)
  | crash (crash : Crash)

/-- The outcome for a command line that is not acted upon. -/
def Outcome.stopped (d : Directory) : Stop → Outcome
  | .usage fault => misused d fault
  | .crash crash => crashed d crash

/-- What a path names, if it can be a path. -/
def lookAt (d : Directory) (path : Text) : Except Stop Found :=
  if Path.hasZero path then .error (.crash .zeroInPath) else .ok (d.look path)

/-- Checks the last value of a switch. -/
def checkSwitch (d : Directory) (scope : Scope) (a : Arguments) (switch : Switch) : Except Stop Unit := do
  let value := (a.value? switch).getD []
  let refuse := fun reason => Except.error (.usage (.badValue scope switch.hint reason))
  match switch with
  | .config | .output => if (← lookAt d value) = .directory then refuse (isADirectory value) else .ok ()
  | .language => if (Language.withTag? value).isNone then refuse (noChoice value) else .ok ()
  | .bindPort => if !isInteger value then refuse (Text.quoted value ++ " is not a valid integer.") else .ok ()
  | _ => .ok ()

/-- Checks a path that has to name a file, or the standard input. -/
def checkPath (d : Directory) (scope : Scope) (hint path : Text) : Except Stop Unit := do
  if path = dash then .ok ()
  else match ← lookAt d path with
    | .missing | .tooLong => .error (.usage (.badValue scope hint (absent path)))
    | .directory => .error (.usage (.badValue scope hint (isADirectory path)))
    | .file _ | .device => .ok ()

/-- Checks the argument of a command, and that there is no other. The argument of `sample` has to be there; that
of the other commands is the standard input if it is left out. -/
def checkArgument (d : Directory) (command : Command) (others : List Text) : Except Stop Text := do
  let scope := Scope.command command
  let hint := "'" ++ Scope.argument command ++ "'"
  if !command.hasArgument then
    if others.isEmpty then .ok [] else .error (.usage (.extra scope others))
  else
    let argument ← match command, others.head? with
      | .sample, none => .error (.usage (.missingChoice scope hint (Language.all.map Language.tag)))
      | .sample, some word =>
        if (Language.withTag? word).isNone then .error (.usage (.badValue scope hint (noChoice word))) else .ok word
      | _, none => .ok dash
      | _, some path => do
        checkPath d scope hint path
        .ok path
    if (others.drop 1).isEmpty then .ok argument else .error (.usage (.extra scope (others.drop 1)))

/-! ## Commands -/

/-- The text that a command works on. -/
def readSource (s : Surroundings) (path : Text) : Except Crash Text :=
  let bytes := if path = dash then s.input else match s.directory.look path with
    | .file content => content
    | _ => []
  match Text.ofFile bytes with
  | .ok source => .ok source
  | .error _ => .error .undecodable

/-- The language of a text: the one that is set, else the one that its path tells, else the preferred one. -/
def languageOf (settings : Settings) (path : Text) (given : Option Text) : Language :=
  let told := if path = dash then none else Path.language? path
  ((given.bind Language.withTag?).or told).getD settings.language

/-- Writes a text to a file, with a line feed after it unless it is empty. -/
def writeFile (d : Directory) (path text : Text) : Outcome :=
  let content := if text.isEmpty then some [] else Text.toUtf8? (text ++ "\n")
  match d.write path (content.getD []) with
  | .error fault => .crashed d (.unwritable fault)
  | .ok written =>
    if content.isNone then .crashed written .unencodable
    else ⟨0, [], Console.echoed ("Output written to " ++ path ++ "\n"), none, written⟩

/-- Writes a text to the file that is named, or to the standard output. -/
def emit (d : Directory) (text : Text) (file : Option Text) : Outcome :=
  match file.filter (!·.isEmpty) with
  | some path => writeFile d path text
  | none => if text.hasSurrogate then .crashed d .unencodable else .done d (text ++ "\n")

/-- The width that is asked for, or else the preferred one. -/
def widthOf (settings : Settings) (given : Option Text) : Except Indent.Fault Nat :=
  match given.filter (!·.isEmpty) with
  | some option => Indent.resolve (.str option) (.int settings.tabWidth)
  | none => settings.indentWidth

/-- Formats a file or the standard input. -/
def format (s : Surroundings) (settings : Settings) (a : Arguments) (path : Text) : Outcome :=
  let language := languageOf settings path (a.value? .language)
  match widthOf settings (a.value? .indent) with
  | .error fault => .failed s.directory fault.message
  | .ok width =>
    match readSource s path with
    | .error crash => .crashed s.directory crash
    | .ok source =>
      let result := Engine.format s.memory language width source
      match result.error with
      | some message => .failed s.directory message
      | none =>
        let named := (a.value? .output).filter (!·.isEmpty)
        let saved := if a.isSet .save then some language.defaultFilename else none
        emit s.directory result.text (named.or saved)

/-- The verdict on a document in one line. -/
def verdictLine (language : Language) (verdict : Verdict) : Text :=
  match verdict.error with
  | none => " VALID  Your " ++ language.capitals ++ " code is valid."
  | some message => " INVALID  " ++ message

/-- Validates a file or the standard input. -/
def validate (s : Surroundings) (settings : Settings) (a : Arguments) (path : Text) : Outcome :=
  let language := languageOf settings path (a.value? .language)
  match readSource s path with
  | .error crash => .crashed s.directory crash
  | .ok source =>
    let verdict := Engine.validate language source
    let exitCode := if verdict.isValid then 0 else 1
    ⟨exitCode, Console.shown (verdictLine language verdict), [], none, s.directory⟩

/-- Minifies a file or the standard input. -/
def minify (s : Surroundings) (settings : Settings) (a : Arguments) (path : Text) : Outcome :=
  let language := languageOf settings path (a.value? .language)
  match readSource s path with
  | .error crash => .crashed s.directory crash
  | .ok source =>
    emit s.directory (Engine.minify language settings.minifyFallback source) (a.value? .output)

/-- The table of the languages. -/
def languageTable : Text :=
  let upper := fun (strategy : Strategy) => match strategy with
    | .parser => ("PARSER" : Text)
    | .heuristic => "HEURISTIC"
  let rows := Language.all.map fun l => [l.tag, upper l.strategy, l.description]
  Console.table "Supported Languages" [10, 10, 50] ["Language", "Validation", "Description"] rows ++
    "\n  Heuristic handlers report every non-empty input as valid.\n"

/-- Runs a command whose arguments have been checked. -/
def perform (s : Surroundings) (settings : Settings) (command : Command) (a : Arguments)
    (argument : Text) : Outcome :=
  match command with
  | .format => format s settings a argument
  | .validate => validate s settings a argument
  | .minify => minify s settings a argument
  | .sample =>
    .done s.directory ((Language.withTag? argument).elim [] Engine.sample ++ "\n")
  | .languages => .done s.directory languageTable
  | .server => .done s.directory "Starting formatkit API server...\n"

/-! ## The program -/

/-- The line that tells the version. -/
def versionLine : Text := "cli, version 0.1.0\n"

/-- The page that a switch asks for, before anything else is done. -/
def pageAsked? (scope : Scope) (a : Arguments) : Option Text :=
  a.order.findSome? fun switch => match switch with
    | .help => some scope.page
    | .version => some versionLine
    | _ => none

/-- Reads the arguments of a scope and checks the values of its switches, in the order in which they were set.
A page that is asked for comes first. -/
def understand (d : Directory) (scope : Scope) (arguments : List Text) :
    Except Outcome Arguments :=
  match Arguments.read scope arguments with
  | .error fault => .error (.misused d fault)
  | .ok a =>
    match pageAsked? scope a with
    | some page => .error (.done d page)
    | none =>
      match a.order.forM (checkSwitch d scope a) with
      | .error stop => .error (.stopped d stop)
      | .ok () => .ok a

/-- Runs a command. -/
def runCommand (s : Surroundings) (settings : Settings) (command : Command) (arguments : List Text) :
    Outcome :=
  match understand s.directory (.command command) arguments with
  | .error outcome => outcome
  | .ok a =>
    match checkArgument s.directory command a.others with
    | .error stop => .stopped s.directory stop
    | .ok argument => perform s settings command a argument

/-- The outcome of preferences that cannot be read. -/
def settingsFailed (d : Directory) (fault : Settings.FileFault) : Outcome :=
  match fault with
  | .undecodable _ => .crashed d .undecodable
  | .inaccessible => .crashed d .inaccessible
  | .unreadable fault => .crashed d (.unreadable fault)
  | fault => .failed d (fault.message?.getD [])

/-- The outcome for a name that is no command. What looks like a switch is read as one first. -/
def unknownCommand (d : Directory) (name : Text) (arguments : List Text) : Outcome :=
  let fault := Outcome.misused d (.unknownCommand name)
  if name.head?.any fun c => !c.isAlphanumeric then
    match understand d .program (name :: arguments) with
    | .error outcome => outcome
    | .ok _ => fault
  else fault

/-- Does a run with these arguments read the standard input? -/
def readsInput (d : Directory) (arguments : List Text) : Bool :=
  match understand d .program arguments with
  | .error _ => false
  | .ok a =>
    match a.others with
    | [] => false
    | name :: rest =>
      (Command.named? name).any fun command =>
        match understand d (.command command) rest with
        | .error _ => false
        | .ok a => (checkArgument d command a.others).toOption = some dash

/-- The outcome with single line ends in what was written to the outputs. -/
def Outcome.settled (outcome : Outcome) : Outcome :=
  { outcome with output := Console.singleEnds outcome.output, errors := Console.singleEnds outcome.errors }

/-- Acts on the arguments of the program. -/
def act (s : Surroundings) (arguments : List Text) : Outcome :=
  let d := s.directory
  if arguments.isEmpty then ⟨2, [], Scope.program.page, none, d⟩
  else
    match understand d .program arguments with
    | .error outcome => outcome
    | .ok a =>
      match a.others with
      | [] => .misused d .noCommand
      | name :: rest =>
        match Command.named? name with
        | none => unknownCommand d name rest
        | some command =>
          match Settings.load d (a.value? .config) none with
          | .error fault => settingsFailed d fault
          | .ok settings => runCommand s settings command rest

/-- Runs the program. -/
def run (s : Surroundings) (arguments : List Text) : Outcome :=
  (act s arguments).settled

end Tidy.Cli
