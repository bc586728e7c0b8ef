/-
# Tidy.Cli.Command -- commands, their switches and their pages

Each command has switches and at most one argument. The pages that describe them are laid out for a terminal of
eighty columns.
-/

import Tidy.Language

namespace Tidy.Cli

/-- A command. -/
inductive Command where
  | format
  | languages
  | minify
  | sample
  | server
  | validate
deriving DecidableEq

/-- Something that can be set on the command line. -/
inductive Switch where
  | version
  | verbose
  | config
  | language
  | indent
  | output
  | save
  | host
  | bindPort
  | help
deriving DecidableEq

namespace Switch

/-- The names of a switch. -/
def names : Switch → List Text
  | version => ["--version"]
  | verbose => ["--verbose", "-v"]
  | config => ["--config"]
  | language => ["--language", "-l"]
  | indent => ["--indent", "-i"]
  | output => ["--output", "-o"]
  | save => ["--save"]
  | host => ["--host"]
  | bindPort => ["--port"]
  | help => ["--help"]

/-- Does a value follow the switch? -/
def takesValue : Switch → Bool
  | config | language | indent | output | host | bindPort => true
  | version | verbose | save | help => false

/-- Is the name that of a switch in its long form? -/
def isLong (name : Text) : Bool :=
  Text.startsWith name "--"

/-- The names of a switch in a message. -/
def hint (switch : Switch) : Text :=
  Text.join " / " (switch.names.map fun name => "'" ++ name ++ "'")

end Switch

namespace Command

/-- The commands, in the order in which they are listed. -/
def all : List Command := [format, languages, minify, sample, server, validate]

/-- The name of a command. -/
def name : Command → Text
  | format => "format"
  | languages => "languages"
  | minify => "minify"
  | sample => "sample"
  | server => "server"
  | validate => "validate"

/-- The command of a name. -/
def named? (name : Text) : Option Command :=
  all.find? fun command => command.name = name

/-- Does the command have an argument? -/
def hasArgument : Command → Bool
  | format | minify | sample | validate => true
  | languages | server => false

end Command

/-- Where switches stand: before the command or after it. -/
inductive Scope where
  | program
  | command (c : Command)
deriving DecidableEq

namespace Scope

/-- The switches of a scope. -/
def switches : Scope → List Switch
  | program => [.version, .verbose, .config, .help]
  | command .format => [.language, .indent, .output, .save, .help]
  | command .validate => [.language, .help]
  | command .minify => [.language, .output, .help]
  | command .sample => [.help]
  | command .languages => [.help]
  | command .server => [.host, .bindPort, .help]

/-- The switch of a scope that has a name. -/
def switch? (scope : Scope) (name : Text) : Option Switch :=
  scope.switches.find? fun switch => switch.names.contains name

/-- The long names of the switches of a scope. -/
def longNames (scope : Scope) : List Text :=
  (scope.switches.flatMap Switch.names).filter Switch.isLong

/-- The words that call a scope. -/
def path : Scope → Text
  | program => "cli"
  | command c => "cli " ++ c.name

/-- How the languages are shown as a choice. -/
def languageChoice : Text :=
  Text.join "|" (Language.all.map Language.tag)

/-- How the argument of a command is shown. -/
def argument : Command → Text
  | .format | .validate | .minify => "[PATH]"
  | .sample => "\x7b" ++ languageChoice ++ "\x7d"
  | .languages | .server => []

/-- The line that shows how a scope is used. -/
def usage (scope : Scope) : Text :=
  match scope with
  | program => "Usage: cli [OPTIONS] COMMAND [ARGS]..."
  | command c =>
    let tail : Text := if (argument c).isEmpty then [] else " " ++ argument c
    "Usage: " ++ scope.path ++ " [OPTIONS]" ++ tail

/-! ## Pages -/

/-- One line on a command in the page of the program. -/
def brief : Command → Text
  | .format => "Pretty-print PATH (or stdin)."
  | .languages => "List supported languages and how each is validated."
  | .minify => "Compact PATH (or stdin) onto a single line."
  | .sample => "Print the built-in sample document for LANGUAGE."
  | .server => "Start the formatkit API server."
  | .validate => "Check PATH (or stdin) for well-formedness."

/-- What the page of a scope says first. -/
def summary : Scope → Text
  | program => "formatkit - format, validate and minify JSON, TypeScript, XML, CSS and HTML."
  | command .validate => brief .validate ++ " Exits 1 when invalid."
  | command c => brief c

/-- How a switch is shown in a page. -/
def shownSwitch : Switch → Text
  | .version => "--version"
  | .verbose => "-v, --verbose"
  | .config => "--config FILE"
  | .language => "-l, --language [" ++ languageChoice ++ "]"
  | .indent => "-i, --indent TEXT"
  | .output => "-o, --output FILE"
  | .save => "--save"
  | .host => "--host TEXT"
  | .bindPort => "--port INTEGER"
  | .help => "--help"

/-- The lines on a switch in a page. -/
def switchLines : Switch → List Text
  | .version => ["Show the version and exit."]
  | .verbose => ["Enable debug logging."]
  | .config => ["YAML settings file (default: ./formatkit.yml or", "./.formatkit.yml)."]
  | .language => ["Source language (default: inferred from PATH,", "then settings)."]
  | .indent => ["Indent width: 2, 4, 8, tab or any positive", "number."]
  | .output => ["Write output to file."]
  | .save => ["Write output to formatted.<ext> in the working", "directory."]
  | .host => ["Bind address."]
  | .bindPort => ["Bind port."]
  | .help => ["Show this message and exit."]

/-- The widest first column of a list in a page. -/
def columnLimit : Nat := 30

/-- A list with two columns. A first column that is too wide has a line of its own. -/
def twoColumns (rows : List (Text × List Text)) : List Text :=
  let column := min columnLimit (rows.foldl (fun n row => max n row.1.length) 0)
  let margin := Text.spaces (column + 4)
  rows.flatMap fun (first, lines) =>
    let lead : Text := "  " ++ first
    match lines with
    | [] => [lead]
    | line :: rest =>
      let others := rest.map (margin ++ ·)
      if columnLimit < first.length then lead :: (margin ++ line) :: others
      else (lead ++ Text.spaces (column - first.length + 2) ++ line) :: others

/-- The page of a scope. -/
def page (scope : Scope) : Text :=
  let switches := twoColumns (scope.switches.map fun s => (shownSwitch s, switchLines s))
  let commands : List Text := match scope with
    | program => [] :: "Commands:" :: twoColumns (Command.all.map fun c => (c.name, [brief c]))
    | command _ => []
  let lines := scope.usage :: [] :: (Text.spaces 2 ++ scope.summary) :: [] :: "Options:" :: (switches ++ commands)
  lines.flatMap fun line => line ++ "\n"

end Scope

end Tidy.Cli
