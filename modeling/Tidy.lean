import Tidy.Cli.Arguments
import Tidy.Cli.Command
import Tidy.Cli.Run
import Tidy.Console
import Tidy.Console.Echo
import Tidy.Console.Emoji
import Tidy.Console.EmojiName
import Tidy.Console.Literal
import Tidy.Console.Markup
import Tidy.Console.Style
import Tidy.Console.Wrap
import Tidy.Css.Declaration
import Tidy.Css.Sheet
import Tidy.Css.Token
import Tidy.Directory
import Tidy.Engine
import Tidy.Http.Message
import Tidy.Http.Payload
import Tidy.Http.Service
import Tidy.Http.Target
import Tidy.Indent
import Tidy.Json.Encoding
import Tidy.Json.Fault
import Tidy.Json.Reader
import Tidy.Json.Value
import Tidy.Json.Writer
import Tidy.Language
import Tidy.Layout
import Tidy.Main
import Tidy.Markup.Tag
import Tidy.Number.Arithmetic
import Tidy.Number.Binary64
import Tidy.Number.Shortest
import Tidy.Path
import Tidy.Proofs.Cli.Calls
import Tidy.Proofs.Cli.CommandLine
import Tidy.Proofs.Cli.Files
import Tidy.Proofs.Cli.InPlace
import Tidy.Proofs.Cli.Reports
import Tidy.Proofs.Cli.Rerun
import Tidy.Proofs.Console.Markup
import Tidy.Proofs.Console.Wrap
import Tidy.Proofs.Css.Atoms
import Tidy.Proofs.Css.Breaks
import Tidy.Proofs.Css.Colons
import Tidy.Proofs.Css.Declaration
import Tidy.Proofs.Css.Edits
import Tidy.Proofs.Css.Ending
import Tidy.Proofs.Css.Phrase
import Tidy.Proofs.Css.Punctuation
import Tidy.Proofs.Css.Reading
import Tidy.Proofs.Css.Reformat
import Tidy.Proofs.Css.Separate
import Tidy.Proofs.Css.Statements
import Tidy.Proofs.Css.Tree
import Tidy.Proofs.Css.Verbatim
import Tidy.Proofs.Directory
import Tidy.Proofs.Engine
import Tidy.Proofs.Http.Answers
import Tidy.Proofs.Indent
import Tidy.Proofs.Json.Conformance
import Tidy.Proofs.Json.Faults
import Tidy.Proofs.Json.Found
import Tidy.Proofs.Json.Grammar
import Tidy.Proofs.Json.Literals
import Tidy.Proofs.Json.Reading
import Tidy.Proofs.Json.Scalars
import Tidy.Proofs.Json.Steps
import Tidy.Proofs.Json.Syntax
import Tidy.Proofs.Json.Writing
import Tidy.Proofs.Layout
import Tidy.Proofs.Markup.Lines
import Tidy.Proofs.Markup.Reflow
import Tidy.Proofs.Markup.Reformat
import Tidy.Proofs.Markup.Spacing
import Tidy.Proofs.Markup.Tree
import Tidy.Proofs.Minify
import Tidy.Proofs.Number.Range
import Tidy.Proofs.Number.ReadBack
import Tidy.Proofs.Place
import Tidy.Proofs.Record
import Tidy.Proofs.Request
import Tidy.Proofs.Script.Indentation
import Tidy.Proofs.Script.OneLine
import Tidy.Proofs.Script.Readback
import Tidy.Proofs.Script.Reformat
import Tidy.Proofs.Script.Rows
import Tidy.Proofs.Script.Spacing
import Tidy.Proofs.Script.Tokens
import Tidy.Proofs.Script.Weaving
import Tidy.Proofs.Settings
import Tidy.Proofs.Settings.Usable
import Tidy.Proofs.Settling
import Tidy.Proofs.Text.Collapse
import Tidy.Proofs.Text.Column
import Tidy.Proofs.Text.Digits
import Tidy.Proofs.Text.Enclosed
import Tidy.Proofs.Text.Ink
import Tidy.Proofs.Text.LineEnds
import Tidy.Proofs.Text.Lowercase
import Tidy.Proofs.Text.Split
import Tidy.Proofs.Text.Trim
import Tidy.Proofs.Text.Utf8
import Tidy.Proofs.Text.Whole
import Tidy.Proofs.Width
import Tidy.Proofs.Xml.Content
import Tidy.Proofs.Xml.Declaration
import Tidy.Proofs.Xml.Document
import Tidy.Proofs.Xml.Prolog
import Tidy.Proofs.Xml.PrologToken
import Tidy.Proofs.Xml.Reformat
import Tidy.Proofs.Xml.Remainder
import Tidy.Proofs.Xml.Scanning
import Tidy.Proofs.Xml.Tags
import Tidy.Proofs.Xml.Values
import Tidy.Record.Field
import Tidy.Record.Problem
import Tidy.Request
import Tidy.Script.Layout
import Tidy.Script.Token
import Tidy.Settings
import Tidy.Settings.File
import Tidy.Text.Blank
import Tidy.Text.CodePoint
import Tidy.Text.Column
import Tidy.Text.Digit
import Tidy.Text.Enclosed
import Tidy.Text.Lowercase
import Tidy.Text.Printable
import Tidy.Text.Quoted
import Tidy.Text.Similar
import Tidy.Text.Utf16
import Tidy.Text.Utf32
import Tidy.Text.Utf8
import Tidy.Text.Word
import Tidy.Value
import Tidy.Xml.Character
import Tidy.Xml.Declaration
import Tidy.Xml.Document
import Tidy.Xml.Dtd
import Tidy.Xml.Element
import Tidy.Xml.Encoding
import Tidy.Xml.Fault
import Tidy.Xml.Prolog
import Tidy.Xml.PrologToken
import Tidy.Xml.Scan
import Tidy.Yaml.Cursor
import Tidy.Yaml.Document
import Tidy.Yaml.Kind
import Tidy.Yaml.Meaning
import Tidy.Yaml.Node
import Tidy.Yaml.Scalar
import Tidy.Yaml.Survey
import Tidy.Yaml.Tag
import Tidy.Yaml.Token
