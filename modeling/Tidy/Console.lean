/-
# Tidy.Console -- messages and tables on a terminal

Errors are messages with markup, wrapped at the width of the terminal. A table has a title, a head and rows, and
columns of fixed widths in which the cells are wrapped.
-/

import Tidy.Console.Echo
import Tidy.Console.Markup
import Tidy.Console.Wrap

namespace Tidy.Console

/-- What is written for an error. -/
def error (message : Text) : Except MarkupFault Text :=
  (withoutMarkup ("[bold red]Error:[/] " ++ message)).map shown

/-! ## Tables -/

/-- A text that is filled with spaces to a width. -/
def padded (width : Nat) (t : Text) : Text :=
  t ++ Text.spaces (width - t.columns)

/-- A text in the middle of a line. -/
def centered (width : Nat) (t : Text) : Text :=
  let free := width - t.columns
  Text.spaces (free / 2) ++ t ++ Text.spaces (free - free / 2)

/-- A horizontal rule of a table with columns of some widths. -/
def rule (left line joint right : Char) (widths : List Nat) : Text :=
  let runs : List Text := widths.map fun n => List.replicate (n + 2) (CodePoint.char line)
  CodePoint.char left :: (Text.join [CodePoint.char joint] runs ++ [CodePoint.char right])

/-- One line of the cells of a row. -/
def cellLine (bar : Char) (widths : List Nat) (cells : List Text) : Text :=
  let mark : Text := [CodePoint.char bar]
  let space : Text := " "
  mark ++ (widths.zip cells).flatMap fun (n, cell) => space ++ padded n cell ++ space ++ mark

/-- The lines of a row: each cell is wrapped at the width of its column. -/
def rowLines (bar : Char) (widths : List Nat) (cells : List Text) : List Text :=
  let wrapped := (widths.zip cells).map fun (n, cell) => wrapLine n cell
  let height := wrapped.foldl (fun n lines => max n lines.length) 0
  (List.range height).map fun i => cellLine bar widths (wrapped.map fun lines => lines.getD i [])

/-- A table with a title, a head and rows. -/
def table (title : Text) (widths : List Nat) (head : List Text) (rows : List (List Text)) : Text :=
  let lines : List Text :=
    [centered width title, rule '┏' '━' '┳' '┓' widths] ++ rowLines '┃' widths head ++
      [rule '┡' '━' '╇' '┩' widths] ++ rows.flatMap (rowLines '│' widths) ++
      [rule '└' '─' '┴' '┘' widths]
  lines.flatMap fun line => line ++ "\n"

end Tidy.Console
