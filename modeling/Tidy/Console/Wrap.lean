/-
# Tidy.Console.Wrap -- lines that fit a terminal

A text is wrapped at a width. Words keep the white space after them; a word that does not fit the rest of a line
starts a new line, and one that is wider than a line is cut between clusters. White space at the end of a line is
dropped as far as the line has more code points than columns, and what is still too wide is cut off.
-/

import Tidy.Text.Blank
import Tidy.Text.Column

namespace Tidy.Console

/-- The width of the terminal. -/
def width : Nat := 80

/-- The next word with the white space around it, and the rest. -/
def nextWord (t : Text) : Text × Text :=
  let lead := t.takeWhile CodePoint.isBlank
  let core := (t.drop lead.length).takeWhile (!CodePoint.isBlank ·)
  let trail := (t.drop (lead.length + core.length)).takeWhile CodePoint.isBlank
  let length := lead.length + core.length + trail.length
  (t.take length, t.drop length)

/-- The words of a text, each with the white space after it and the first also with that before it. -/
def words (limit : Nat) (t : Text) : List Text :=
  match limit with
  | 0 => []
  | limit + 1 =>
    if t.isEmpty then []
    else
      let (word, rest) := nextWord t
      word :: words limit rest

/-- The pieces of a word that is cut before each cluster that does not fit; `piece` is begun and takes `used`
columns. -/
def pieces (width : Nat) (piece : Text) (used : Nat) : List Text.Cluster → List Text
  | [] => [piece]
  | cluster :: rest =>
    if width < used + cluster.columns then piece :: pieces width cluster.text cluster.columns rest
    else pieces width (piece ++ cluster.text) (used + cluster.columns) rest

/-- The lines of words, after a line that was begun and takes `used` columns. -/
def fill (width : Nat) (line : Text) (used : Nat) : List Text → List Text
  | [] => [line]
  | word :: rest =>
    let length := (Text.trimEnd word).columns
    if used + length ≤ width then fill width (line ++ word) (used + word.columns) rest
    else if width < length then
      let cut := pieces width [] 0 word.clusters
      let last := cut.getLast?.getD []
      let before := if line.isEmpty then cut.dropLast else line :: cut.dropLast
      before ++ fill width last last.columns rest
    else line :: fill width word word.columns rest

/-- Drops white space at the end of a line, as far as it stands beyond the width. -/
def cropEnd (width : Nat) (line : Text) : Text :=
  let blank := line.length - (Text.trimEnd line).length
  line.take (line.length - min blank (line.length - width))

/-- The clusters that fit a width. A space stands for the part of a cluster that is cut. -/
def cutClusters (width : Nat) : List Text.Cluster → Text
  | [] => []
  | cluster :: rest =>
    if width = 0 then []
    else if cluster.columns ≤ width then cluster.text ++ cutClusters (width - cluster.columns) rest
    else [CodePoint.char ' ']

/-- The part of a line that fits a width. -/
def truncated (width : Nat) (line : Text) : Text :=
  if line.columns ≤ width then line else cutClusters width line.clusters

/-- The distance of tab stops. -/
def tabStop : Nat := 8

/-- Parts of a line that tabs divide, with spaces up to the next tab stop for each tab. -/
def expandTabs (column : Nat) : List Text → Text
  | [] => []
  | [part] => part
  | part :: rest =>
    let begun : Text := part ++ " "
    let column := column + begun.columns
    let free := (tabStop - column % tabStop) % tabStop
    begun ++ Text.spaces free ++ expandTabs (column + free) rest

/-- One line of a text, wrapped. -/
def wrapLine (width : Nat) (t : Text) : List Text :=
  let t := expandTabs 0 (Text.splitAt '\t' t)
  (fill width [] 0 (words (t.length + 1) t)).map fun line => truncated width (cropEnd width line)

/-- A control character that is never shown: the bell, the backspace, the vertical tab, the form feed and the
carriage return. -/
def isHidden (c : CodePoint) : Bool :=
  c.toNat = 0x07 || c.toNat = 0x08 || c.within 0x0B 0x0D

/-- What is written for a message. -/
def shown (t : Text) : Text :=
  let lines := (Text.lines (t.filter (!isHidden ·))).flatMap (wrapLine width)
  Text.join "\n" lines ++ "\n"

end Tidy.Console
