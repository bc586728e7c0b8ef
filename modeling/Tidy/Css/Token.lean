/-
# Tidy.Css.Token -- the tokens of a style sheet

Every text is a sequence of tokens: comments, strings, white space, the three marks that give a style sheet
its structure, and the text between them. A quote without a partner is a token of its own, and so is a slash.
-/

import Tidy.Text.Blank
import Tidy.Text.Enclosed

namespace Tidy.Css

/-- A token of a style sheet. -/
inductive Token where
  | comment (text : Text)
  | string (text : Text)
  | gap (text : Text)
  | openBrace
  | closeBrace
  | semicolon
  | word (text : Text)
  | strayQuote (mark : CodePoint)
deriving DecidableEq

namespace Token

/-- The spelling of a token. -/
def text : Token → Text
  | comment t => t
  | string t => t
  | gap t => t
  | openBrace => ['{']
  | closeBrace => ['}']
  | semicolon => [';']
  | word t => t
  | strayQuote mark => [mark]

/-- A code point that continues a word. -/
def isWordPart (c : CodePoint) : Bool :=
  !(c.isBlank || c = '"' || c = '\'' || c = '{' || c = '}' || c = ';' || c = '/')

/-- The token that starts with `c`, where `rest` follows `c`, and what is left. -/
def next (c : CodePoint) (rest : Text) : Token × Text :=
  if c = '/' then
    match rest with
    | d :: inside =>
      if d = '*' then
        match Text.readCommentEnd? inside with
        | some (body, more) => (.comment (c :: d :: body), more)
        | none => (.word [c], rest)
      else (.word [c], rest)
    | [] => (.word [c], rest)
  else if c = '"' || c = '\'' then
    match Text.readStringEnd? c false rest with
    | some (body, more) => (.string (c :: body), more)
    | none => (.strayQuote c, rest)
  else if c.isBlank then
    (.gap (c :: rest.takeWhile CodePoint.isBlank), rest.dropWhile CodePoint.isBlank)
  else if c = '{' then (.openBrace, rest)
  else if c = '}' then (.closeBrace, rest)
  else if c = ';' then (.semicolon, rest)
  else (.word (c :: rest.takeWhile isWordPart), rest.dropWhile isWordPart)

theorem length_next_le (c : CodePoint) (rest : Text) : (next c rest).2.length ≤ rest.length := by
  unfold next
  split
  · split
    · split
      · split
        · rename_i h
          exact Nat.le_succ_of_le (Text.length_readCommentEnd?_le h)
        · exact Nat.le_refl _
      · exact Nat.le_refl _
    · exact Nat.le_refl _
  · split
    · split
      · rename_i h
        exact Text.length_readStringEnd?_le h
      · exact Nat.le_refl _
    · repeat' split
      all_goals first
        | exact (List.dropWhile_suffix _).length_le
        | exact Nat.le_refl _

/-- The tokens of a text. -/
def all : Text → List Token
  | [] => []
  | c :: rest => (next c rest).1 :: all (next c rest).2
termination_by t => t.length
decreasing_by
  have := length_next_le c rest
  simp only [List.length_cons]
  omega

end Token

end Tidy.Css
