/-
# Tidy.Script.Token -- the tokens of a script

Every text is a sequence of tokens: comments, strings and templates, white space, the increment and decrement
signs, operators, brackets with the comma and the semicolon, and words. A quote without a partner on its line
is a token of its own.
-/

import Tidy.Text.Blank
import Tidy.Text.Enclosed

namespace Tidy.Script

/-- A mark of punctuation. -/
inductive Mark where
  | openBrace
  | closeBrace
  | openParen
  | closeParen
  | openBracket
  | closeBracket
  | semicolon
  | comma
deriving DecidableEq

/-- The character of a mark. -/
def Mark.char : Mark → CodePoint
  | openBrace => '{'
  | closeBrace => '}'
  | openParen => '('
  | closeParen => ')'
  | openBracket => '['
  | closeBracket => ']'
  | semicolon => ';'
  | comma => ','

/-- The mark that a character is. -/
def Mark.ofChar? (c : CodePoint) : Option Mark :=
  [openBrace, closeBrace, openParen, closeParen, openBracket, closeBracket, semicolon, comma].find?
    fun m => m.char = c

/-- A token of a script. -/
inductive Token where
  | lineComment (text : Text)
  | blockComment (text : Text)
  | string (text : Text)
  | gap (text : Text)
  | step (text : Text)
  | operator (text : Text)
  | mark (mark : Mark)
  | word (text : Text)
  | strayQuote (mark : CodePoint)
deriving DecidableEq

namespace Token

/-- The spelling of a token. -/
def text : Token → Text
  | lineComment t => t
  | blockComment t => t
  | string t => t
  | gap t => t
  | step t => t
  | operator t => t
  | mark m => [m.char]
  | word t => t
  | strayQuote q => [q]

/-- A character that starts an operator. -/
def isOperatorChar (c : CodePoint) : Bool :=
  c = '=' || c = '+' || c = '-' || c = '*' || c = '/' || c = '<' || c = '>' || c = '!'

/-- A character that opens a string or a template. -/
def isQuote (c : CodePoint) : Bool :=
  c = '"' || c = '\'' || c = '`'

/-- A code point that continues a word. -/
def isWordPart (c : CodePoint) : Bool :=
  !(c.isBlank || isQuote c || isOperatorChar c || (Mark.ofChar? c).isSome)

/-- The comment that starts with a slash, where `rest` follows the slash. -/
def comment? (rest : Text) : Option (Token × Text) :=
  match rest with
  | [] => none
  | c :: inside =>
    if c = '/' then
      some (.lineComment ('/' :: '/' :: inside.takeWhile (· ≠ CodePoint.newline)),
        inside.dropWhile (· ≠ CodePoint.newline))
    else if c = '*' then
      (Text.readCommentEnd? inside).map fun (body, more) => (.blockComment ('/' :: '*' :: body), more)
    else none

/-- The sign or operator that starts with the operator character `c`, as long as possible. -/
def operatorAt (c : CodePoint) (rest : Text) : Token × Text :=
  match rest with
  | [] => (.operator [c], [])
  | d :: more =>
    if (c = '+' ∧ d = '+') ∨ (c = '-' ∧ d = '-') then (.step [c, d], more)
    else if (c = '=' ∨ c = '!') ∧ d = '=' ∧ more.head? = some (.char '=') then
      (.operator [c, d, '='], more.drop 1)
    else if d = '=' ∨ (c = '=' ∧ d = '>') then (.operator [c, d], more)
    else (.operator [c], rest)

/-- The token that starts with `c`, where `rest` follows `c`, and what is left. -/
def next (c : CodePoint) (rest : Text) : Token × Text :=
  if isQuote c then
    match Text.readStringEnd? c (c ≠ '`') rest with
    | some (body, more) => (.string (c :: body), more)
    | none => (.strayQuote c, rest)
  else if c.isBlank then
    (.gap (c :: rest.takeWhile CodePoint.isBlank), rest.dropWhile CodePoint.isBlank)
  else if isOperatorChar c then
    match (if c = '/' then comment? rest else none) with
    | some found => found
    | none => operatorAt c rest
  else
    match Mark.ofChar? c with
    | some m => (.mark m, rest)
    | none => (.word (c :: rest.takeWhile isWordPart), rest.dropWhile isWordPart)

theorem length_comment?_le {rest : Text} {found : Token × Text} (h : comment? rest = some found) :
    found.2.length ≤ rest.length := by
  unfold comment? at h
  split at h
  · simp at h
  · rename_i c inside
    split at h
    · simp only [Option.some.injEq] at h
      subst h
      exact Nat.le_succ_of_le (List.dropWhile_suffix _).length_le
    · split at h
      · simp only [Option.map_eq_some_iff, Prod.exists] at h
        obtain ⟨b, r, hr, rfl⟩ := h
        exact Nat.le_succ_of_le (Text.length_readCommentEnd?_le hr)
      · simp at h

theorem length_operatorAt_le (c : CodePoint) (rest : Text) :
    (operatorAt c rest).2.length ≤ rest.length := by
  unfold operatorAt
  split
  · exact Nat.le_refl _
  · repeat' split
    all_goals simp only [List.length_cons, List.length_drop]; omega

theorem length_next_le (c : CodePoint) (rest : Text) : (next c rest).2.length ≤ rest.length := by
  unfold next
  split
  · split
    · rename_i h
      exact Text.length_readStringEnd?_le h
    · exact Nat.le_refl _
  · split
    · exact (List.dropWhile_suffix _).length_le
    · split
      · split
        · rename_i h
          split at h
          · exact length_comment?_le h
          · simp at h
        · exact length_operatorAt_le c rest
      · split
        · exact Nat.le_refl _
        · exact (List.dropWhile_suffix _).length_le

/-- The tokens of a text. -/
def all : Text → List Token
  | [] => []
  | c :: rest => (next c rest).1 :: all (next c rest).2
termination_by t => t.length
decreasing_by
  have := length_next_le c rest
  simp only [List.length_cons]
  omega

/-- Is the token white space? -/
def isGap : Token → Bool
  | gap _ => true
  | _ => false

end Token

end Tidy.Script
