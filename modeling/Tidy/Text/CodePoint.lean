/-
# Tidy.Text.CodePoint -- text as a sequence of code points

Documents are read, rearranged and written code point by code point. A JSON escape may name one half
of a surrogate pair, so a text can hold surrogates that stand alone; `CodePoint` has them beside the
characters, and `Text` is a plain list of code points, so that every list operation and every lemma
on lists applies to texts.
-/

namespace Tidy

/-- A code point: a character, or one of the 2048 surrogates (`surrogate u` is `U+D800 + u`). -/
inductive CodePoint where
  | char (c : Char)
  | surrogate (unit : Fin 2048)
deriving DecidableEq, Inhabited

/-- A text is a list of code points. -/
abbrev Text := List CodePoint

instance : Coe Char CodePoint := ⟨CodePoint.char⟩

namespace CodePoint

/-- The line feed. -/
def newline : CodePoint := '\n'

/-- The number of a code point. -/
def toNat : CodePoint → Nat
  | char c => c.toNat
  | surrogate u => 0xD800 + u.val

/-- The character that the code point is, if it is one. -/
def toChar? : CodePoint → Option Char
  | char c => some c
  | surrogate _ => none

/-- Does the code point stand for half of a surrogate pair? -/
def isSurrogate : CodePoint → Bool
  | char _ => false
  | surrogate _ => true

/-- The code point of a number below `0x110000`. -/
def ofNat? (n : Nat) : Option CodePoint :=
  if n.isValidChar then some (char (Char.ofNat n))
  else if 0xD800 ≤ n ∧ n < 0xE000 then some (surrogate (Fin.ofNat 2048 (n - 0xD800)))
  else none

/-- The code point of a number that is known to be one. -/
def ofNat (n : Nat) : CodePoint :=
  (ofNat? n).getD (Char.ofNat 0xFFFD)

/-- Is the number the first half of a surrogate pair? -/
def isHigh (n : Nat) : Bool :=
  0xD800 ≤ n && n < 0xDC00

/-- Is the number the second half of a surrogate pair? -/
def isLow (n : Nat) : Bool :=
  0xDC00 ≤ n && n < 0xE000

/-- The code point that a surrogate pair writes. -/
def ofPair (high low : Nat) : CodePoint :=
  ofNat (0x10000 + (high - 0xD800) * 0x400 + (low - 0xDC00))

/-- Is the number of `c` in the inclusive range from `lo` to `hi`? -/
def within (lo hi : Nat) (c : CodePoint) : Bool :=
  lo ≤ c.toNat && c.toNat ≤ hi

/-- Is the number of `c` in one of the inclusive ranges of `table`? -/
def inTable (table : List (Nat × Nat)) (c : CodePoint) : Bool :=
  table.any fun range => c.within range.1 range.2

/-- One of `0` to `9`. -/
def isAsciiDigit (c : CodePoint) : Bool :=
  c.within 0x30 0x39

/-- One of `a` to `z` and `A` to `Z`. -/
def isAsciiLetter (c : CodePoint) : Bool :=
  c.within 0x41 0x5A || c.within 0x61 0x7A

/-- The value of a hexadecimal digit in either case. -/
def hexValue? (c : CodePoint) : Option Nat :=
  if c.within 0x30 0x39 then some (c.toNat - 0x30)
  else if c.within 0x41 0x46 then some (c.toNat - 0x41 + 10)
  else if c.within 0x61 0x66 then some (c.toNat - 0x61 + 10)
  else none

/-- The value of a decimal ASCII digit; other code points count as zero. -/
def asciiDigitValue (c : CodePoint) : Nat :=
  if c.isAsciiDigit then c.toNat - 0x30 else 0

end CodePoint

namespace Text

/-- The text of a string. -/
def ofString (s : String) : Text :=
  s.toList.map CodePoint.char

instance : Coe String Text := ⟨ofString⟩

/-- The string of a text, if no surrogate stands in it. -/
def toString? (t : Text) : Option String :=
  (t.mapM CodePoint.toChar?).map String.ofList

/-- Does a surrogate stand in the text? -/
def hasSurrogate (t : Text) : Bool :=
  t.any CodePoint.isSurrogate

/-- Does the first text stand before the second, or equal it, in the order of code points? -/
def precedes : Text → Text → Bool
  | [], _ => true
  | _ :: _, [] => false
  | a :: s, b :: t => a.toNat < b.toNat || (a = b && precedes s t)

/-- Texts with `separator` between each two. -/
def join (separator : Text) : List Text → Text
  | [] => []
  | [t] => t
  | t :: rest => t ++ separator ++ join separator rest

/-- The parts of a text between its occurrences of `mark`; there is always at least one part. -/
def splitAt (mark : CodePoint) : Text → List Text
  | [] => [[]]
  | c :: rest =>
    if c = mark then [] :: splitAt mark rest
    else match splitAt mark rest with
      | [] => [[c]]
      | line :: lines => (c :: line) :: lines

/-- The lines of a text, cut at line feeds. -/
def lines (t : Text) : List Text :=
  splitAt CodePoint.newline t

/-- The text after `lead`, if `t` starts with `lead`. -/
def after? : (lead : Text) → (t : Text) → Option Text
  | [], t => some t
  | _ :: _, [] => none
  | a :: lead, c :: t => if a = c then after? lead t else none

theorem length_after? {lead t rest : Text} (h : after? lead t = some rest) :
    t.length = lead.length + rest.length := by
  induction lead generalizing t with
  | nil =>
    simp only [after?, Option.some.injEq] at h
    simp [h]
  | cons a lead ih =>
    cases t with
    | nil => simp [after?] at h
    | cons c t =>
      simp only [after?] at h
      split at h
      · have := ih h
        simp only [List.length_cons]
        omega
      · simp at h

/-- Does `t` start with `lead`? -/
def startsWith (t lead : Text) : Bool :=
  (after? lead t).isSome

/-- Does `t` end with `tail`? -/
def endsWith (t tail : Text) : Bool :=
  startsWith t.reverse tail.reverse

/-- Does `part` occur in the text as a block? -/
def hasBlock (part : Text) : Text → Bool
  | [] => part.isEmpty
  | c :: rest => startsWith (c :: rest) part || hasBlock part rest

/-- A run of `n` spaces. -/
def spaces (n : Nat) : Text :=
  List.replicate n (CodePoint.char ' ')

/-- The decimal digits of a natural number. -/
def ofNat (n : Nat) : Text :=
  (Nat.toDigits 10 n).map CodePoint.char

/-- The decimal digits of an integer, with a minus sign below zero. -/
def ofInt : Int → Text
  | .ofNat n => ofNat n
  | .negSucc n => '-' :: ofNat (n + 1)

/-- The number that a row of ASCII digits writes in base ten. -/
def decimalValue (digits : Text) : Nat :=
  digits.foldl (fun n c => n * 10 + c.asciiDigitValue) 0

/-- The number that a row of hexadecimal digits writes. -/
def hexadecimalValue (digits : Text) : Nat :=
  digits.foldl (fun n c => n * 16 + c.hexValue?.getD 0) 0

/-- Lower-case hexadecimal digits of `n`, filled with zeros to `width`. -/
def hex (width n : Nat) : Text :=
  let digits := (Nat.toDigits 16 n).map CodePoint.char
  List.replicate (width - digits.length) (CodePoint.char '0') ++ digits

end Text

end Tidy
