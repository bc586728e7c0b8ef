/-
# Tidy.Json.Reader -- reading JSON

One function a construct of the grammar. Each takes the text from its construct on and gives back the value
with a rest that is shorter, which is why the reader ends. `Dialect.strict` is JSON proper; `Dialect.open`
also takes the constants `NaN`, `Infinity` and `-Infinity` and lets numbers overflow to infinity.
-/

import Tidy.Json.Encoding
import Tidy.Json.Fault
import Tidy.Json.Value

namespace Tidy.Json

/-- What a reader takes beyond the grammar. -/
structure Dialect where
  constants : Bool

/-- JSON proper. -/
def Dialect.strict : Dialect := ⟨false⟩

/-- JSON with constants for the numbers that are not finite. -/
def Dialect.relaxed : Dialect := ⟨true⟩

/-- How many arrays and objects may be open at once. -/
def nestingLimit : Nat := 980

/-- A value read from the start of `s`, and a rest that is shorter. -/
structure Read (α : Type) (s : Text) where
  value : α
  rest : Text
  shorter : rest.length < s.length

/-! ## White space -/

/-- The white space of the JSON grammar. -/
def isGap (c : CodePoint) : Bool :=
  c = ' ' || c = '\t' || c = '\n' || c = '\r'

/-- Drops white space at the start. -/
def skipGap (s : Text) : Text :=
  s.dropWhile isGap

theorem length_skipGap_le (s : Text) : (skipGap s).length ≤ s.length :=
  (List.dropWhile_suffix isGap).length_le

/-! ## Strings -/

/-- What a backslash and one more character stand for. -/
def simpleEscape? (c : CodePoint) : Option CodePoint :=
  if c = '"' || c = '\\' || c = '/' then some c
  else if c = 'b' then some (Char.ofNat 0x08)
  else if c = 'f' then some (Char.ofNat 0x0C)
  else if c = 'n' then some '\n'
  else if c = 'r' then some '\r'
  else if c = 't' then some '\t'
  else none

/-- The number that four hexadecimal digits write. -/
def hexNumber? (a b c d : CodePoint) : Option Nat := do
  let a ← a.hexValue?
  let b ← b.hexValue?
  let c ← c.hexValue?
  let d ← d.hexValue?
  pure (a * 0x1000 + b * 0x100 + c * 0x10 + d)

/-- Four hexadecimal digits; at least one more code point has to follow them. -/
def readUnit? : (s : Text) → Option (Read Nat s)
  | a :: b :: c :: d :: next :: rest =>
    (hexNumber? a b c d).map fun n => ⟨n, next :: rest, by simp⟩
  | _ => none

/-- What stands for the code unit `n` whose escape is followed by `rest`: a high surrogate joins with the
escape of a low one. -/
def readPair (n : Nat) (rest : Text) : Except Fault (CodePoint × Text) :=
  if CodePoint.isHigh n then
    match rest with
    | b :: u :: more =>
      if b = '\\' ∧ u = 'u' then
        match readUnit? more with
        | none => .error (.lies .unicodeEscape (u :: more))
        | some low =>
          if CodePoint.isLow low.value then
            .ok (CodePoint.ofPair n low.value, low.rest)
          else .ok (CodePoint.ofNat n, rest)
      else .ok (CodePoint.ofNat n, rest)
    | _ => .ok (CodePoint.ofNat n, rest)
  else .ok (CodePoint.ofNat n, rest)

theorem length_readPair_le {n : Nat} {rest : Text} {r : CodePoint × Text}
    (h : readPair n rest = .ok r) : r.2.length ≤ rest.length := by
  unfold readPair at h
  split at h
  · split at h
    · split at h
      · split at h
        · simp at h
        · rename_i low _
          have := low.shorter
          split at h <;> (injection h with h; subst h; simp only [List.length_cons]; omega)
      · injection h with h; subst h; exact Nat.le_refl _
    · injection h with h; subst h; exact Nat.le_refl _
  · injection h with h; subst h; exact Nat.le_refl _

/-- An escape after its backslash. `opening` is the text from the quote that opens the string. -/
def readEscape (opening : Text) : (s : Text) → Except Fault (Read CodePoint s)
  | [] => .error (.lies .unterminated opening)
  | e :: rest =>
    if e = 'u' then
      match readUnit? rest with
      | none => .error (.lies .unicodeEscape (e :: rest))
      | some unit =>
        match h : readPair unit.value unit.rest with
        | .error fault => .error fault
        | .ok (c, more) =>
          .ok ⟨c, more, by
            have := length_readPair_le h
            have := unit.shorter
            simp at *
            omega⟩
    else
      match simpleEscape? e with
      | some meant => .ok ⟨meant, rest, by simp⟩
      | none => .error (.lies .escape ('\\' :: e :: rest))

/-- The rest of a string after its opening quote. `opening` is the text from that quote on. -/
def readString (opening : Text) (s : Text) : Except Fault (Read Text s) :=
  match s with
  | [] => .error (.lies .unterminated opening)
  | c :: rest =>
    if c = '"' then .ok ⟨[], rest, by simp⟩
    else if c = '\\' then
      match readEscape opening rest with
      | .error fault => .error fault
      | .ok escape =>
        have := escape.shorter
        match readString opening escape.rest with
        | .error fault => .error fault
        | .ok more =>
          .ok ⟨escape.value :: more.value, more.rest, by
            have := more.shorter
            simp only [List.length_cons]
            omega⟩
    else if c.toNat < 0x20 then .error (.lies .control (c :: rest))
    else
      match readString opening rest with
      | .error fault => .error fault
      | .ok more =>
        .ok ⟨c :: more.value, more.rest, by
          have := more.shorter
          simp only [List.length_cons]
          omega⟩
termination_by s.length
decreasing_by
  · simp only [List.length_cons]
    omega
  · simp

/-! ## Numbers -/

/-- A number literal, cut into its parts. `fraction` is empty if there is none. -/
structure Numeral where
  negative : Bool
  whole : Text
  fraction : Text
  exponent : Option (CodePoint × Text × Text)

/-- The spelling of a number literal. -/
def Numeral.literal (n : Numeral) : Text :=
  let sign : Text := if n.negative then "-" else []
  let fraction : Text := if n.fraction.isEmpty then [] else "." ++ n.fraction
  let exponent : Text := match n.exponent with
    | none => []
    | some (mark, sign, digits) => mark :: (sign ++ digits)
  sign ++ n.whole ++ fraction ++ exponent

/-- Digits at the start, and what follows them. -/
def readDigits (s : Text) : Text × Text :=
  (s.takeWhile CodePoint.isAsciiDigit, s.dropWhile CodePoint.isAsciiDigit)

/-- The whole part of a literal: a zero, or digits that do not start with a zero. -/
def readWhole? : Text → Option (Text × Text)
  | [] => none
  | c :: rest =>
    if c = '0' then some ([c], rest)
    else if c.isAsciiDigit then some (c :: (readDigits rest).1, (readDigits rest).2)
    else none

/-- The fraction part of a literal: a point and at least one digit, or nothing. -/
def readFraction : Text → Text × Text
  | c :: d :: rest =>
    if c = '.' ∧ d.isAsciiDigit then readDigits (d :: rest) else ([], c :: d :: rest)
  | s => ([], s)

/-- A sign at the start, or nothing. -/
def readSign : Text → Text × Text
  | [] => ([], [])
  | c :: rest => if c = '+' ∨ c = '-' then ([c], rest) else ([], c :: rest)

/-- The exponent part of a literal: a mark, a sign or none, and at least one digit, or nothing. -/
def readExponent (s : Text) : Option (CodePoint × Text × Text) × Text :=
  match s with
  | [] => (none, s)
  | mark :: rest =>
    if mark = 'e' ∨ mark = 'E' then
      let (sign, unsigned) := readSign rest
      let (digits, more) := readDigits unsigned
      if digits.isEmpty then (none, s) else (some (mark, sign, digits), more)
    else (none, s)

/-- A number literal at the start, as long as possible. -/
def readNumeral? (s : Text) : Option (Numeral × Text) :=
  let (negative, unsigned) : Bool × Text := match s with
    | [] => (false, [])
    | c :: rest => if c = '-' then (true, rest) else (false, c :: rest)
  (readWhole? unsigned).map fun (whole, rest) =>
    let (fraction, rest) := readFraction rest
    let (exponent, rest) := readExponent rest
    (⟨negative, whole, fraction, exponent⟩, rest)

theorem length_readDigits_le (s : Text) : (readDigits s).2.length ≤ s.length := by
  exact (List.dropWhile_suffix _).length_le

theorem length_readWhole?_lt {s whole rest : Text} (h : readWhole? s = some (whole, rest)) :
    rest.length < s.length := by
  unfold readWhole? at h
  split at h
  · simp at h
  · rename_i c tail
    have := length_readDigits_le tail
    split at h
    · simp only [Option.some.injEq, Prod.mk.injEq] at h
      simp [← h.2]
    · split at h
      · simp only [Option.some.injEq, Prod.mk.injEq] at h
        simp only [← h.2, List.length_cons]
        omega
      · simp at h

theorem length_readFraction_le (s : Text) : (readFraction s).2.length ≤ s.length := by
  unfold readFraction
  split
  · split
    · exact Nat.le_trans (length_readDigits_le _) (by simp)
    · exact Nat.le_refl _
  · exact Nat.le_refl _

theorem length_readSign_le (s : Text) : (readSign s).2.length ≤ s.length := by
  unfold readSign
  split
  · exact Nat.le_refl _
  · split <;> simp

theorem length_readExponent_le (s : Text) : (readExponent s).2.length ≤ s.length := by
  unfold readExponent
  split
  · exact Nat.le_refl _
  · rename_i mark rest
    have h₁ := length_readSign_le rest
    have h₂ := length_readDigits_le (readSign rest).2
    split
    · dsimp only
      split
      · exact Nat.le_refl _
      · simp only [List.length_cons]
        omega
    · exact Nat.le_refl _

theorem length_readNumeral?_lt {s rest : Text} {n : Numeral} (h : readNumeral? s = some (n, rest)) :
    rest.length < s.length := by
  unfold readNumeral? at h
  simp only [Option.map_eq_some_iff, Prod.mk.injEq, Prod.exists] at h
  obtain ⟨whole, more, hw, -, rfl⟩ := h
  have h₁ := length_readWhole?_lt hw
  have h₂ := length_readFraction_le more
  have h₃ := length_readExponent_le (readFraction more).2
  cases s with
  | nil =>
    dsimp only at h₁
    simp at h₁
  | cons c tail =>
    dsimp only at h₁
    split at h₁ <;> simp only [List.length_cons] at * <;> omega

/-- The power of ten by which the digits of a literal are scaled. -/
def Numeral.scale (n : Numeral) : Int :=
  let written : Int := match n.exponent with
    | none => 0
    | some (_, sign, digits) =>
      if sign = "-" then -(Text.decimalValue digits : Int) else Text.decimalValue digits
  written - n.fraction.length

/-- The value of a literal. A literal with a fraction or an exponent is a floating point number. -/
def Numeral.value (dialect : Dialect) (n : Numeral) : Except Fault Json :=
  if n.fraction.isEmpty && n.exponent.isNone then
    if digitLimit < n.whole.length then .error (.tooManyDigits n.whole.length)
    else
      let magnitude : Int := Text.decimalValue n.whole
      .ok (.int (if n.negative then -magnitude else magnitude))
  else
    let x := Binary64.ofDecimal n.negative (Text.decimalValue (n.whole ++ n.fraction)) n.scale
    if x.isFinite || dialect.constants then .ok (.float x) else .error (.outOfRange n.literal)

/-! ## Values -/

/-- The words of the grammar, with the values that they name. -/
def keywords : List (Text × Json) :=
  [("null", .null), ("true", .bool true), ("false", .bool false)]

/-- The names of the numbers that are not finite, with the numbers. -/
def constants : List (Text × Json) :=
  [("NaN", .float .notANumber), ("Infinity", .float (.infinity false)),
   ("-Infinity", .float (.infinity true))]

/-- The first word of a table that stands at the start, with what it names and the rest. -/
def readWord? (table : List (Text × Json)) (s : Text) : Option (Text × Json × Text) :=
  table.findSome? fun (word, value) =>
    if word.isEmpty then none else (Text.after? word s).map fun rest => (word, value, rest)

theorem length_readWord?_lt {table : List (Text × Json)} {s word rest : Text} {value : Json}
    (h : readWord? table s = some (word, value, rest)) : rest.length < s.length := by
  unfold readWord? at h
  obtain ⟨⟨w, v⟩, -, hw⟩ := List.exists_of_findSome?_eq_some h
  dsimp only at hw
  split at hw
  · simp at hw
  · rename_i hne
    simp only [Option.map_eq_some_iff, Prod.mk.injEq] at hw
    obtain ⟨r, hr, rfl, rfl, rfl⟩ := hw
    have := Text.length_after? hr
    cases w with
    | nil => simp at hne
    | cons c w => simp only [List.length_cons] at this; omega

/-- A word or a number at the start. -/
def readScalar (dialect : Dialect) (s : Text) : Except Fault (Read Json s) :=
  match h : readWord? keywords s with
  | some (_, value, rest) => .ok ⟨value, rest, length_readWord?_lt h⟩
  | none =>
    match h : readWord? constants s with
    | some (name, value, rest) =>
      if dialect.constants then .ok ⟨value, rest, length_readWord?_lt h⟩
      else .error (.constant name)
    | none =>
      match h : readNumeral? s with
      | some (n, rest) => (n.value dialect).map fun value => ⟨value, rest, length_readNumeral?_lt h⟩
      | none => .error (.lies .value s)

mutual

/-- A value at the start. `room` says how many more arrays and objects may be opened. -/
def readValue (dialect : Dialect) (room : Nat) (s : Text) : Except Fault (Read Json s) :=
  match s with
  | [] => .error (.lies .value [])
  | c :: rest =>
    if c = '"' then
      (readString (c :: rest) rest).map fun r =>
        ⟨.str r.value, r.rest, Nat.lt_succ_of_lt r.shorter⟩
    else if c = '[' then
      match room with
      | 0 => .error .tooDeep
      | room + 1 =>
        have inner := length_skipGap_le rest
        match hs : skipGap rest with
        | [] => .error (.lies .value [])
        | d :: more =>
          if d = ']' then .ok ⟨.arr [], more, by simp [hs] at inner ⊢; omega⟩
          else
            match readItems dialect room (d :: more) with
            | .error fault => .error fault
            | .ok r => .ok ⟨.arr r.value, r.rest, by
                have := r.shorter
                simp [hs] at inner this ⊢
                omega⟩
    else if c = '{' then
      match room with
      | 0 => .error .tooDeep
      | room + 1 =>
        have inner := length_skipGap_le rest
        match hs : skipGap rest with
        | [] => .error (.lies .propertyName [])
        | d :: more =>
          if d = '}' then .ok ⟨.obj [], more, by simp [hs] at inner ⊢; omega⟩
          else
            match readMembers dialect room (d :: more) with
            | .error fault => .error fault
            | .ok r => .ok ⟨.ofMembers r.value, r.rest, by
                have := r.shorter
                simp [hs] at inner this ⊢
                omega⟩
    else readScalar dialect (c :: rest)
termination_by (s.length, 0)
decreasing_by
  all_goals
    simp_wf
    simp [hs] at inner
    omega

/-- The items of an array from one of them on, up to the closing bracket. -/
def readItems (dialect : Dialect) (room : Nat) (s : Text) : Except Fault (Read (List Json) s) :=
  match readValue dialect room s with
  | .error fault => .error fault
  | .ok item =>
    have short := item.shorter
    have gap := length_skipGap_le item.rest
    match hs : skipGap item.rest with
    | [] => .error (.lies .comma [])
    | c :: rest =>
      if c = ']' then .ok ⟨[item.value], rest, by simp [hs] at gap; omega⟩
      else if c = ',' then
        have gap' := length_skipGap_le rest
        match readItems dialect room (skipGap rest) with
        | .error fault => .error fault
        | .ok more => .ok ⟨item.value :: more.value, more.rest, by
            have := more.shorter
            simp [hs] at gap
            omega⟩
      else .error (.lies .comma (c :: rest))
termination_by (s.length, 1)
decreasing_by
  · omega
  · simp [hs] at gap
    omega

/-- The members of an object from one of them on, up to the closing brace. -/
def readMembers (dialect : Dialect) (room : Nat) (s : Text) :
    Except Fault (Read (List (Text × Json)) s) :=
  match s with
  | [] => .error (.lies .propertyName [])
  | q :: inside =>
    if q = '"' then
      match readString (q :: inside) inside with
      | .error fault => .error fault
      | .ok name =>
        have nameShort := name.shorter
        have nameGap := length_skipGap_le name.rest
        match hn : skipGap name.rest with
        | [] => .error (.lies .colon [])
        | c :: afterColon =>
          if c = ':' then
            have colonGap := length_skipGap_le afterColon
            match readValue dialect room (skipGap afterColon) with
            | .error fault => .error fault
            | .ok value =>
              have valueShort := value.shorter
              have valueGap := length_skipGap_le value.rest
              match hv : skipGap value.rest with
              | [] => .error (.lies .comma [])
              | d :: rest =>
                if d = '}' then
                  .ok ⟨[(name.value, value.value)], rest, by
                    simp [hn, hv] at nameGap valueGap ⊢
                    omega⟩
                else if d = ',' then
                  have commaGap := length_skipGap_le rest
                  match readMembers dialect room (skipGap rest) with
                  | .error fault => .error fault
                  | .ok more => .ok ⟨(name.value, value.value) :: more.value, more.rest, by
                      have := more.shorter
                      simp [hn, hv] at nameGap valueGap ⊢
                      omega⟩
                else .error (.lies .comma (d :: rest))
          else .error (.lies .colon (c :: afterColon))
    else .error (.lies .propertyName (q :: inside))
termination_by (s.length, 1)
decreasing_by
  · simp_wf
    simp [hn] at nameGap
    omega
  · simp_wf
    simp [hn, hv] at nameGap valueGap
    omega

end

/-! ## Documents -/

/-- The document that a text writes: one value, with white space around it. -/
def readDocument (dialect : Dialect) (source : Text) : Except Fault Json :=
  match readValue dialect nestingLimit (skipGap source) with
  | .error fault => .error fault
  | .ok value =>
    match skipGap value.rest with
    | [] => .ok value.value
    | rest => .error (.lies .extraData rest)

/-- Reads JSON proper. A byte order mark at the start is refused. -/
def parse (source : Text) : Except Fault Json :=
  if source.head? = some byteOrderMark then .error (.lies .byteOrderMark source)
  else readDocument .strict source

end Tidy.Json
