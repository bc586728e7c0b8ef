/-
# Tidy.Proofs.Request -- which outcome a request has

A request is refused for its language before its fields are looked at, and for its fields only because of the width;
every other request has a result. The result is invalid for exactly two kinds of reasons: the document is none of its
language, or the memory has no room for the width. The width does not matter to a blank source and to a lone string.

A value that is no text names no language, because its text begins like no tag (`ofText?_eq_none`).
-/

import Tidy.Proofs.Engine
import Tidy.Proofs.Record
import Tidy.Proofs.Text.Digits
import Tidy.Proofs.Text.Lowercase
import Tidy.Proofs.Text.Trim
import Tidy.Request

namespace Tidy

open CodePoint (char)

/-! ## Naming a language -/

namespace Language

theorem withTag?_eq_some_iff (t : Text) (language : Language) : withTag? t = some language ↔ language.tag = t := by
  constructor
  · intro h
    simpa using List.find?_some h
  · rintro rfl
    cases language <;> rfl

theorem withTag?_eq_none_iff (t : Text) : withTag? t = none ↔ ∀ language : Language, language.tag ≠ t := by
  constructor
  · intro h language htag
    rw [(withTag?_eq_some_iff t language).mpr htag] at h
    cases h
  · intro h
    cases hfound : withTag? t with
    | none => rfl
    | some language => exact absurd ((withTag?_eq_some_iff t language).mp hfound) (h language)

/-- The code points that tags begin with. -/
def initials : List CodePoint :=
  [char 'j', char 't', char 'x', char 'c', char 'h']

/-- A text that does not begin like a tag, in any case, names no language. -/
theorem ofText?_eq_none {c : CodePoint} (hsolid : c.isBlank = false) (hcase : c.toNat ≠ 0x130 ∧ c.toNat ≠ 0x3A3)
    (hinitial : c.lower ∉ initials) (rest : Text) : ofText? (c :: rest) = none := by
  have hstart : Text.StartsSolid (c :: rest) := Text.startsSolid_of_head rfl hsolid
  have hhead : (Text.lower (Text.trim (c :: rest))).head? = some c.lower := by
    rw [Text.trim, Text.trimStart_of_startsSolid hstart, Text.trimEnd_cons_of_solid hsolid, Text.lower,
      Text.lowerAfter, if_neg hcase.1, if_neg hcase.2]
    rfl
  rw [ofText?, withTag?_eq_none_iff]
  intro language htag
  rw [← htag] at hhead
  apply hinitial
  cases language with
  | _ =>
    rw [← Option.some.inj hhead]
    decide

/-- Below the capitals all code points are their own lower case. -/
theorem lower_of_lt {c : CodePoint} (h : c.toNat < 0x41) : c.lower = c := by
  have hruns : ∀ run ∈ CodePoint.lowercaseRuns, 0x41 ≤ run.1 := by decide +kernel
  apply CodePoint.lower_eq_self
  rintro run hrun ⟨hstart, -, -⟩
  have hcapital := hruns run hrun
  omega

theorem ofText?_digit {c : CodePoint} (h : c.isAsciiDigit = true) (rest : Text) : ofText? (c :: rest) = none := by
  have hrange : 0x30 ≤ c.toNat ∧ c.toNat ≤ 0x39 := by
    simpa [CodePoint.isAsciiDigit, CodePoint.within] using h
  refine ofText?_eq_none ?_ ⟨by omega, by omega⟩ ?_ rest
  · rw [Bool.eq_false_iff]
    intro hblank
    simp only [CodePoint.isBlank, CodePoint.inTable, CodePoint.blankRanges, CodePoint.within, List.any_cons,
      List.any_nil, Bool.or_false, Bool.or_eq_true, Bool.and_eq_true, decide_eq_true_eq] at hblank
    omega
  · rw [lower_of_lt (by omega)]
    intro hmem
    have hletter : ∀ d ∈ initials, 0x41 ≤ d.toNat := by decide
    have := hletter c hmem
    omega

theorem ofText?_digits {digits : Text} (hne : digits ≠ []) (h : Text.IsDigits digits) (rest : Text) :
    ofText? (digits ++ rest) = none := by
  cases digits with
  | nil => exact absurd rfl hne
  | cons c digits => exact ofText?_digit (h c List.mem_cons_self) _

theorem ofText?_ofNat (n : Nat) (rest : Text) : ofText? (Text.ofNat n ++ rest) = none :=
  ofText?_digits (Text.ofNat_ne_nil n) (Text.isDigits_ofNat n) rest

/-- The text of a decimal begins with a digit. -/
theorem ofText?_decimalText (d : Decimal) : ofText? (Binary64.decimalText d) = none := by
  have hne := Text.ofNat_ne_nil d.digits
  have hdigits := Text.isDigits_ofNat d.digits
  have htake : ∀ k, 0 < k → ∀ rest, ofText? ((Text.ofNat d.digits).take k ++ rest) = none := by
    intro k hk rest
    refine ofText?_digits ?_ (fun c hc => hdigits c (List.mem_of_mem_take hc)) rest
    cases hshape : Text.ofNat d.digits with
    | nil => exact absurd hshape hne
    | cons c more =>
      cases k with
      | zero => cases hk
      | succ k => exact List.cons_ne_nil _ _
  unfold Binary64.decimalText
  dsimp only
  split
  · split
    · exact ofText?_digit (c := char '0') rfl _
    · split
      · rw [List.append_assoc]
        exact ofText?_digits hne hdigits _
      · rename_i hpoint _
        rw [List.append_assoc]
        exact htake _ (by omega) _
  · rw [List.append_assoc, List.append_assoc]
    exact htake 1 (by decide) _

/-- The text of a number begins with a digit, a minus sign or one of the letters of `inf` and `nan`. -/
theorem ofText?_toText (x : Binary64) : ofText? x.toText = none := by
  unfold Binary64.toText
  split
  · decide +kernel
  · dsimp only
    split
    · exact ofText?_eq_none (c := char '-') (by decide) (by decide) (by decide +kernel) _
    · split
      · decide +kernel
      · split
        · decide +kernel
        · exact ofText?_decimalText _

end Language

namespace Value

theorem ofText?_dateText (day : Date) (rest : Text) : Language.ofText? (dateText day ++ rest) = none := by
  have hyear : padded 4 day.year ≠ [] ∧ Text.IsDigits (padded 4 day.year) :=
    ⟨List.append_ne_nil_of_right_ne_nil _ (Text.ofNat_ne_nil _),
      Text.isDigits_append.mpr ⟨Text.isDigits_replicate_zero _, Text.isDigits_ofNat _⟩⟩
  simp only [dateText, List.append_assoc]
  exact Language.ofText?_digits hyear.1 hyear.2 _

/-- A value that is no text names no language by its text. -/
theorem ofText?_text {value : Value} (h : ∀ t, value ≠ .str t) : Language.ofText? value.text = none := by
  -- most kinds of values begin with a mark or a letter of their own
  have hinitial : ∀ {c : CodePoint}, c ∈ [char '-', char 'b', char '[', char '(', char '{'] → ∀ rest,
      Language.ofText? (c :: rest) = none := by
    intro c hc rest
    have hall : ∀ c ∈ [char '-', char 'b', char '[', char '(', char '{'],
        c.isBlank = false ∧ (c.toNat ≠ 0x130 ∧ c.toNat ≠ 0x3A3) ∧ c.lower ∉ Language.initials := by
      decide +kernel
    obtain ⟨hsolid, hcase, hlower⟩ := hall c hc
    exact Language.ofText?_eq_none hsolid hcase hlower rest
  cases value with
  | null => decide +kernel
  | bool b => cases b <;> decide +kernel
  | int n =>
    cases n with
    | ofNat n =>
      have hdigits := Language.ofText?_ofNat n []
      rwa [List.append_nil] at hdigits
    | negSucc n => exact hinitial (by decide) _
  | float x => exact Language.ofText?_toText x
  | str t => exact absurd rfl (h t)
  | bytes data => exact hinitial (by decide) _
  | date day =>
    have hday := ofText?_dateText day []
    rwa [List.append_nil] at hday
  | moment day clock zone =>
    simp only [text, List.append_assoc]
    exact ofText?_dateText day _
  | list items => exact hinitial (c := char '[') (by decide) _
  | pair first second => exact hinitial (c := char '(') (by decide) _
  | set items =>
    cases items with
    | nil => decide +kernel
    | cons item rest => exact hinitial (c := char '{') (by decide) _
  | map members => exact hinitial (c := char '{') (by decide) _
  | cycle isMap => cases isMap <;> decide +kernel

end Value

/-- A value names the language whose tag its text is, up to case and white space around it. -/
theorem Language.ofValue_eq_ok_iff (given : Value) (language : Language) :
    Language.ofValue given = .ok language ↔ language.tag = Text.lower (Text.trim given.text) := by
  rw [← withTag?_eq_some_iff]
  show _ ↔ ofText? given.text = some language
  by_cases h : ∃ t, given = .str t
  · obtain ⟨t, rfl⟩ := h
    rw [ofValue, Value.text]
    cases ofText? t with
    | none => simp
    | some found => simp
  · have hnot : ∀ t, given ≠ .str t := fun t ht => h ⟨t, ht⟩
    rw [Value.ofText?_text hnot]
    cases given with
    | str t => exact absurd rfl (hnot t)
    | _ => simp [ofValue]

/-- A value is refused as a language, and named in the refusal, if its text is no tag. -/
theorem Language.ofValue_eq_error_iff (given : Value) :
    Language.ofValue given = .error (.language given) ↔
      ∀ language : Language, language.tag ≠ Text.lower (Text.trim given.text) := by
  constructor
  · intro h language htag
    rw [(ofValue_eq_ok_iff given language).mpr htag] at h
    cases h
  · intro h
    have hnone : ∀ language, ofValue given ≠ .ok language :=
      fun language hok => h language ((ofValue_eq_ok_iff given language).mp hok)
    cases given with
    | str t =>
      rw [ofValue]
      cases hfound : ofText? t with
      | none => rfl
      | some language => exact absurd (by rw [ofValue, hfound]; rfl) (hnone language)
    | _ => rfl

/-! ## Making a request -/

namespace Request

variable {source : Text} {language indent : Value}

theorem of_eq_error_language (h : ∀ l : Language, l.tag ≠ Text.lower (Text.trim language.text)) :
    of source language indent = .error (.language language) := by
  rw [of, (Language.ofValue_eq_error_iff language).mpr h]
  rfl

/-- Of the three fields only the width can be at fault once the language is known. -/
theorem of_eq {l : Language} (h : l.tag = Text.lower (Text.trim language.text)) :
    of source language indent =
      match Check.positive indent with
      | .ok width => .ok ⟨source, l, width⟩
      | .error problem => .error (.fields [⟨["indent"], problem⟩]) := by
  have hnames : Text.ofString "source" ≠ "language" ∧ Text.ofString "source" ≠ "indent" ∧
      Text.ofString "language" ≠ "indent" := by
    decide +kernel
  have hfields : ∀ record : Record,
      record = [(("source" : Text), .str source), (("language" : Text), .str l.tag), (("indent" : Text), indent)] →
      record.get? "source" = some (.str source) ∧ record.get? "language" = some (.str l.tag) ∧
        record.get? "indent" = some indent := by
    rintro record rfl
    simp [Record.get?, hnames.1, hnames.2.1, hnames.2.2]
  obtain ⟨hsource, hlanguage, hindent⟩ := hfields _ rfl
  rw [of, (Language.ofValue_eq_ok_iff language l).mpr h]
  simp only [bind, Except.bind]
  rw [check, Record.required_of_get? hsource, Record.optional_of_get? hlanguage, Record.optional_of_get? hindent,
    Check.language_tag l, Check.text]
  cases Check.positive indent <;> rfl

theorem of_eq_error_language_iff (source : Text) (language indent : Value) :
    of source language indent = .error (.language language) ↔
      ∀ l : Language, l.tag ≠ Text.lower (Text.trim language.text) := by
  constructor
  · intro h l hl
    rw [of_eq hl] at h
    cases hwidth : Check.positive indent <;> rw [hwidth] at h <;> cases h
  · exact of_eq_error_language

theorem of_eq_error_fields_iff (source : Text) (language indent : Value) :
    (∃ issues, of source language indent = .error (.fields issues)) ↔
      (∃ l : Language, l.tag = Text.lower (Text.trim language.text)) ∧
        ¬ ∃ width, Check.positive indent = .ok width := by
  by_cases hl : ∃ l : Language, l.tag = Text.lower (Text.trim language.text)
  · obtain ⟨l, hl⟩ := hl
    rw [of_eq hl]
    cases Check.positive indent with
    | ok width => simp
    | error problem => simpa using ⟨l, hl⟩
  · rw [of_eq_error_language fun l hl' => hl ⟨l, hl'⟩]
    simp [hl]

theorem of_eq_ok_iff (source : Text) (language indent : Value) (request : Request) :
    of source language indent = .ok request ↔
      request.source = source ∧ request.language.tag = Text.lower (Text.trim language.text) ∧
        Check.positive indent = .ok request.width := by
  constructor
  · intro h
    by_cases hl : ∃ l : Language, l.tag = Text.lower (Text.trim language.text)
    · obtain ⟨l, hl⟩ := hl
      rw [of_eq hl] at h
      cases hwidth : Check.positive indent with
      | ok width =>
        rw [hwidth] at h
        cases h
        exact ⟨rfl, hl, rfl⟩
      | error problem =>
        rw [hwidth] at h
        cases h
    · rw [of_eq_error_language fun l hl' => hl ⟨l, hl'⟩] at h
      cases h
  · rintro ⟨rfl, hl, hwidth⟩
    rw [of_eq hl, hwidth]

/-! ## The outcome of a request -/

/-- Is the source no document of the language? Only two of the languages have rules of their own. -/
def Refused (language : Language) (source : Text) : Prop :=
  match language with
  | .json => ∃ fault, Json.parse source = .error fault
  | .xml => ∃ fault, Xml.check (Text.trim source) = .error fault
  | .typescript | .css | .html => False

/-- Is the source laid out without any indentation, whatever the width is? -/
def Unindented (language : Language) (source : Text) : Prop :=
  language = .json ∧ ∃ t, Json.parse source = .ok (.str t)

variable {memory : Memory} {width : Nat}

theorem laidOut_ne_ok_iff (layout : Nat → Text) :
    (∀ text, Engine.laidOut memory width layout ≠ .ok text) ↔ memory.limit ≤ width := by
  by_cases h : memory.limit ≤ width
  · rw [Engine.laidOut_of_full h]
    simp [h]
  · rw [Engine.laidOut_of_room (Nat.not_le.mp h)]
    simp [h]

/-- A value has no layout only where there is no room for the width and the value is no string. -/
theorem formatValue_ne_ok_iff (value : Json) :
    (∀ text, Engine.formatValue memory width value ≠ .ok text) ↔ memory.limit ≤ width ∧ ¬ ∃ t, value = .str t := by
  unfold Engine.formatValue
  split
  · simp
  · rename_i hother
    rw [laidOut_ne_ok_iff]
    have hno : ¬ ∃ t, value = .str t := fun ⟨t, ht⟩ => hother t ht
    simp [hno]

/-- The documents that formatting fails on. -/
theorem formatDocument_ne_ok_iff (language : Language) (source : Text) :
    (∀ text, Engine.formatDocument memory language width source ≠ .ok text) ↔
      Refused language source ∨ memory.limit ≤ width ∧ ¬ Unindented language source := by
  unfold Engine.formatDocument
  cases language with
  | json =>
    dsimp only
    cases hparse : Json.parse source with
    | error fault => simp [Refused, hparse]
    | ok value =>
      dsimp only
      rw [formatValue_ne_ok_iff]
      simp [Refused, Unindented, hparse]
  | xml =>
    dsimp only
    cases hcheck : Xml.check (Text.trim source) with
    | error fault => simp [Refused, hcheck]
    | ok done =>
      dsimp only
      rw [laidOut_ne_ok_iff]
      simp [Refused, Unindented, hcheck]
  | _ =>
    dsimp only
    rw [laidOut_ne_ok_iff]
    simp [Refused, Unindented]

/-- What a failure leaves of the source: all of it. -/
theorem format_of_not_isValid {language : Language} (h : (Engine.format memory language width source).isValid = false) :
    source.isBlank = false ∧ (Engine.format memory language width source).text = source ∧
      ∀ text, Engine.formatDocument memory language width source ≠ .ok text := by
  cases hblank : source.isBlank with
  | true =>
    rw [Engine.format_blank memory language width hblank] at h
    cases h
  | false =>
    cases hdocument : Engine.formatDocument memory language width source with
    | ok text =>
      rw [Engine.format_ok hblank hdocument] at h
      cases h
    | error failure =>
      rw [Engine.format_error hblank hdocument]
      simp

theorem isValid_format_eq_false_iff (memory : Memory) (language : Language) (width : Nat) (source : Text) :
    (Engine.format memory language width source).isValid = false ↔
      source.isBlank = false ∧ (Refused language source ∨ memory.limit ≤ width ∧ ¬ Unindented language source) := by
  rw [← formatDocument_ne_ok_iff]
  constructor
  · intro h
    obtain ⟨hblank, -, hdocument⟩ := format_of_not_isValid h
    exact ⟨hblank, hdocument⟩
  · rintro ⟨hblank, hdocument⟩
    cases hresult : Engine.formatDocument memory language width source with
    | ok text => exact absurd hresult (hdocument text)
    | error failure =>
      rw [Engine.format_error hblank hresult]
      rfl

end Request

end Tidy
