/-
# Tidy.Proofs.Xml.Reformat -- the layout of a document is a document with the same layout

The layout moves white space only, and a well-formed document is still one after that, with two exceptions. A zero among
the first two characters makes the reader take the bytes for UTF-16, where the spaces that the layout puts in are halves
of characters (`showsUtf16`). And the name of a namespace may change if its attribute has a declared type by which
spaces are dropped (`Dtd.keepsNamespaces`): white space that XML does not know is not dropped, but the layout may lose it
(`foreign`).
-/

import Tidy.Engine
import Tidy.Proofs.Width
import Tidy.Proofs.Xml.Document

namespace Tidy.Xml

open CodePoint (char)
open Markup (Reflowed Cut)

variable {white : CodePoint → Bool}

/-! ## What the bytes say -/

/-- Does a zero among the first two characters make the bytes of the text look like UTF-16? -/
def showsUtf16 (s : Text) : Bool :=
  (s.take 2).any fun c => c.toNat = 0

theorem utf8Bytes_ne_nil (n : Nat) : Text.utf8Bytes n ≠ [] := by
  unfold Text.utf8Bytes
  grind

theorem toNat_lt (c : CodePoint) : c.toNat < 0x110000 := by
  cases c with
  | char c =>
    have hvalid := c.valid
    simp only [UInt32.isValidChar, Nat.isValidChar] at hvalid
    show c.val.toNat < 0x110000
    omega
  | surrogate u =>
    show 0xD800 + u.val < 0x110000
    omega

theorem zero_ne_toUInt8 {n : Nat} (hpos : 0 < n) (hsmall : n < 256) : (0 : UInt8) ≠ n.toUInt8 := by
  intro heq
  have hnat := congrArg UInt8.toNat heq
  rw [Nat.toUInt8, UInt8.toNat_ofNat_of_lt' hsmall] at hnat
  exact absurd hnat (Nat.ne_of_lt hpos)

/-- Only the zero character is written with a zero byte. -/
theorem zero_notMem_utf8Bytes {n : Nat} (hpos : n ≠ 0) (hlimit : n < 0x110000) : 0 ∉ Text.utf8Bytes n := by
  unfold Text.utf8Bytes
  split_ifs <;> simp only [List.mem_cons, List.not_mem_nil, or_false, not_or]
  · exact zero_ne_toUInt8 (by omega) (by omega)
  · exact ⟨zero_ne_toUInt8 (by omega) (by omega), zero_ne_toUInt8 (by omega) (by omega)⟩
  · exact ⟨zero_ne_toUInt8 (by omega) (by omega), zero_ne_toUInt8 (by omega) (by omega),
      zero_ne_toUInt8 (by omega) (by omega)⟩
  · exact ⟨zero_ne_toUInt8 (by omega) (by omega), zero_ne_toUInt8 (by omega) (by omega),
      zero_ne_toUInt8 (by omega) (by omega), zero_ne_toUInt8 (by omega) (by omega)⟩

theorem byteOrder?_eq_none {bytes : List UInt8} (h : 0 ∉ bytes.take 2) : byteOrder? bytes = none := by
  rcases bytes with _ | ⟨first, _ | ⟨second, bytes⟩⟩
  · rfl
  · simp only [List.take_succ_cons, List.take_nil, List.mem_singleton] at h
    simp [byteOrder?, Ne.symm h]
  · simp only [List.take_succ_cons, List.take_zero, List.mem_cons, List.not_mem_nil, or_false, not_or] at h
    simp [byteOrder?, Ne.symm h.1, Ne.symm h.2]

/-- The first two bytes belong to the first two characters. -/
theorem take_two_flatMap (s : Text) {b : UInt8} (h : b ∈ (s.flatMap fun c => Text.utf8Bytes c.toNat).take 2) :
    ∃ c ∈ s.take 2, b ∈ Text.utf8Bytes c.toNat := by
  rcases s with _ | ⟨c, _ | ⟨d, s⟩⟩
  · cases h
  · exact ⟨c, List.mem_cons_self, by simpa using List.mem_of_mem_take h⟩
  · have hlength : 2 ≤ (Text.utf8Bytes c.toNat ++ Text.utf8Bytes d.toNat).length := by
      have hc := List.length_pos_iff.mpr (utf8Bytes_ne_nil c.toNat)
      have hd := List.length_pos_iff.mpr (utf8Bytes_ne_nil d.toNat)
      rw [List.length_append]
      omega
    rw [List.flatMap_cons, List.flatMap_cons, ← List.append_assoc, List.take_append_of_le_length hlength] at h
    rcases List.mem_append.mp (List.mem_of_mem_take h) with hmem | hmem
    · exact ⟨c, List.mem_cons_self, hmem⟩
    · exact ⟨d, List.mem_cons_of_mem c List.mem_cons_self, hmem⟩

theorem reading_eq {s : Text} (h : showsUtf16 s = false) : reading s = ⟨s, false⟩ := by
  rw [showsUtf16, List.any_eq_false] at h
  unfold reading Text.toUtf8?
  split
  · rfl
  · rename_i bytes hbytes
    have horder : byteOrder? bytes = none := by
      split at hbytes
      · cases hbytes
      · cases hbytes
        refine byteOrder?_eq_none fun hzero => ?_
        obtain ⟨c, hc, hmem⟩ := take_two_flatMap s hzero
        exact zero_notMem_utf8Bytes (by simpa using h c hc) (toNat_lt c) hmem
    rw [horder]

/-- What stands behind a byte order mark, if there is one. -/
def withoutMark (s : Text) : Text :=
  if s.head? = some byteOrderMark then s.drop 1 else s

theorem check_eq {s : Text} (hsurrogate : s.hasSurrogate = false) (h : showsUtf16 s = false) :
    check s = checkDocument (withoutMark s) := by
  rw [check, hsurrogate, reading_eq h]
  rfl

/-! ## Layouts -/

theorem hasSurrogate_reflowed {s t : Text} (h : Reflowed white s t) (hs : s.hasSurrogate = false) :
    t.hasSurrogate = false := by
  rw [Text.hasSurrogate, List.any_eq_false] at hs ⊢
  intro c hc
  rcases h.mem_right hc with hmem | rfl | rfl
  · exact hs c hmem
  · exact Bool.false_ne_true
  · exact Bool.false_ne_true

section Lines

variable {s t : Text} {lines : List Text} (hs : Cut s lines) (ht : Cut t lines) (h : Reflowed white s t)
include hs ht h

/-- The first character is not white space, and so it stays where it is. -/
theorem exists_first : ∃ c s' t', s = c :: s' ∧ t = c :: t' ∧ c.isBlank = false ∧ Reflowed white s' t' := by
  have hhead : t.head? = s.head? := ht.head?_eq.trans hs.head?_eq.symm
  obtain ⟨hne, hstarts, -⟩ := hs.solid
  cases s with
  | nil => exact absurd rfl hne
  | cons c s' =>
    have hsolid : c.isBlank = false := hstarts c rfl
    rcases h.cons_left with ⟨t', rfl, hrest⟩ | ⟨t', rfl⟩
    · exact ⟨c, s', t', rfl, rfl, hsolid, hrest⟩
    · obtain rfl : CodePoint.newline = c := Option.some.inj hhead
      cases hsolid

/-- The layout of a text does not look like UTF-16 if the text does not. -/
theorem showsUtf16_reflowed (hzero : showsUtf16 s = false) : showsUtf16 t = false := by
  obtain ⟨c, s', t', rfl, rfl, -, hrest⟩ := exists_first hs ht h
  cases s' with
  | nil =>
    rw [hrest.nil_left]
    exact hzero
  | cons d s' =>
    simp only [showsUtf16, List.take_succ_cons, List.take_zero, List.any_cons, List.any_nil, Bool.or_false,
      Bool.or_eq_false_iff] at hzero
    rcases hrest.cons_left with ⟨t', rfl, -⟩ | ⟨t', rfl⟩
    · simp [showsUtf16, hzero]
    · simp [showsUtf16, hzero]
      decide

/-- Behind a byte order mark a tag stays on its line. -/
theorem withoutMark_reflowed : Reflowed white (withoutMark s) (withoutMark t) ∧
    ((withoutMark s).head? = some (char '<') → (withoutMark t).head? = some (char '<')) := by
  obtain ⟨c, s', t', rfl, rfl, -, hrest⟩ := exists_first hs ht h
  unfold withoutMark
  split
  · rename_i hmark
    have hmark' : (c :: t').head? = some byteOrderMark := hmark
    rw [if_pos hmark']
    refine ⟨hrest, fun htag => ?_⟩
    obtain rfl : c = byteOrderMark := Option.some.inj hmark
    obtain ⟨line, hline⟩ := hs.tag_second (by decide) htag
    obtain ⟨rest, heq⟩ := ht.eq_append hline
    rw [(List.cons.inj heq).2]
    rfl
  · rename_i hmark
    have hmark' : (c :: t').head? ≠ some byteOrderMark := hmark
    rw [if_neg hmark']
    exact ⟨h, fun htag => htag⟩

/-- A well-formed text is still well-formed when it is laid out, as long as the names of namespaces cannot change. -/
theorem check_reflowed (hw : White white) (hzero : showsUtf16 s = false)
    (hsettled : ∀ dtd root, Prolog.read ((withoutMark s).length + 1) {} (withoutMark s) = .ok (dtd, root) →
      Settled white dtd) (hcheck : check s = .ok ()) : check t = .ok () := by
  have hsurrogate : s.hasSurrogate = false := by
    by_contra hfound
    rw [check, if_pos (by simpa using hfound)] at hcheck
    cases hcheck
  obtain ⟨hreflowed, hhead⟩ := withoutMark_reflowed hs ht h
  rw [check_eq hsurrogate hzero] at hcheck
  rw [check_eq (hasSurrogate_reflowed h hsurrogate) (showsUtf16_reflowed hs ht h hzero)]
  exact checkDocument_follows hw hreflowed hhead hsettled hcheck

end Lines

/-! ## White space that XML does not know -/

/-- The white space of a text that is not white space of XML. -/
def foreign (s : Text) : Text :=
  s.filter fun c => c.isBlank && !isSpace c

theorem foreign_cons_of_isSpace {c : CodePoint} (h : isSpace c = true) (s : Text) : foreign (c :: s) = foreign s := by
  rw [foreign, List.filter_cons_of_neg (by simp [h])]
  rfl

theorem length_foreign_cons_le (c : CodePoint) (s : Text) : (foreign s).length ≤ (foreign (c :: s)).length :=
  (List.Sublist.filter _ (List.sublist_cons_self c s)).length_le

/-- A code point that is lost is white space of XML, unless there is less of the other white space afterwards. -/
theorem isSpace_of_foreign_le {c : CodePoint} {s t : Text} (hc : c.isBlank = true)
    (hle : (foreign t).length ≤ (foreign s).length) (hcount : (foreign (c :: s)).length ≤ (foreign t).length) :
    isSpace c = true := by
  by_contra hspace
  have hcons : foreign (c :: s) = c :: foreign s := List.filter_cons_of_pos (by simp [hc, hspace])
  rw [hcons, List.length_cons] at hcount
  omega

/-- A layout has no more white space of other kinds, and if it has no less, then only white space of XML is lost. -/
theorem foreign_reflowed {s t : Text} (h : Reflowed CodePoint.isBlank s t) :
    (foreign t).length ≤ (foreign s).length ∧
      ((foreign s).length ≤ (foreign t).length → Reflowed isSpace s t) := by
  induction h with
  | nil => exact ⟨Nat.le_refl _, fun _ => .nil⟩
  | @cons c s t _ ih =>
    obtain ⟨hle, hsame⟩ := ih
    cases hforeign : (c.isBlank && !isSpace c) with
    | true =>
      have hs : foreign (c :: s) = c :: foreign s := List.filter_cons_of_pos hforeign
      have ht : foreign (c :: t) = c :: foreign t := List.filter_cons_of_pos hforeign
      rw [hs, ht, List.length_cons, List.length_cons]
      exact ⟨Nat.succ_le_succ hle, fun hcount => .cons c (hsame (Nat.le_of_succ_le_succ hcount))⟩
    | false =>
      have hs : foreign (c :: s) = foreign s := List.filter_cons_of_neg (by simp [hforeign])
      have ht : foreign (c :: t) = foreign t := List.filter_cons_of_neg (by simp [hforeign])
      rw [hs, ht]
      exact ⟨hle, fun hcount => .cons c (hsame hcount)⟩
  | @drop c s t hc _ ih =>
    obtain ⟨hle, hsame⟩ := ih
    -- what is lost here would be missing in the count if it were foreign
    have hmore := length_foreign_cons_le c s
    refine ⟨hle.trans hmore, fun hcount => ?_⟩
    exact .drop (isSpace_of_foreign_le hc hle hcount) (hsame (hmore.trans hcount))
  | @trail c s t hc _ ih =>
    rw [foreign_cons_of_isSpace rfl] at ih ⊢
    obtain ⟨hle, hsame⟩ := ih
    have hmore := length_foreign_cons_le c s
    refine ⟨hle.trans hmore, fun hcount => ?_⟩
    exact .trail (isSpace_of_foreign_le hc hle hcount) (hsame (hmore.trans hcount))
  | @pad s t _ ih =>
    have hpad : foreign (CodePoint.newline :: char ' ' :: t) = foreign (CodePoint.newline :: t) := by
      rw [foreign_cons_of_isSpace rfl, foreign_cons_of_isSpace rfl, foreign_cons_of_isSpace rfl]
    rw [hpad]
    exact ⟨ih.1, fun hcount => .pad (ih.2 hcount)⟩
  | @brk s t _ ih =>
    rw [@foreign_cons_of_isSpace CodePoint.newline rfl]
    exact ⟨ih.1, fun hcount => .brk (ih.2 hcount)⟩

/-! ## Reformatting -/

/-- What the prolog of a document declares. -/
def declared (s : Text) : Dtd :=
  match Prolog.read ((withoutMark s).length + 1) {} (withoutMark s) with
  | .ok (dtd, _) => dtd
  | .error _ => {}

/-- May the layout `t` of the document `s` be refused? -/
def Unsteady (s t : Text) : Prop :=
  (showsUtf16 s = true ∧ t ≠ s) ∨ (¬ (declared s).keepsNamespaces ∧ foreign t ≠ foreign s)

instance : DecidablePred Dtd.keepsNamespaces :=
  fun dtd => inferInstanceAs (Decidable (∀ a ∈ dtd.attributes, _))

instance (s t : Text) : Decidable (Unsteady s t) :=
  inferInstanceAs (Decidable (_ ∨ _))

theorem check_format (width : Nat) {source : Text} (hblank : source.isBlank = false)
    (hcheck : check (Text.trim source) = .ok ())
    (hsteady : ¬ Unsteady (Text.trim source) (Markup.format width (Text.trim source))) :
    check (Markup.format width (Text.trim source)) = .ok () := by
  have hne : Text.trim source ≠ [] := Markup.trim_ne_nil hblank
  have hstarts := Text.startsSolid_trim source
  have hends := Text.endsSolid_trim source
  generalize Text.trim source = s at hne hstarts hends hcheck hsteady ⊢
  by_cases hsame : Markup.format width s = s
  · rwa [hsame]
  have hzero : showsUtf16 s = false := by
    cases hshows : showsUtf16 s with
    | false => rfl
    | true => exact absurd (Or.inl ⟨hshows, hsame⟩) hsteady
  have hs := Markup.cut_splitTags hne hstarts hends
  obtain ⟨ht, hreflowed⟩ := @Markup.format_reflowed CodePoint.isBlank s hne hstarts hends (fun _ _ hc => hc) width
  by_cases hforeign : foreign (Markup.format width s) = foreign s
  · -- only white space of XML is lost, so that all names of namespaces are kept
    have hspace := (foreign_reflowed hreflowed).2 (hforeign ▸ Nat.le_refl _)
    exact check_reflowed hs ht hspace white_isSpace hzero (fun _ _ _ => Or.inl fun _ hc => hc) hcheck
  · refine check_reflowed hs ht hreflowed white_isBlank hzero (fun dtd root hread => Or.inr ?_) hcheck
    by_contra hkeeps
    refine hsteady (Or.inr ⟨?_, hforeign⟩)
    rwa [declared, hread]

section Engine

variable {memory : Memory} {width : Nat} {source : Text}

theorem format_xml (hroom : width < memory.limit) (hblank : source.isBlank = false)
    (hcheck : check (Text.trim source) = .ok ()) :
    Engine.format memory .xml width source = ⟨Markup.format width (Text.trim source), none⟩ := by
  refine Engine.format_ok hblank ?_
  rw [Engine.formatDocument, hcheck]
  exact Engine.laidOut_of_room hroom _

theorem check_of_valid (hblank : source.isBlank = false) (h : (Engine.format memory .xml width source).error = none) :
    check (Text.trim source) = .ok () ∧ width < memory.limit := by
  cases hdocument : Engine.formatDocument memory .xml width source with
  | error failure =>
    rw [Engine.format_error hblank hdocument] at h
    cases h
  | ok text =>
    rw [Engine.formatDocument] at hdocument
    cases hcheck : check (Text.trim source) with
    | error fault =>
      rw [hcheck] at hdocument
      cases hdocument
    | ok verdict =>
      refine ⟨rfl, ?_⟩
      by_contra hfull
      rw [hcheck] at hdocument
      dsimp only at hdocument
      rw [Engine.laidOut_of_full (Nat.not_lt.mp hfull)] at hdocument
      cases hdocument

/-- The layout of a well-formed document has the same lines, and whenever it is accepted, it is laid out as the document
itself at any width. It is accepted unless the document is unsteady. -/
theorem xml_reformatted (memory : Memory) (width width' : Nat) (source text : Text) (hroom : width' < memory.limit)
    (h : Engine.format memory .xml width source = ⟨text, none⟩) :
    Markup.splitTags text = Markup.splitTags source ∧ (Engine.format memory .xml width' source).isValid = true ∧
      ((Engine.format memory .xml width' text).isValid = true →
        Engine.format memory .xml width' text = Engine.format memory .xml width' source) ∧
      (¬ Unsteady (Text.trim source) text → (Engine.format memory .xml width' text).isValid = true) := by
  cases hblank : source.isBlank with
  | true =>
    rw [Engine.format_blank memory .xml width hblank] at h
    cases h
    rw [Engine.format_blank memory .xml width' hblank, Markup.splitTags_blank hblank]
    exact ⟨rfl, rfl, fun _ => rfl, fun _ => rfl⟩
  | false =>
    have hvalid : (Engine.format memory .xml width source).error = none := by rw [h]
    obtain ⟨hcheck, hwidth⟩ := check_of_valid hblank hvalid
    rw [format_xml hwidth hblank hcheck] at h
    injection h with htext
    subst htext
    -- the layout is a text that is neither blank nor trimmed any further
    have hblank' : (Markup.format width (Text.trim source)).isBlank = false := by
      rw [Markup.format_trim]
      exact Markup.isBlank_format width hblank
    have htrim : Text.trim (Markup.format width (Text.trim source)) = Markup.format width (Text.trim source) := by
      rw [Markup.format_trim]
      exact Markup.trim_format width hblank
    have hagain : check (Markup.format width (Text.trim source)) = .ok () →
        Engine.format memory .xml width' (Markup.format width (Text.trim source)) =
          ⟨Markup.format width' (Text.trim source), none⟩ := by
      intro hlayout
      rw [format_xml hroom hblank' (htrim.symm ▸ hlayout), htrim, Markup.format_relaid]
    rw [format_xml hroom hblank hcheck]
    refine ⟨?_, rfl, ?_, ?_⟩
    · rw [Markup.splitTags_format, Markup.splitTags_trim]
    · intro hvalid
      have hlayout := (check_of_valid hblank' (Option.isNone_iff_eq_none.mp hvalid)).1
      rw [htrim] at hlayout
      exact hagain hlayout
    · intro hsteady
      rw [hagain (check_format width hblank hcheck hsteady)]
      rfl

theorem xml_reformatted_nested :
    Engine.format .word .xml 4 "<a>\n  <b>x</b>\n</a>" = Engine.format .word .xml 4 "<a><b>x</b></a>" := by
  have hlayout : Engine.format .word .xml 2 "<a><b>x</b></a>" = ⟨"<a>\n  <b>x</b>\n</a>", none⟩ := by
    decide +kernel
  have hagain := xml_reformatted .word 2 4 _ _ (by decide) hlayout
  exact hagain.2.2.1 (hagain.2.2.2 (by decide +kernel))

/-- A namespace whose declared type lets spaces go: the layout loses the no-break space that kept its name from being
empty. -/
def tokenizedNamespace : Text :=
  "<!DOCTYPE a [<!ATTLIST a xmlns:p NMTOKEN #IMPLIED>]><a xmlns:p=\"\u00a0\n\"/>"

/-- An element whose characters are followed by zeros, as in UTF-16: the layout puts one space after its line feed. -/
def wideElement : Text :=
  Text.ofString "<a>\n</a>" |>.flatMap fun c => [c, Char.ofNat 0]

/-- Two documents whose layouts are refused. -/
theorem xml_reformatted_refused :
    ((Engine.format .word .xml 2 tokenizedNamespace).isValid = true ∧
      (Engine.format .word .xml 2 (Engine.format .word .xml 2 tokenizedNamespace).text).isValid = false) ∧
    ((Engine.format .word .xml 1 wideElement).isValid = true ∧
      (Engine.format .word .xml 2 (Engine.format .word .xml 1 wideElement).text).isValid = false) := by
  decide +kernel

end Engine

end Tidy.Xml
