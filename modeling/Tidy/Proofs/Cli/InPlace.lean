/-
# Tidy.Proofs.Cli.InPlace -- formatting a file in place

Formatting a file in place puts the terminated text of the engine into it. A second run does the same again: it reads
the same command line in the same way (`readInPlace`), is given the same preferences, and the engine gives the same text
for what was written. A path that looks like a switch is read as one, so that another text may be formatted; that text is
not in the file, and the second run formats it again. Only XML may be refused the second time, and then nothing is
written (`format_in_place_again`).
-/

import Tidy.Proofs.Cli.CommandLine
import Tidy.Proofs.Cli.Rerun
import Tidy.Proofs.Settling
import Tidy.Proofs.Text.Utf8

namespace Tidy

/-- The text of the file at a path. -/
def Directory.text? (d : Directory) (path : Text) : Option Text :=
  match d.look path with
  | .file content => (Text.ofFile content).toOption
  | _ => none

theorem Directory.text?_of_file {d : Directory} {path : Text} {content : List UInt8} (h : d.look path = .file content)
    {t : Text} (hread : Text.ofFile content = .ok t) : d.text? path = some t := by
  rw [text?, h]
  dsimp only
  rw [hread]
  rfl

namespace Cli

open CodePoint (char)

/-! ## What is delivered -/

/-- What formatting in place delivers, step by step. -/
theorem delivery?_inPlace (s : Surroundings) (config : Option Text) (path : Text) (language : Language) :
    delivery? s (inPlace config path language) = (do
      let _ ← (understand s.directory .program (inPlace config path language)).toOption
      let settings ← (Settings.load s.directory config none).toOption
      let b ← (understand s.directory (.command .format) (inPlaceArguments path language)).toOption
      let argument ← (checkArgument s.directory .format b.others).toOption
      formatDelivery? s settings b argument) := by
  unfold delivery?
  cases hunderstand : understand s.directory .program (inPlace config path language) with
  | error outcome => rfl
  | ok a =>
    obtain rfl := Except.ok.inj ((read_of_understand hunderstand).symm.trans (read_inPlace config path language))
    dsimp only [Except.toOption, Option.bind_eq_bind, Option.bind_some]
    rw [value?_inPlace]
    rfl

/-- What is delivered in a directory where a file was rewritten that holds no preferences. -/
theorem exists_formatDelivery {s : Surroundings} {config : Option Text} {path : Text} {language : Language}
    {delivery : Delivery} (h : delivery? s (inPlace config path language) = some delivery) :
    ∃ settings b argument, Settings.load s.directory config none = .ok settings ∧ ReadInPlace path language b ∧
      checkArgument s.directory .format b.others = .ok argument ∧
      formatDelivery? s settings b argument = some delivery ∧
      ∀ {after : Directory} {rewritten : List Text} {content : List UInt8},
        s.directory.Rewrites after rewritten content →
        (∀ file, Settings.source? s.directory config = some file → s.directory.place file ≠ .ok rewritten) →
        delivery? { s with directory := after } (inPlace config path language) =
          formatDelivery? { s with directory := after } settings b argument := by
  rw [delivery?_inPlace] at h
  simp only [Option.bind_eq_bind, Option.bind_eq_some_iff] at h
  obtain ⟨a, ha, settings, hsettings, b, hb, argument, hargument, hdelivery⟩ := h
  have hok : ∀ {α β : Type} {e : Except α β} {x : β}, e.toOption = some x → e = .ok x := by
    intro α β e x hx
    cases e with
    | error => cases hx
    | ok y => rw [Option.some.inj hx]
  refine ⟨settings, b, argument, hok hsettings, readInPlace (read_of_understand (hok hb)), hok hargument, hdelivery, ?_⟩
  intro after rewritten content hrewrites hother
  rw [delivery?_inPlace]
  simp only [Option.bind_eq_bind, toOption_understand_rewrites hrewrites, Settings.load_rewrites hrewrites hother,
    checkArgument_rewrites hrewrites, ha, hsettings, hb, hargument, Option.bind_some]

/-- The file that a formatted text is to be written to. -/
def formatFile (settings : Settings) (a : Arguments) (path : Text) : Option Text :=
  let language := languageOf settings path (a.value? .language)
  let named := (a.value? .output).filter (!·.isEmpty)
  let saved := if a.isSet .save then some language.defaultFilename else none
  (named.or saved).filter (!·.isEmpty)

theorem formatFile_of_output {settings : Settings} {a : Arguments} {path file : Text}
    (h : a.value? .output = some file) (hne : file ≠ []) : formatFile settings a path = some file := by
  simp [formatFile, h, hne]

theorem formatDelivery?_of_read {s : Surroundings} {settings : Settings} {a : Arguments} {path source : Text}
    {width : Nat} (hwidth : widthOf settings (a.value? .indent) = .ok width) (hsource : readSource s path = .ok source) :
    formatDelivery? s settings a path =
      let result := Engine.format s.memory (languageOf settings path (a.value? .language)) width source
      if result.isValid then some ⟨result.text, formatFile settings a path⟩ else none := by
  unfold formatDelivery?
  rw [hwidth, hsource]
  rfl

theorem exists_read {s : Surroundings} {settings : Settings} {a : Arguments} {path : Text} {delivery : Delivery}
    (h : formatDelivery? s settings a path = some delivery) : ∃ width source,
      widthOf settings (a.value? .indent) = .ok width ∧ readSource s path = .ok source ∧
      Engine.format s.memory (languageOf settings path (a.value? .language)) width source = ⟨delivery.text, none⟩ ∧
      delivery.file = formatFile settings a path := by
  cases hwidth : widthOf settings (a.value? .indent) with
  | error fault =>
    unfold formatDelivery? at h
    rw [hwidth] at h
    cases h
  | ok width =>
    cases hsource : readSource s path with
    | error crash =>
      unfold formatDelivery? at h
      rw [hwidth, hsource] at h
      cases h
    | ok source =>
      rw [formatDelivery?_of_read hwidth hsource] at h
      dsimp only at h
      split at h
      · rename_i hvalid
        obtain rfl := Option.some.inj h
        refine ⟨width, source, rfl, rfl, ?_, rfl⟩
        rw [Formatted.isValid, Option.isNone_iff_eq_none] at hvalid
        rw [← hvalid]
      · cases h

/-! ## The second run -/

/-- May formatting refuse what stands at the path afterwards? -/
def MayRefuse (language : Language) (before after : Directory) (path : Text) : Prop :=
  language = .xml ∧ ∃ s t, before.text? path = some s ∧ after.text? path = some t ∧
    Xml.Unsteady (Text.trim s) (Text.trim t)

theorem languageOf_tag {settings : Settings} {path : Text} {given : Option Text} {language : Language}
    (h : given = some language.tag) : languageOf settings path given = language := by
  rw [h]
  cases language <;> rfl

/-- The source that is read at a path is the text of the file. -/
theorem readSource_eq_ok_iff {s : Surroundings} {path : Text} (hpath : path ≠ dash) {content : List UInt8}
    (hfile : s.directory.look path = .file content) {source : Text} :
    readSource s path = .ok source ↔ Text.ofFile content = .ok source := by
  rw [readSource, if_neg hpath, hfile]
  dsimp only
  cases Text.ofFile content with
  | error fault =>
    constructor
    · rintro ⟨⟩
    · rintro ⟨⟩
  | ok found => exact ⟨fun h => congrArg Except.ok (Except.ok.inj h), fun h => congrArg Except.ok (Except.ok.inj h)⟩

section Again

variable {s : Surroundings} {settings : Settings} {b : Arguments} {path : Text} {language : Language} {text : Text}
  {file : Option Text} {content bytes : List UInt8} {after : Directory} {place : List Text}

/-- What is delivered from the file that was written. -/
theorem formatDelivery?_written (hlanguage : language ≠ .typescript) (hpath : path ≠ dash)
    (hfile : s.directory.look path = .file content) (hplace : s.directory.place path = .ok place)
    (hb : b.value? .language = some language.tag) (h : formatDelivery? s settings b path = some ⟨text, file⟩)
    (hafter : s.directory.Rewrites after place bytes) (hbytes : Text.toUtf8? (Text.terminated text) = some bytes) :
    formatDelivery? { s with directory := after } settings b path = some ⟨text, file⟩ ∨
      (formatDelivery? { s with directory := after } settings b path = none ∧
        MayRefuse language s.directory after path) := by
  obtain ⟨width, source, hwidth, hsource, hformat, hfileOf⟩ := exists_read h
  rw [languageOf_tag hb] at hformat
  have hcontent := (readSource_eq_ok_iff hpath hfile).mp hsource
  -- what was written is read as it was written
  have hlook : after.look path = .file bytes := hafter.look_of_file hplace hfile
  have hends := Engine.plainEnds_format hlanguage (Text.plainEnds_ofFile hcontent) hformat
  have hwritten : Text.ofFile bytes = .ok (Text.terminated text) :=
    Text.ofFile_of_toUtf8? (Text.plainEnds_terminated hends) hbytes
  have hagain : readSource { s with directory := after } path = .ok (Text.terminated text) :=
    (readSource_eq_ok_iff hpath hlook).mpr hwritten
  obtain ⟨hsame, hsteady⟩ := Engine.format_terminated hlanguage hformat
  rw [formatDelivery?_of_read hwidth hagain, languageOf_tag hb]
  dsimp only
  cases hvalid : (Engine.format s.memory language width (Text.terminated text)).isValid with
  | true =>
    rw [if_pos rfl, hsame hvalid, ← hfileOf]
    exact Or.inl rfl
  | false =>
    refine Or.inr ⟨if_neg Bool.false_ne_true, ?_⟩
    by_contra hnot
    rw [hsteady] at hvalid
    · cases hvalid
    · rintro ⟨hxml, hunsteady⟩
      exact hnot ⟨hxml, source, Text.terminated text, Directory.text?_of_file hfile hcontent,
        Directory.text?_of_file hlook hwritten, hunsteady⟩

/-- What is delivered a second time. -/
theorem delivery?_again {config : Option Text} (hlanguage : language ≠ .typescript)
    (hfile : s.directory.look path = .file content) (hplace : s.directory.place path = .ok place)
    (hconfig : ∀ other, Settings.source? s.directory config = some other → s.directory.place other ≠ .ok place)
    (h : delivery? s (inPlace config path language) = some ⟨text, file⟩)
    (hafter : s.directory.Rewrites after place bytes) (hbytes : Text.toUtf8? (Text.terminated text) = some bytes) :
    delivery? { s with directory := after } (inPlace config path language) = some ⟨text, file⟩ ∨
      (delivery? { s with directory := after } (inPlace config path language) = none ∧
        MayRefuse language s.directory after path) := by
  obtain ⟨settings, b, argument, -, hread, hargument, hdelivery, hagain⟩ := exists_formatDelivery h
  rw [hagain hafter hconfig]
  by_cases hdash : argument = dash
  · rw [formatDelivery?_rewrites hafter (Or.inl hdash), hdelivery]
    exact Or.inl rfl
  rcases (readInPlace_argument hread hargument).2 with ⟨rfl, hb, -⟩ | ⟨hinput, -⟩ | ⟨rfl, hname⟩
  · exact formatDelivery?_written hlanguage hdash hfile hplace hb hdelivery hafter hbytes
  · exact absurd hinput hdash
  · have hother : s.directory.place language.tag ≠ .ok place := hplace ▸ place_tag_ne hname language
    rw [formatDelivery?_rewrites hafter (Or.inr hother), hdelivery]
    exact Or.inl rfl

end Again

/-! ## The first run -/

theorem fileForm?_eq (text : Text) : fileForm? text = Text.toUtf8? (Text.terminated text) := by
  cases text <;> rfl

/-- A delivery rewrites the file that is there. -/
theorem rewrites_of_deliversTo {s : Surroundings} {arguments : List Text} {text : Text} {place : List Text}
    (h : DeliversTo s arguments text place) {bytes : List UInt8} (hform : fileForm? text = some bytes)
    (hthere : (s.directory.file? place).isSome = true) :
    s.directory.Rewrites (run s arguments).directory place bytes := by
  obtain ⟨path, hdelivery, hleads⟩ := h
  have hact := delivers_act s arguments
  rw [hdelivery] at hact
  have hwrite : act s arguments = writeFile s.directory path text := hact.trans (emit_of_leads hleads text)
  rw [writeFile_eq, hform, Option.getD_some, Directory.write_of_leads hleads] at hwrite
  show s.directory.Rewrites (act s arguments).directory place bytes
  rw [hwrite]
  exact Directory.rewrites_put hthere bytes

/-- A run that goes well leads to a file that it is to write. -/
theorem leads_of_exitCode {s : Surroundings} {arguments : List Text} {text path : Text} (hne : path ≠ [])
    (h : delivery? s arguments = some ⟨text, some path⟩) (hexit : (run s arguments).exitCode = 0)
    {content : List UInt8} (hfile : s.directory.look path = .file content) :
    ∃ place, s.directory.place path = .ok place ∧ s.directory.Leads path place ∧
      s.directory.file? place = some content := by
  obtain ⟨place, hplace, hdirectory, hdevice, hcontent⟩ := Directory.place_of_look hfile
  refine ⟨place, hplace, ?_, hcontent⟩
  cases hnormal : s.directory.place (Path.normal path) with
  | ok place' =>
    obtain rfl := Directory.place_normal_eq hplace hnormal
    exact ⟨hnormal, hdirectory, hdevice⟩
  | error fault =>
    -- a write that is refused shows in the exit code
    exfalso
    have hact := delivers_act s arguments
    rw [h] at hact
    have hwrite : act s arguments = writeFile s.directory path text := by
      refine hact.trans ?_
      unfold emit
      rw [Option.filter_some_pos]
      simpa using hne
    have hrefused : s.directory.write path ((fileForm? text).getD []) = .error fault := by
      unfold Directory.write
      rw [hnormal]
      rfl
    rw [writeFile_eq, hrefused] at hwrite
    have hzero : (act s arguments).exitCode = 0 := hexit
    rw [hwrite] at hzero
    cases hzero

/-! ### Exit codes -/

theorem exitCode_failed (d : Directory) (message : Text) : (Outcome.failed d message).exitCode = 1 := by
  unfold Outcome.failed
  cases Console.error message <;> rfl

theorem exitCode_stopped (d : Directory) (stop : Stop) : (Outcome.stopped d stop).exitCode ≠ 0 := by
  cases stop with
  | usage fault => exact Nat.succ_ne_zero 1
  | crash crash => exact Nat.one_ne_zero

/-- Arguments that ask for no page are understood, or the run does not go well. -/
theorem exitCode_understand {d : Directory} {scope : Scope} {arguments : List Text} {outcome : Outcome}
    (hpage : ∀ a, Arguments.read scope arguments = .ok a → pageAsked? scope a = none)
    (h : understand d scope arguments = .error outcome) : outcome.exitCode ≠ 0 := by
  unfold understand at h
  split at h
  · obtain rfl := Except.error.inj h
    exact Nat.succ_ne_zero 1
  · rename_i a hread
    rw [hpage a hread] at h
    dsimp only at h
    split at h
    · obtain rfl := Except.error.inj h
      exact exitCode_stopped d _
    · cases h

theorem exitCode_settingsFailed (d : Directory) (fault : Settings.FileFault) :
    (settingsFailed d fault).exitCode ≠ 0 := by
  unfold settingsFailed
  split
  · exact Nat.one_ne_zero
  · exact Nat.one_ne_zero
  · exact Nat.one_ne_zero
  · rw [exitCode_failed]
    exact Nat.one_ne_zero

/-- Formatting that delivers nothing does not go well. -/
theorem exitCode_format {s : Surroundings} {settings : Settings} {a : Arguments} {path : Text}
    (h : formatDelivery? s settings a path = none) : (format s settings a path).exitCode ≠ 0 := by
  have hfailed : ∀ message, (Outcome.failed s.directory message).exitCode ≠ 0 := by
    intro message
    rw [exitCode_failed]
    exact Nat.one_ne_zero
  simp only [format]
  cases hwidth : widthOf settings (a.value? .indent) with
  | error fault => exact hfailed _
  | ok width =>
    cases hsource : readSource s path with
    | error crash => exact Nat.one_ne_zero
    | ok source =>
      rw [formatDelivery?_of_read hwidth hsource] at h
      dsimp only at h ⊢
      generalize Engine.format s.memory (languageOf settings path (a.value? .language)) width source = result at h ⊢
      obtain ⟨text, error⟩ := result
      cases error with
      | some message => exact hfailed message
      | none => cases h

/-- A command that goes well delivers something, unless the path is read as a switch. -/
theorem exists_delivery_command {s : Surroundings} {settings : Settings} {path : Text} {language : Language}
    (hpath : path.head? ≠ some (char '-'))
    (hexit : (runCommand s settings .format (inPlaceArguments path language)).exitCode = 0) :
    ∃ b argument delivery, understand s.directory (.command .format) (inPlaceArguments path language) = .ok b ∧
      checkArgument s.directory .format b.others = .ok argument ∧
      formatDelivery? s settings b argument = some delivery := by
  unfold runCommand at hexit
  cases hcommand : understand s.directory (.command .format) (inPlaceArguments path language) with
  | error outcome =>
    rw [hcommand] at hexit
    refine absurd hexit (exitCode_understand ?_ hcommand)
    intro b hb
    cases readInPlace hb with
    | file => rfl
    | input hdash => exact absurd hdash hpath
    | value hname => exact absurd (head?_of_mem_valueNames hname) hpath
    | extra hdash => exact absurd hdash hpath
  | ok b =>
    rw [hcommand] at hexit
    dsimp only at hexit
    cases hargument : checkArgument s.directory .format b.others with
    | error stop =>
      rw [hargument] at hexit
      exact absurd hexit (exitCode_stopped s.directory stop)
    | ok argument =>
      rw [hargument] at hexit
      cases hdelivery : formatDelivery? s settings b argument with
      | none => exact absurd hexit (exitCode_format hdelivery)
      | some delivery => exact ⟨b, argument, delivery, rfl, hargument, hdelivery⟩

/-- A run that formats a file in place and goes well delivers something, unless the path is read as a switch. -/
theorem exists_delivery_inPlace {s : Surroundings} {config : Option Text} {path : Text} {language : Language}
    (hpath : path.head? ≠ some (char '-')) (hexit : (run s (inPlace config path language)).exitCode = 0) :
    ∃ delivery, delivery? s (inPlace config path language) = some delivery := by
  have hact : (act s (inPlace config path language)).exitCode = 0 := hexit
  have hnonempty : (inPlace config path language).isEmpty = false := by cases config <;> rfl
  unfold act at hact
  rw [hnonempty, if_neg Bool.false_ne_true] at hact
  cases hunderstand : understand s.directory .program (inPlace config path language) with
  | error outcome =>
    rw [hunderstand] at hact
    refine absurd hact (exitCode_understand ?_ hunderstand)
    intro a ha
    obtain rfl := Except.ok.inj (ha.symm.trans (read_inPlace config path language))
    cases config <;> rfl
  | ok a =>
    obtain rfl := Except.ok.inj ((read_of_understand hunderstand).symm.trans (read_inPlace config path language))
    have hnamed : Command.named? "format" = some .format := rfl
    rw [hunderstand] at hact
    dsimp only at hact
    rw [hnamed, value?_inPlace] at hact
    dsimp only at hact
    cases hload : Settings.load s.directory config none with
    | error fault =>
      rw [hload] at hact
      exact absurd hact (exitCode_settingsFailed s.directory fault)
    | ok settings =>
      rw [hload] at hact
      obtain ⟨b, argument, delivery, hb, hargument, hdelivery⟩ := exists_delivery_command hpath hact
      refine ⟨delivery, ?_⟩
      simp [delivery?_inPlace, Except.toOption, hunderstand, hload, hb, hargument, hdelivery]

/-- What a run that goes well does to the files: nothing, or it delivers a text to the file. -/
theorem run_inPlace_cases {s : Surroundings} {config : Option Text} {path : Text} {language : Language}
    {content : List UInt8} (hfile : s.directory.look path = .file content)
    (hexit : (run s (inPlace config path language)).exitCode = 0) :
    (delivery? s (inPlace config path language) = none ∧
        (run s (inPlace config path language)).directory = s.directory) ∨
      ∃ text place bytes, delivery? s (inPlace config path language) = some ⟨text, some path⟩ ∧
        s.directory.place path = .ok place ∧ s.directory.Leads path place ∧
        Text.toUtf8? (Text.terminated text) = some bytes ∧
        s.directory.Rewrites (run s (inPlace config path language)).directory place bytes := by
  cases hdelivery : delivery? s (inPlace config path language) with
  | none =>
    have hact := delivers_act s (inPlace config path language)
    rw [hdelivery] at hact
    exact Or.inl ⟨rfl, hact⟩
  | some delivery =>
    obtain ⟨text, file⟩ := delivery
    -- the empty path names no file, and would not be taken for an output
    have hne : path ≠ [] := by
      rintro rfl
      cases hfile
    obtain rfl : file = some path := by
      obtain ⟨settings, b, argument, -, hread, hargument, hformat, -⟩ := exists_formatDelivery hdelivery
      obtain ⟨width, source, -, -, -, hfileOf⟩ := exists_read hformat
      exact hfileOf.trans (formatFile_of_output (readInPlace_argument hread hargument).1 hne)
    obtain ⟨place, hplace, hleads, hcontent⟩ := leads_of_exitCode hne hdelivery hexit hfile
    have hto : DeliversTo s (inPlace config path language) text place := ⟨path, hdelivery, hleads⟩
    obtain ⟨bytes, hform⟩ := Option.isSome_iff_exists.mp ((run_of_deliversTo hto).2.mp hexit)
    refine Or.inr ⟨text, place, bytes, rfl, hplace, hleads, by rw [← fileForm?_eq, hform], ?_⟩
    exact rewrites_of_deliversTo hto hform (by rw [hcontent]; rfl)

/-- The file that a run formats in place holds the terminated text of the engine, for what stood in it. -/
theorem written_inPlace {s : Surroundings} {config : Option Text} {path : Text} {language : Language}
    {content : List UInt8} (hpath : path.head? ≠ some (char '-')) (hfile : s.directory.look path = .file content)
    (hexit : (run s (inPlace config path language)).exitCode = 0) :
    ∃ settings width source text bytes, Settings.load s.directory config none = .ok settings ∧
      settings.indentWidth = .ok width ∧ Text.ofFile content = .ok source ∧
      Engine.format s.memory language width source = ⟨text, none⟩ ∧
      Text.toUtf8? (Text.terminated text) = some bytes ∧
      (run s (inPlace config path language)).directory.look path = .file bytes := by
  obtain ⟨delivery, hdelivery⟩ := exists_delivery_inPlace hpath hexit
  rcases run_inPlace_cases hfile hexit with ⟨hnone, -⟩ | ⟨text, place, bytes, hsome, hplace, -, hbytes, hrewrites⟩
  · rw [hnone] at hdelivery
    cases hdelivery
  obtain ⟨settings, b, argument, hload, hread, hargument, hformat, -⟩ := exists_formatDelivery hsome
  obtain ⟨width, source, hwidth, hsource, hresult, -⟩ := exists_read hformat
  have hdash : path ≠ dash := by
    rintro rfl
    exact hpath rfl
  have hlook := hrewrites.look_of_file hplace hfile
  rcases (readInPlace_argument hread hargument).2 with ⟨rfl, hb, hindent⟩ | ⟨-, hswitch⟩ | ⟨-, hname⟩
  · rw [languageOf_tag hb] at hresult
    rw [hindent] at hwidth
    refine ⟨settings, width, source, text, bytes, hload, hwidth, ?_, hresult, hbytes, hlook⟩
    exact (readSource_eq_ok_iff hdash hfile).mp hsource
  · exact absurd hswitch hpath
  · exact absurd (head?_of_mem_valueNames hname) hpath

/-! ## Both runs -/

/-- A run that delivers the content that is in the file already changes nothing, and goes well. -/
theorem run_delivered {s : Surroundings} {arguments : List Text} {text : Text} {place : List Text}
    (h : DeliversTo s arguments text place) {bytes : List UInt8} (hform : fileForm? text = some bytes)
    (hthere : s.directory.file? place = some bytes) :
    s.directory.Same (run s arguments).directory ∧ (run s arguments).exitCode = 0 := by
  obtain ⟨hholds, hexit⟩ := run_of_deliversTo h
  rw [hform] at hholds hexit
  refine ⟨?_, hexit.mpr rfl⟩
  intro other
  by_cases hother : other = place
  · rw [hother, hholds.there, hthere]
    rfl
  · exact hholds.others other hother

/-- Formatting a file in place a second time leaves all files as the first run left them, the formatted one among them,
and goes well if the first run did, except that XML may be refused. The first run puts the terminated text of the engine
into the file, unless the path is read as a switch. -/
theorem format_in_place_again (s : Surroundings) (config : Option Text) (path : Text) (language : Language)
    (content : List UInt8) (hlanguage : language ≠ .typescript) (hfile : s.directory.look path = .file content)
    (hconfig : ∀ file, Settings.source? s.directory config = some file →
      s.directory.place file ≠ s.directory.place path)
    (hexit : (run s (inPlace config path language)).exitCode = 0) :
    let first := run s (inPlace config path language)
    let second := run { s with directory := first.directory } (inPlace config path language)
    first.directory.Same second.directory ∧
      (¬ MayRefuse language s.directory first.directory path → second.exitCode = 0) ∧
      (path.head? ≠ some (char '-') →
        ∃ settings width source text bytes, Settings.load s.directory config none = .ok settings ∧
          settings.indentWidth = .ok width ∧ Text.ofFile content = .ok source ∧
          Engine.format s.memory language width source = ⟨text, none⟩ ∧
          Text.toUtf8? (Text.terminated text) = some bytes ∧ first.directory.look path = .file bytes) := by
  intro first second
  suffices hagain : first.directory.Same second.directory ∧
      (¬ MayRefuse language s.directory first.directory path → second.exitCode = 0) from
    ⟨hagain.1, hagain.2, fun hpath => written_inPlace hpath hfile hexit⟩
  rcases run_inPlace_cases hfile hexit with
    ⟨-, hdirectory⟩ | ⟨text, place, bytes, hsome, hplace, hleads, hbytes, hrewrites⟩
  · -- nothing was written, so that the second run is the first one
    have hsame : second = first := by
      show run { s with directory := first.directory } _ = _
      rw [hdirectory]
    rw [hsame]
    exact ⟨fun _ => rfl, fun _ => hexit⟩
  · rw [hplace] at hconfig
    rcases delivery?_again hlanguage hfile hplace hconfig hsome hrewrites hbytes with hagain | ⟨hnone, hrefused⟩
    · have hto : DeliversTo { s with directory := first.directory } (inPlace config path language) text place :=
        ⟨path, hagain, (hrewrites.leads path place).mpr hleads⟩
      obtain ⟨hsame, hzero⟩ := run_delivered hto ((fileForm?_eq text).trans hbytes) hrewrites.holds.there
      exact ⟨hsame, fun _ => hzero⟩
    · have hact := delivers_act { s with directory := first.directory } (inPlace config path language)
      rw [hnone] at hact
      have hdirectory : second.directory = first.directory := hact
      rw [hdirectory]
      exact ⟨fun _ => rfl, fun hnot => absurd hrefused hnot⟩

/-- A directory with one file. -/
def withFile (name text : Text) : Surroundings where
  directory := {
    name := "/work"
    home := ["work"]
    files := [(["work", name], (Text.toUtf8? text).getD [])] }
  input := []

/-- A style sheet with a comment that is not closed, in lines that end with carriage returns. -/
def openComment : Text := "a\x7bb:c\x7d\r\n/* d"

theorem format_in_place_again_openComment :
    (withFile "a.css" openComment).directory.look "a.css" = .file ((Text.toUtf8? openComment).getD []) ∧
      Settings.source? (withFile "a.css" openComment).directory none = none ∧
      (run (withFile "a.css" openComment) (inPlace none "a.css" .css)).exitCode = 0 ∧
      (run { withFile "a.css" openComment with
          directory := (run (withFile "a.css" openComment) (inPlace none "a.css" .css)).directory }
        (inPlace none "a.css" .css)).exitCode = 0 := by
  have hfile : (withFile "a.css" openComment).directory.look "a.css" =
      .file ((Text.toUtf8? openComment).getD []) := by
    decide +kernel
  have hsource : Settings.source? (withFile "a.css" openComment).directory none = none := by
    decide +kernel
  have hexit : (run (withFile "a.css" openComment) (inPlace none "a.css" .css)).exitCode = 0 := by
    decide +kernel
  refine ⟨hfile, hsource, hexit, ?_⟩
  refine (format_in_place_again _ none "a.css" .css _ (by decide) hfile ?_ hexit).2.1 ?_
  · intro file hfound
    rw [hsource] at hfound
    cases hfound
  · rintro ⟨hxml, -⟩
    cases hxml

/-- An XML document that is formatted in place and refused then. -/
theorem format_in_place_again_refused :
    let s := withFile "a.xml" Xml.tokenizedNamespace
    let command := inPlace none "a.xml" .xml
    s.directory.look "a.xml" = .file ((Text.toUtf8? Xml.tokenizedNamespace).getD []) ∧
      Settings.source? s.directory none = none ∧ (run s command).exitCode = 0 ∧
      (run { s with directory := (run s command).directory } command).exitCode ≠ 0 := by
  intro s command
  have hsecond : (delivery? { s with directory := (run s command).directory } command).isNone = true := by
    decide +kernel
  refine ⟨by decide +kernel, by decide +kernel, by decide +kernel, ?_⟩
  intro hexit
  obtain ⟨delivery, hdelivery⟩ := exists_delivery_inPlace (by decide) hexit
  rw [hdelivery] at hsecond
  cases hsecond

end Cli

end Tidy
