/-
# Tidy.Proofs.Cli.Files -- which files a run changes

A run changes files only where it delivers a text of the engine to a file that is named. `delivery?` says for which
command lines this happens, with the text and the file; every other run leaves the directory as it was. A delivery
puts the text into the file, and touches no other. It can only go wrong on a text with a lone surrogate, and then
the file is there, empty, although the run fails: `run_files` gives the exact condition.
-/

import Tidy.Cli.Run
import Tidy.Proofs.Directory
import Tidy.Proofs.Json.Reading
import Tidy.Proofs.Minify

namespace Tidy

namespace Cli

/-! ## Deliveries -/

/-- A text of the engine and the file that it is to be written to, if one is named. -/
structure Delivery where
  text : Text
  file : Option Text

/-- What formatting delivers, if the width can be told and the engine accepts the source. -/
def formatDelivery? (s : Surroundings) (settings : Settings) (a : Arguments) (path : Text) : Option Delivery := do
  let language := languageOf settings path (a.value? .language)
  let width ← (widthOf settings (a.value? .indent)).toOption
  let source ← (readSource s path).toOption
  let result := Engine.format s.memory language width source
  let named := (a.value? .output).filter (!·.isEmpty)
  let saved := if a.isSet .save then some language.defaultFilename else none
  if result.isValid then some ⟨result.text, (named.or saved).filter (!·.isEmpty)⟩ else none

/-- What minifying delivers. -/
def minifyDelivery? (s : Surroundings) (settings : Settings) (a : Arguments) (path : Text) : Option Delivery := do
  let language := languageOf settings path (a.value? .language)
  let source ← (readSource s path).toOption
  some ⟨Engine.minify language settings.minifyFallback source, (a.value? .output).filter (!·.isEmpty)⟩

/-- What a command delivers. Only formatting and minifying do. -/
def Command.delivery? (s : Surroundings) (settings : Settings) (command : Command) (a : Arguments)
    (argument : Text) : Option Delivery :=
  match command with
  | .format => formatDelivery? s settings a argument
  | .minify => minifyDelivery? s settings a argument
  | _ => none

/-- What a run delivers, if its arguments and its settings can be understood. -/
def delivery? (s : Surroundings) (arguments : List Text) : Option Delivery := do
  let a ← (understand s.directory .program arguments).toOption
  let name ← a.others.head?
  let command ← Command.named? name
  let settings ← (Settings.load s.directory (a.value? .config) none).toOption
  let b ← (understand s.directory (.command command) a.others.tail).toOption
  let argument ← (checkArgument s.directory command b.others).toOption
  command.delivery? s settings b argument

/-- The outcome is that of the delivery; where there is none, the directory is as it was. -/
def Delivers (d : Directory) (outcome : Outcome) : Option Delivery → Prop
  | some delivery => outcome = emit d delivery.text delivery.file
  | none => outcome.directory = d

theorem directory_ended (d : Directory) (shown : Except Console.MarkupFault Text) :
    (Outcome.ended d shown).directory = d := by
  cases shown <;> rfl

theorem directory_failed (d : Directory) (message : Text) : (Outcome.failed d message).directory = d :=
  directory_ended d (Console.error message)

theorem directory_stopped (d : Directory) (stop : Stop) : (Outcome.stopped d stop).directory = d := by
  cases stop <;> rfl

theorem emit_filter (d : Directory) (text : Text) (file : Option Text) :
    emit d text (file.filter (!·.isEmpty)) = emit d text file := by
  unfold emit
  rw [Option.filter_filter]
  simp only [Bool.and_self]

theorem delivers_failed (d : Directory) (message : Text) : Delivers d (Outcome.failed d message) none :=
  directory_failed d message

theorem delivers_format (s : Surroundings) (settings : Settings) (a : Arguments) (path : Text) :
    Delivers s.directory (format s settings a path) (formatDelivery? s settings a path) := by
  simp only [format, formatDelivery?]
  cases widthOf settings (a.value? .indent) with
  | error fault => exact delivers_failed s.directory fault.message
  | ok width =>
    cases readSource s path with
    | error crash => rfl
    | ok source =>
      simp only [Except.toOption, Option.bind_eq_bind, Option.bind_some, Formatted.isValid]
      generalize Engine.format s.memory (languageOf settings path (a.value? .language)) width source = result
      obtain ⟨text, error⟩ := result
      cases error with
      | some message => exact delivers_failed s.directory message
      | none => exact (emit_filter _ _ _).symm

theorem delivers_minify (s : Surroundings) (settings : Settings) (a : Arguments) (path : Text) :
    Delivers s.directory (minify s settings a path) (minifyDelivery? s settings a path) := by
  unfold minify minifyDelivery?
  cases readSource s path with
  | error crash => rfl
  | ok source => exact (emit_filter _ _ _).symm

theorem delivers_perform (s : Surroundings) (settings : Settings) (command : Command) (a : Arguments)
    (argument : Text) :
    Delivers s.directory (perform s settings command a argument) (command.delivery? s settings a argument) := by
  cases command with
  | format => exact delivers_format s settings a argument
  | minify => exact delivers_minify s settings a argument
  | validate =>
    show (validate s settings a argument).directory = s.directory
    unfold validate
    cases readSource s argument <;> rfl
  | sample => rfl
  | languages => rfl
  | server => rfl

/-- A page or a refusal comes with the directory as it was. -/
theorem directory_understand {d : Directory} {scope : Scope} {arguments : List Text} {outcome : Outcome}
    (h : understand d scope arguments = .error outcome) : outcome.directory = d := by
  unfold understand at h
  split at h
  · injection h with h
    rw [← h]
    rfl
  · split at h
    · injection h with h
      rw [← h]
      rfl
    · split at h
      · injection h with h
        rw [← h]
        exact directory_stopped _ _
      · cases h

theorem delivers_runCommand (s : Surroundings) (settings : Settings) (command : Command) (arguments : List Text) :
    Delivers s.directory (runCommand s settings command arguments) (do
      let b ← (understand s.directory (.command command) arguments).toOption
      let argument ← (checkArgument s.directory command b.others).toOption
      command.delivery? s settings b argument) := by
  unfold runCommand
  cases hunderstand : understand s.directory (.command command) arguments with
  | error outcome => exact directory_understand hunderstand
  | ok b =>
    dsimp only [Except.toOption, Option.bind_eq_bind, Option.bind_some]
    cases checkArgument s.directory command b.others with
    | error stop => exact directory_stopped _ _
    | ok argument => exact delivers_perform s settings command b argument

theorem directory_settingsFailed (d : Directory) (fault : Settings.FileFault) :
    (settingsFailed d fault).directory = d := by
  unfold settingsFailed
  split
  · rfl
  · rfl
  · rfl
  · exact directory_failed _ _

theorem directory_unknownCommand (d : Directory) (name : Text) (arguments : List Text) :
    (unknownCommand d name arguments).directory = d := by
  unfold unknownCommand
  split
  · split
    · rename_i hunderstand
      exact directory_understand hunderstand
    · rfl
  · rfl

/-- A run does what its delivery says, and nothing else to the files. -/
theorem delivers_act (s : Surroundings) (arguments : List Text) :
    Delivers s.directory (act s arguments) (delivery? s arguments) := by
  cases arguments with
  | nil => rfl
  | cons first more =>
    unfold act delivery?
    rw [List.isEmpty_cons, if_neg Bool.false_ne_true]
    cases hunderstand : understand s.directory .program (first :: more) with
    | error outcome => exact directory_understand hunderstand
    | ok a =>
      dsimp only [Except.toOption, Option.bind_eq_bind, Option.bind_some]
      cases a.others with
      | nil => rfl
      | cons name rest =>
        dsimp only [List.head?_cons, List.tail_cons, Option.bind_some]
        cases Command.named? name with
        | none => exact directory_unknownCommand _ _ _
        | some command =>
          dsimp only [Option.bind_some]
          cases Settings.load s.directory (a.value? .config) none with
          | error fault => exact directory_settingsFailed _ _
          | ok settings => exact delivers_runCommand s settings command rest

/-! ## What a delivery does to the files -/

/-- What a file is to hold for a text: its UTF-8 form with a line feed after it, or nothing if the text is empty. -/
def fileForm? (text : Text) : Option (List UInt8) :=
  if text.isEmpty then some [] else Text.toUtf8? (text ++ "\n")

theorem fileForm?_eq_none_iff (text : Text) : fileForm? text = none ↔ text.hasSurrogate = true := by
  have hline : Text.hasSurrogate (text ++ "\n") = text.hasSurrogate := by
    rw [Text.hasSurrogate, List.any_append]
    exact Bool.or_false _
  unfold fileForm? Text.toUtf8?
  rw [hline]
  cases text with
  | nil => simp [Text.hasSurrogate]
  | cons c text => cases Text.hasSurrogate (c :: text) <;> simp

theorem not_leads_nil (d : Directory) (place : List Text) : ¬ d.Leads [] place := by
  rintro ⟨hplace, hdirectory, -⟩
  -- the empty path is the working directory itself
  have hhome : d.isDirectory d.home = true := by simp [Directory.isDirectory]
  have hself : d.place (Path.normal []) = .ok d.home := by
    show (if d.isDirectory d.home then _ else _) = _
    rw [if_pos hhome]
    rfl
  rw [hself] at hplace
  obtain rfl : d.home = place := by injection hplace
  rw [hhome] at hdirectory
  cases hdirectory

theorem writeFile_eq (d : Directory) (path text : Text) :
    writeFile d path text = match d.write path ((fileForm? text).getD []) with
      | .error fault => .crashed d (.unwritable fault)
      | .ok written =>
        if (fileForm? text).isNone then .crashed written .unencodable
        else ⟨0, [], Console.echoed ("Output written to " ++ path ++ "\n"), none, written⟩ := rfl

/-- Where no file can stand, nothing changes. -/
theorem writeFile_of_not_leads {d : Directory} {path : Text} (h : ∀ place, ¬ d.Leads path place) (text : Text) :
    (writeFile d path text).directory = d := by
  rw [writeFile_eq]
  rcases d.write_spec path ((fileForm? text).getD []) with ⟨fault, hwrite, -⟩ | ⟨hwrite, -⟩ | ⟨place, after, hleads, -⟩
  · rw [hwrite]
    rfl
  · rw [hwrite]
    dsimp only
    split <;> rfl
  · exact absurd hleads (h place)

/-- Where a file can stand, it holds the text, or nothing if the text has no UTF-8 form, which is a failure. -/
theorem writeFile_of_leads {d : Directory} {path : Text} {place : List Text} (h : d.Leads path place) (text : Text) :
    d.Holds (writeFile d path text).directory place ((fileForm? text).getD []) ∧
      ((writeFile d path text).exitCode = 0 ↔ (fileForm? text).isSome = true) := by
  rw [writeFile_eq]
  rcases d.write_spec path ((fileForm? text).getD []) with
    ⟨fault, -, hnot⟩ | ⟨-, hnot⟩ | ⟨other, after, hleads, hwrite, hholds⟩
  · exact absurd h (hnot place)
  · exact absurd h (hnot place)
  · obtain rfl : place = other := by
      have hplace := h.1.symm.trans hleads.1
      injection hplace
    rw [hwrite]
    cases hform : fileForm? text with
    | none =>
      rw [hform] at hholds
      exact ⟨hholds, by simp [Outcome.crashed]⟩
    | some bytes =>
      rw [hform] at hholds
      exact ⟨hholds, by simp⟩

theorem emit_of_leads {d : Directory} {path : Text} {place : List Text} (h : d.Leads path place) (text : Text) :
    emit d text (some path) = writeFile d path text := by
  have hne : path ≠ [] := by
    rintro rfl
    exact not_leads_nil d place h
  unfold emit
  rw [Option.filter_some_pos]
  simpa using hne

/-- A delivery that leads to no file changes nothing. -/
theorem emit_of_not_leads {d : Directory} {file : Option Text} (h : ∀ path ∈ file, ∀ place, ¬ d.Leads path place)
    (text : Text) : (emit d text file).directory = d := by
  unfold emit
  split
  · rename_i path hpath
    exact writeFile_of_not_leads (h path (Option.filter_eq_some_iff.mp hpath).1) text
  · split <;> rfl

/-! ## Runs -/

/-- The run delivers the text to the place. -/
def DeliversTo (s : Surroundings) (arguments : List Text) (text : Text) (place : List Text) : Prop :=
  ∃ path, delivery? s arguments = some ⟨text, some path⟩ ∧ s.directory.Leads path place

theorem run_of_deliversTo {s : Surroundings} {arguments : List Text} {text : Text} {place : List Text}
    (h : DeliversTo s arguments text place) :
    s.directory.Holds (run s arguments).directory place ((fileForm? text).getD []) ∧
      ((run s arguments).exitCode = 0 ↔ (fileForm? text).isSome = true) := by
  obtain ⟨path, hdelivery, hleads⟩ := h
  have hact := delivers_act s arguments
  rw [hdelivery] at hact
  have hemit : act s arguments = writeFile s.directory path text := hact.trans (emit_of_leads hleads text)
  show s.directory.Holds (act s arguments).directory _ _ ∧ ((act s arguments).exitCode = 0 ↔ _)
  rw [hemit]
  exact writeFile_of_leads hleads text

theorem run_of_not_deliversTo {s : Surroundings} {arguments : List Text}
    (h : ∀ text place, ¬ DeliversTo s arguments text place) : (run s arguments).directory = s.directory := by
  have hact := delivers_act s arguments
  show (act s arguments).directory = s.directory
  cases hdelivery : delivery? s arguments with
  | none =>
    rw [hdelivery] at hact
    exact hact
  | some delivery =>
    rw [hdelivery] at hact
    have hemit : act s arguments = emit s.directory delivery.text delivery.file := hact
    rw [hemit]
    apply emit_of_not_leads
    intro path hpath place hleads
    refine h delivery.text place ⟨path, ?_, hleads⟩
    rw [hdelivery, ← hpath]

/-- A lone surrogate in the text empties the file and fails the run. -/
theorem run_of_lone {s : Surroundings} {arguments : List Text} {text : Text} {place : List Text}
    (h : DeliversTo s arguments text place) (hlone : text.hasSurrogate = true) :
    s.directory.Holds (run s arguments).directory place [] ∧ (run s arguments).exitCode ≠ 0 := by
  obtain ⟨hholds, hexit⟩ := run_of_deliversTo h
  rw [(fileForm?_eq_none_iff text).mpr hlone] at hholds hexit
  exact ⟨hholds, fun hzero => Bool.false_ne_true (hexit.mp hzero)⟩

/-- Nothing else fails a run that delivers to a file. -/
theorem hasSurrogate_of_failed {s : Surroundings} {arguments : List Text} {text : Text} {place : List Text}
    (h : DeliversTo s arguments text place) (hfailed : (run s arguments).exitCode ≠ 0) :
    text.hasSurrogate = true := by
  rw [← fileForm?_eq_none_iff]
  cases hform : fileForm? text with
  | none => rfl
  | some bytes => exact absurd ((run_of_deliversTo h).2.mpr (by rw [hform]; rfl)) hfailed

/-- Which files a run changes. A run that fails touches a file exactly if the engine's text has a lone surrogate and
goes to a file that is not there or not empty; that file is empty then, and all others are as they were. A run that
succeeds changes at most the file that it is told to write, which then holds the engine's text. -/
theorem run_files (s : Surroundings) (arguments : List Text) :
    (((run s arguments).exitCode ≠ 0 ∧ ¬ s.directory.Same (run s arguments).directory) ↔
      ∃ text place, DeliversTo s arguments text place ∧ text.hasSurrogate = true ∧
        s.directory.file? place ≠ some []) ∧
    (∀ text place, DeliversTo s arguments text place → text.hasSurrogate = true →
      s.directory.Holds (run s arguments).directory place []) ∧
    ((run s arguments).exitCode = 0 →
      (∀ text place, DeliversTo s arguments text place →
        ∃ bytes, fileForm? text = some bytes ∧ s.directory.Holds (run s arguments).directory place bytes) ∧
      ((∀ text place, ¬ DeliversTo s arguments text place) → s.directory.Same (run s arguments).directory)) := by
  refine ⟨⟨?_, ?_⟩, ?_, ?_⟩
  · -- a change can only come from a delivery, and a delivery that fails has no UTF-8 form
    rintro ⟨hfailed, htouched⟩
    by_cases hsome : ∃ text place, DeliversTo s arguments text place
    · obtain ⟨text, place, hto⟩ := hsome
      have hlone := hasSurrogate_of_failed hto hfailed
      obtain ⟨hholds, -⟩ := run_of_lone hto hlone
      refine ⟨text, place, hto, hlone, ?_⟩
      intro hempty
      apply htouched
      intro other
      by_cases hother : other = place
      · rw [hother, hholds.there, hempty]
      · exact hholds.others other hother
    · exfalso
      apply htouched
      rw [run_of_not_deliversTo fun text place hto => hsome ⟨text, place, hto⟩]
      intro place
      rfl
  · rintro ⟨text, place, hto, hlone, hcontent⟩
    obtain ⟨hholds, hfailed⟩ := run_of_lone hto hlone
    refine ⟨hfailed, ?_⟩
    intro hsame
    exact hcontent ((hsame place).symm.trans hholds.there)
  · intro text place hto hlone
    exact (run_of_lone hto hlone).1
  · intro hzero
    constructor
    · intro text place hto
      obtain ⟨hholds, hexit⟩ := run_of_deliversTo hto
      obtain ⟨bytes, hbytes⟩ := Option.isSome_iff_exists.mp (hexit.mp hzero)
      rw [hbytes] at hholds
      exact ⟨bytes, hbytes, hholds⟩
    · intro hnone place
      rw [run_of_not_deliversTo hnone]

/-- A directory with one file, a JSON string that is one escaped half of a surrogate pair. -/
def halfPair : Surroundings where
  directory := {
    name := "/work"
    home := ["work"]
    files := [(["work", "a.json"], [0x22, 0x5C, 0x75, 0x64, 0x38, 0x30, 0x30, 0x22])] }
  input := []

theorem denotes_halfPair : Json.Denotes "\"\\ud800\"" (.str [.surrogate 0]) := by
  have hsign : Json.SpellsSign "\\ud800" (.unit 0xD800) := .unit rfl
  exact Json.Spells.bareItem (.string (.cons hsign .nil))

theorem minify_halfPair :
    Engine.minify .json true "\"\\ud800\"" = [CodePoint.char '"', .surrogate 0, CodePoint.char '"'] := by
  have hparse := (Json.parse_eq_ok_iff _ _).mpr denotes_halfPair
  rw [Engine.minify_accepted true hparse]
  rfl

theorem deliversTo_halfPair : DeliversTo halfPair ["minify", "a.json", "-o", "a.json"]
    [CodePoint.char '"', .surrogate 0, CodePoint.char '"'] ["work", "a.json"] := by
  refine ⟨"a.json", ?_, rfl, rfl, rfl⟩
  rw [← minify_halfPair]
  rfl

/-- Minifying that file in place fails, and leaves it empty. -/
theorem run_empties_halfPair :
    (run halfPair ["minify", "a.json", "-o", "a.json"]).exitCode ≠ 0 ∧
      (run halfPair ["minify", "a.json", "-o", "a.json"]).directory.file? ["work", "a.json"] = some [] ∧
      halfPair.directory.file? ["work", "a.json"] ≠ some [] := by
  obtain ⟨hholds, hexit⟩ := run_of_deliversTo deliversTo_halfPair
  rw [(fileForm?_eq_none_iff _).mpr rfl] at hholds hexit
  refine ⟨?_, hholds.there, by decide⟩
  intro hzero
  exact Bool.false_ne_true (hexit.mp hzero)

end Cli

end Tidy
