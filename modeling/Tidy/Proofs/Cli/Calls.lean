/-
# Tidy.Proofs.Cli.Calls -- what a run is asked to do, and settings that stop it

A run reads its own arguments first, then its settings, and only then those of its command. `call?` says what it is
asked to do when its own arguments are understood. Settings that cannot be read stop the run before the command:
where the fault has words, the run ends with them, and where it has none, the run is stopped in the middle.
`settings_answered_iff` says when this happens.
-/

import Tidy.Proofs.Cli.Files
import Tidy.Proofs.Settings

namespace Tidy

namespace Cli

/-! ## Calls -/

/-- What a run is asked to do: the file of settings that it is given, a command, and the arguments of the command. -/
structure Call where
  given : Option Text
  command : Command
  arguments : List Text

/-- The call that the arguments of a run make, if they can be understood up to the command. -/
def call? (d : Directory) (arguments : List Text) : Option Call := do
  let a ← (understand d .program arguments).toOption
  let name ← a.others.head?
  let command ← Command.named? name
  some ⟨a.value? .config, command, a.others.tail⟩

theorem call?_nil (d : Directory) : call? d [] = none := rfl

variable {s : Surroundings} {arguments : List Text} {call : Call}

/-- A run does what it is called for with its settings. -/
theorem act_of_call (h : call? s.directory arguments = some call) :
    act s arguments = match Settings.load s.directory call.given none with
      | .error fault => settingsFailed s.directory fault
      | .ok settings => runCommand s settings call.command call.arguments := by
  cases arguments with
  | nil => exact absurd (h.symm.trans (call?_nil _)) (Option.some_ne_none call)
  | cons first more =>
    unfold call? at h
    unfold act
    rw [List.isEmpty_cons, if_neg Bool.false_ne_true]
    cases hunderstand : understand s.directory .program (first :: more) with
    | error outcome =>
      rw [hunderstand] at h
      cases h
    | ok a =>
      rw [hunderstand] at h
      dsimp only [Except.toOption, Option.bind_eq_bind, Option.bind_some] at h ⊢
      cases hothers : a.others with
      | nil =>
        rw [hothers] at h
        cases h
      | cons name rest =>
        rw [hothers] at h
        dsimp only [List.head?_cons, List.tail_cons, Option.bind_some] at h ⊢
        cases hnamed : Command.named? name with
        | none =>
          rw [hnamed] at h
          cases h
        | some command =>
          rw [hnamed] at h
          obtain rfl : _ = call := by injection h
          rfl

/-! ## Settings that stop a run -/

theorem settingsFailed_of_message {fault : Settings.FileFault} {words : Text} (h : fault.message? = some words)
    (d : Directory) : settingsFailed d fault = .failed d words := by
  cases fault with
  | undecodable | inaccessible | unreadable => cases h
  | notFound | unparsable | notMapping | invalid =>
    unfold settingsFailed
    dsimp only
    rw [h, Option.getD_some]

theorem settingsFailed_of_wordless {fault : Settings.FileFault} (h : fault.message? = none) (d : Directory) :
    ∃ crash, settingsFailed d fault = .crashed d crash := by
  cases fault with
  | undecodable | inaccessible | unreadable => exact ⟨_, rfl⟩
  | notFound | unparsable | notMapping | invalid => exact absurd h (Option.some_ne_none _)

theorem run_of_settings_message {fault : Settings.FileFault} {words : Text}
    (hcall : call? s.directory arguments = some call) (hload : Settings.load s.directory call.given none = .error fault)
    (hwords : fault.message? = some words) :
    run s arguments = (Outcome.failed s.directory words).settled := by
  rw [run, act_of_call hcall, hload]
  dsimp only
  rw [settingsFailed_of_message hwords]

theorem run_of_settings_wordless {fault : Settings.FileFault} (hcall : call? s.directory arguments = some call)
    (hload : Settings.load s.directory call.given none = .error fault) (hwordless : fault.message? = none) :
    ∃ crash, run s arguments = .crashed s.directory crash := by
  obtain ⟨crash, hcrash⟩ := settingsFailed_of_wordless hwordless s.directory
  refine ⟨crash, ?_⟩
  rw [run, act_of_call hcall, hload]
  dsimp only
  rw [hcrash]
  rfl

/-- A run that ends with words for an error has failed, has no output and leaves the directory as it was. -/
theorem ended_settled (d : Directory) (shown : Except Console.MarkupFault Text) :
    (Outcome.ended d shown).settled.exitCode = 1 ∧ (Outcome.ended d shown).settled.output = [] ∧
      (Outcome.ended d shown).settled.directory = d := by
  cases shown <;> exact ⟨rfl, rfl, rfl⟩

theorem failed_settled (d : Directory) (message : Text) :
    (Outcome.failed d message).settled.exitCode = 1 ∧ (Outcome.failed d message).settled.output = [] ∧
      (Outcome.failed d message).settled.directory = d :=
  ended_settled d (Console.error message)

/-- A working directory that holds a file of settings with some content. -/
def settingsOnly (content : List UInt8) : Surroundings where
  directory := { name := "/work", home := ["work"], files := [(["work", "formatkit.yml"], content)] }
  input := []

end Cli

end Tidy
