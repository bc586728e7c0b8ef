/-
# Tidy.Proofs.Cli.CommandLine -- how the command line that formats a file in place is read

The path stands on the command line twice, first as the argument and last as the value of `-o`. One that looks like a
switch is read as a switch where the argument should be (`readInPlace`). Then the argument is left out, so that the text
is read from the standard input, or `-l` is the value of that switch and the argument is the name of the language. The
output is the path in each of these cases (`readInPlace_argument`).
-/

import Tidy.Proofs.Cli.Files

namespace Tidy.Cli

open CodePoint (char)

/-! ## The command line -/

/-- What follows the name of the command. -/
def inPlaceArguments (path : Text) (language : Language) : List Text :=
  [path, "-l", language.tag, "-o", path]

/-- The command line that formats the file at a path in place, with a configuration file or without one. -/
def inPlace (config : Option Text) (path : Text) (language : Language) : List Text :=
  let command : List Text := "format" :: inPlaceArguments path language
  match config with
  | some file => "--config" :: file :: command
  | none => command

theorem read_inPlace (config : Option Text) (path : Text) (language : Language) :
    Arguments.read .program (inPlace config path language) =
      .ok ⟨(config.map (Setting.mk .config)).toList, "format" :: inPlaceArguments path language⟩ := by
  cases config <;> rfl

theorem value?_inPlace (config : Option Text) (others : List Text) :
    (⟨(config.map (Setting.mk .config)).toList, others⟩ : Arguments).value? .config = config := by
  cases config <;> rfl

theorem value?_concat (settings : List Setting) (switch : Switch) (value : Text) (others : List Text) :
    (⟨settings ++ [⟨switch, value⟩], others⟩ : Arguments).value? switch = some value := by
  simp [Arguments.value?]

/-- The names of the switches of the command that a value follows. -/
def valueNames : List Text :=
  [Switch.language, .indent, .output].flatMap Switch.names

theorem mem_valueNames {name : Text} {switch : Switch} (h : Scope.switch? (.command .format) name = some switch)
    (hvalue : switch.takesValue = true) : name ∈ valueNames := by
  have hmem := List.mem_of_find?_eq_some h
  have hname : name ∈ switch.names := by simpa using List.find?_some h
  have hswitch : switch ∈ [Switch.language, .indent, .output] := by
    simp only [Scope.switches, List.mem_cons, List.not_mem_nil, or_false] at hmem
    rcases hmem with rfl | rfl | rfl | rfl | rfl
    · decide
    · decide
    · decide
    · cases hvalue
    · cases hvalue
  exact List.mem_flatMap.mpr ⟨switch, hswitch, hname⟩

theorem head?_of_mem_valueNames {name : Text} (h : name ∈ valueNames) : name.head? = some (char '-') := by
  have hnames : ∀ name ∈ valueNames, name.head? = some (char '-') := by decide
  exact hnames name h

/-- Each short name of a switch of the command is that of one with a value. -/
theorem takesValue_short {c : CodePoint} {switch : Switch}
    (h : Scope.switch? (.command .format) [char '-', c] = some switch) : switch.takesValue = true := by
  have hmem := List.mem_of_find?_eq_some h
  have hname : [char '-', c] ∈ switch.names := by simpa using List.find?_some h
  simp only [Scope.switches, List.mem_cons, List.not_mem_nil, or_false] at hmem
  rcases hmem with rfl | rfl | rfl | rfl | rfl
  · rfl
  · rfl
  · rfl
  · cases List.mem_singleton.mp hname
  · cases List.mem_singleton.mp hname

theorem mem_valueNames_of_readLong {path name : Text} {settings : List Setting} {switch : Switch}
    (h : Arguments.readLong (.command .format) path = .ok ⟨settings, some (switch, name)⟩) : path ∈ valueNames := by
  unfold Arguments.readLong at h
  dsimp only at h
  split at h
  · cases h
  · rename_i found hfound
    split at h
    · cases h
    · rename_i hvalue hattached
      -- nothing is attached, so that the path is the name
      have hname : path.takeWhile (· ≠ char '=') = path := by
        refine List.IsPrefix.eq_of_length_le (List.takeWhile_prefix _) ?_
        split at hattached
        · rename_i hnil
          exact List.drop_eq_nil_iff.mp hnil
        · cases hattached
      rw [hname] at hfound
      exact mem_valueNames hfound hvalue
    · cases h
    · cases h

theorem mem_valueNames_of_readShort {rest name : Text} {settings : List Setting} {switch : Switch}
    (h : Arguments.readShort (.command .format) rest = .ok ⟨settings, some (switch, name)⟩) :
    char '-' :: rest ∈ valueNames := by
  cases rest with
  | nil => cases h
  | cons c rest =>
    rw [Arguments.readShort] at h
    split at h
    · cases h
    · rename_i found hfound
      have hvalue := takesValue_short hfound
      rw [if_pos hvalue] at h
      split at h
      · rename_i hnil
        rw [List.isEmpty_iff.mp hnil]
        exact mem_valueNames hfound hvalue
      · cases h

/-- A path that is read as a switch without its value is one of these names. -/
theorem mem_valueNames_of_waiting {path name : Text} {settings : List Setting} {switch : Switch}
    (hdash : path.head? = some (char '-'))
    (h : Arguments.readSwitch (.command .format) path = .ok ⟨settings, some (switch, name)⟩) : path ∈ valueNames := by
  unfold Arguments.readSwitch at h
  split at h
  · exact mem_valueNames_of_readLong h
  · obtain ⟨rest, rfl⟩ := List.head?_eq_some_iff.mp hdash
    exact mem_valueNames_of_readShort h

/-- How what follows the name of the command is read. -/
inductive ReadInPlace (path : Text) (language : Language) : Arguments → Prop
  /-- The path is the argument. -/
  | file : ReadInPlace path language ⟨[⟨.language, language.tag⟩, ⟨.output, path⟩], [path]⟩
  /-- The path is a switch, and the argument is left out. -/
  | input {settings : List Setting} : path.head? = some (char '-') →
      ReadInPlace path language ⟨settings ++ [⟨.output, path⟩], []⟩
  /-- The path is a switch that takes the next one as its value. -/
  | value {settings : List Setting} : path ∈ valueNames →
      ReadInPlace path language ⟨settings ++ [⟨.output, path⟩], [language.tag]⟩
  /-- The path ends the switches. -/
  | extra : path.head? = some (char '-') → ReadInPlace path language ⟨[], ["-l", language.tag, "-o", path]⟩

theorem readInPlace {path : Text} {language : Language} {b : Arguments}
    (h : Arguments.read (.command .format) (inPlaceArguments path language) = .ok b) :
    ReadInPlace path language b := by
  have hrest : Arguments.read (.command .format) ["-l", language.tag, "-o", path] =
      .ok ⟨[⟨.language, language.tag⟩, ⟨.output, path⟩], []⟩ := rfl
  have hvalue : Arguments.read (.command .format) [language.tag, "-o", path] =
      .ok ⟨[⟨.output, path⟩], [language.tag]⟩ := by
    cases language <;> rfl
  rw [inPlaceArguments, Arguments.read] at h
  split at h
  · rename_i hdashes
    obtain rfl := Except.ok.inj h
    exact .extra (by rw [hdashes]; rfl)
  · split at h
    · rename_i hswitch
      have hdash : path.head? = some (char '-') := by
        have hstarts := Text.startsWith_char (char '-') path
        exact of_decide_eq_true (hstarts.symm.trans (Bool.and_eq_true_iff.mp hswitch).1)
      split at h
      · cases h
      · -- a switch that is complete: the other arguments are read as they stand
        rename_i settings hread
        rw [hrest] at h
        obtain rfl := Except.ok.inj h
        show ReadInPlace path language ⟨settings ++ ([⟨.language, language.tag⟩] ++ [⟨.output, path⟩]), []⟩
        rw [← List.append_assoc]
        exact .input hdash
      · -- a switch that lacks its value, and takes `-l` for it
        rename_i settings switch name hread
        dsimp only at h
        rw [hvalue] at h
        obtain rfl := Except.ok.inj h
        exact .value (mem_valueNames_of_waiting hdash hread)
    · split at h
      · rename_i hscope
        cases hscope
      · rw [hrest] at h
        obtain rfl := Except.ok.inj h
        exact .file

theorem read_of_understand {d : Directory} {scope : Scope} {arguments : List Text} {a : Arguments}
    (h : understand d scope arguments = .ok a) : Arguments.read scope arguments = .ok a := by
  unfold understand at h
  split at h
  · cases h
  · rename_i a' hread
    rw [hread]
    split at h
    · cases h
    · split at h
      · cases h
      · exact congrArg Except.ok (Except.ok.inj h)

/-! ## The argument -/

theorem checkArgument_cons {d : Directory} {first argument : Text} {rest : List Text}
    (h : checkArgument d .format (first :: rest) = .ok argument) : argument = first ∧ rest = [] := by
  unfold checkArgument at h
  simp only [Command.hasArgument, Bool.not_true, Bool.false_eq_true, if_false, List.head?_cons, List.drop_succ_cons,
    List.drop_zero] at h
  cases hpath : checkPath d (.command .format) ("'" ++ Scope.argument .format ++ "'") first with
  | error stop =>
    rw [hpath] at h
    cases h
  | ok =>
    rw [hpath] at h
    cases rest with
    | nil =>
      injection h with hargument
      exact ⟨hargument.symm, rfl⟩
    | cons next rest => cases h

/-- The path is where the text is written, and the text is read from the path, from the standard input, or from a file
that is named like the language. -/
theorem readInPlace_argument {path : Text} {language : Language} {b : Arguments} (h : ReadInPlace path language b)
    {d : Directory} {argument : Text} (hargument : checkArgument d .format b.others = .ok argument) :
    b.value? .output = some path ∧
      ((argument = path ∧ b.value? .language = some language.tag ∧ b.value? .indent = none) ∨
        (argument = dash ∧ path.head? = some (char '-')) ∨ (argument = language.tag ∧ path ∈ valueNames)) := by
  cases h with
  | file => exact ⟨rfl, Or.inl ⟨(checkArgument_cons hargument).1, rfl, rfl⟩⟩
  | input hdash =>
    injection hargument with hargument
    exact ⟨value?_concat _ _ _ _, Or.inr (Or.inl ⟨hargument.symm, hdash⟩)⟩
  | value hname => exact ⟨value?_concat _ _ _ _, Or.inr (Or.inr ⟨(checkArgument_cons hargument).1, hname⟩)⟩
  | extra => cases (checkArgument_cons hargument).2

/-- The name of a switch and the name of a language are two places. -/
theorem place_tag_ne {d : Directory} {path : Text} (h : path ∈ valueNames) (language : Language) :
    d.place language.tag ≠ d.place path := by
  have hnames : ∀ name ∈ valueNames, (Path.Counts name ∧ Path.slash ∉ name) ∧
      name ≠ Directory.above ∧ name.byteLength ≤ Directory.nameLimit ∧ ∀ l ∈ Language.all, l.tag ≠ name := by
    decide
  have htags : ∀ l ∈ Language.all, (Path.Counts l.tag ∧ Path.slash ∉ l.tag) ∧
      l.tag ≠ Directory.above ∧ l.tag.byteLength ≤ Directory.nameLimit := by
    decide
  have hlanguage : language ∈ Language.all := by cases language <;> decide
  obtain ⟨⟨hcounts, hslash⟩, habove, hshort, hne⟩ := hnames path h
  obtain ⟨⟨hcounts', hslash'⟩, habove', hshort'⟩ := htags language hlanguage
  rw [Directory.place_name hcounts hslash habove hshort, Directory.place_name hcounts' hslash' habove' hshort']
  intro heq
  injection heq with heq
  exact hne language hlanguage (List.cons.inj (List.append_cancel_left heq)).1

end Tidy.Cli
