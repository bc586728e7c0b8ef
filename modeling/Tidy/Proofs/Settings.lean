/-
# Tidy.Proofs.Settings -- when a settings file fails without words

A settings file that is missing, is no YAML, is no mapping or holds values that are refused fails with words for its
fault. Three things go wrong before that (`Unanswered`): a path that is looked at is too long for the system, the bytes
of the file are no UTF-8, or a scalar in it cannot be made into a value. These are the only faults without words
(`load_wordless_iff`).
-/

import Tidy.Settings.File

namespace Tidy.Settings

variable {d : Directory} {given base : Option Text}

/-! ## Looking for the file -/

/-- The path is looked at in the search: no file was found before it. -/
inductive Sought (d : Directory) (base : Text) : List Text → Text → Prop
  | here {name : Text} {rest : List Text} : Sought d base (name :: rest) (Path.inside base name)
  | later {name path : Text} {rest : List Text} :
      open? d (Path.inside base name) = .ok none → Sought d base rest path → Sought d base (name :: rest) path

/-- The system refuses the path. -/
structure Refused (d : Directory) (path : Text) : Prop where
  noZero : Path.hasZero path = false
  tooLong : d.look path = .tooLong

theorem open?_eq_error_iff {path : Text} {fault : FileFault} :
    open? d path = .error fault ↔ fault = .inaccessible ∧ Refused d path := by
  unfold open?
  constructor
  · intro h
    split at h
    · cases h
    · rename_i hzero
      split at h
      · cases h
      · rename_i hlong
        injection h with h
        exact ⟨h.symm, Bool.not_eq_true _ ▸ hzero, hlong⟩
      · cases h
  · rintro ⟨rfl, hzero, hlong⟩
    rw [hzero, if_neg Bool.false_ne_true, hlong]

theorem not_refused_of_open {path : Text} {found : Option (List UInt8)} (h : open? d path = .ok found) :
    ¬ Refused d path := by
  intro hrefused
  rw [open?_eq_error_iff.mpr ⟨rfl, hrefused⟩] at h
  cases h

/-- A search that goes on looks at the other paths. -/
theorem exists_sought_cons {folder name : Text} {rest : List Text} (h : open? d (Path.inside folder name) = .ok none) :
    (∃ path, Sought d folder (name :: rest) path ∧ Refused d path) ↔
      ∃ path, Sought d folder rest path ∧ Refused d path := by
  refine exists_congr fun path => and_congr_left fun hrefused => ⟨fun hsought => ?_, Sought.later h⟩
  cases hsought with
  | here => exact absurd hrefused (not_refused_of_open h)
  | later _ hrest => exact hrest

theorem search_eq_error_iff {folder : Text} {names : List Text} {fault : FileFault} :
    search d folder names = .error fault ↔
      fault = .inaccessible ∧ ∃ path, Sought d folder names path ∧ Refused d path := by
  induction names with
  | nil =>
    constructor
    · intro h
      cases h
    · rintro ⟨-, path, hsought, -⟩
      cases hsought
  | cons name rest ih =>
    rw [search]
    cases hopen : open? d (Path.inside folder name) with
    | error refusal =>
      obtain ⟨rfl, hrefused⟩ := open?_eq_error_iff.mp hopen
      constructor
      · intro h
        injection h with h
        exact ⟨h.symm, _, .here, hrefused⟩
      · rintro ⟨rfl, -⟩
        rfl
    | ok found =>
      cases found with
      | none =>
        rw [exists_sought_cons hopen]
        exact ih
      | some content =>
        constructor
        · intro h
          cases h
        · -- a file that is found ends the search, and is no refusal
          rintro ⟨-, path, hsought, hrefused⟩
          cases hsought with
          | here => exact absurd hrefused (not_refused_of_open hopen)
          | later hnone _ =>
            rw [hnone] at hopen
            cases hopen

/-! ## Reading the file -/

/-- There are settings to be read, but reading them ends in a fault of the system, of the encoding or of a scalar. -/
inductive Unanswered (d : Directory) (given base : Option Text) : Prop
  | given {path : Text} : given = some path → Refused d (Path.normal path) → Unanswered d given base
  | sought {path : Text} :
      given = none → Sought d (base.getD []) defaultFiles path → Refused d path → Unanswered d given base
  | undecodable {path : Text} {content : List UInt8} {fault : Text.Utf8Fault} :
      locate d given base = .ok (some (path, content)) → Text.ofFile content = .error fault → Unanswered d given base
  | unreadable {path source : Text} {content : List UInt8} {fault : Yaml.Fault} :
      locate d given base = .ok (some (path, content)) → Text.ofFile content = .ok source →
      Yaml.read source = .error fault → fault ≠ .malformed → Unanswered d given base

theorem locate_eq_error {fault : FileFault} (h : locate d given base = .error fault) :
    fault.message?.isSome = true ∨ fault = .inaccessible ∧ Unanswered d given base := by
  unfold locate at h
  cases given with
  | some path =>
    dsimp only at h
    cases hopen : open? d (Path.normal path) with
    | error refusal =>
      rw [hopen] at h
      obtain ⟨rfl, hrefused⟩ := open?_eq_error_iff.mp hopen
      injection h with h
      exact Or.inr ⟨h.symm, .given rfl hrefused⟩
    | ok found =>
      rw [hopen] at h
      cases found with
      | some content => cases h
      | none =>
        injection h with h
        subst h
        exact Or.inl rfl
  | none =>
    obtain ⟨rfl, path, hsought, hrefused⟩ := search_eq_error_iff.mp h
    exact Or.inr ⟨rfl, .sought rfl hsought hrefused⟩

/-- What can be read has words for its faults. -/
theorem message_of_read {path source : Text} {content : List UInt8} {document : Yaml.Document} {fault : FileFault}
    (hsource : Text.ofFile content = .ok source) (hread : Yaml.read source = .ok document)
    (h : ofFile path content = .error fault) : fault.message?.isSome = true := by
  unfold ofFile at h
  rw [hsource] at h
  dsimp only at h
  rw [hread] at h
  cases document with
  | empty => cases h
  | other =>
    injection h with h
    rw [← h]
    rfl
  | mapping graph members =>
    dsimp only at h
    split at h
    · cases h
    · injection h with h
      rw [← h]
      rfl

theorem ofFile_of_fault {path source : Text} {content : List UInt8} {cause : Yaml.Fault}
    (hsource : Text.ofFile content = .ok source) (hread : Yaml.read source = .error cause) :
    ofFile path content = .error (if cause = .malformed then .unparsable path else .unreadable cause) := by
  unfold ofFile
  rw [hsource]
  dsimp only
  rw [hread]
  cases cause <;> rfl

/-- The faults of a file that was found. -/
theorem ofFile_wordless_iff {path : Text} {content : List UInt8} :
    (∃ fault, ofFile path content = .error fault ∧ fault.message? = none) ↔
      (∃ fault, Text.ofFile content = .error fault) ∨
        ∃ source fault, Text.ofFile content = .ok source ∧ Yaml.read source = .error fault ∧ fault ≠ .malformed := by
  constructor
  · rintro ⟨fault, hfault, hwordless⟩
    cases hsource : Text.ofFile content with
    | error cause => exact Or.inl ⟨cause, rfl⟩
    | ok source =>
      refine Or.inr ⟨source, ?_⟩
      cases hread : Yaml.read source with
      | error cause =>
        refine ⟨cause, rfl, rfl, ?_⟩
        rintro rfl
        rw [ofFile_of_fault hsource hread, if_pos rfl] at hfault
        injection hfault with hfault
        rw [← hfault] at hwordless
        cases hwordless
      | ok document =>
        have hsome := message_of_read hsource hread hfault
        rw [hwordless] at hsome
        cases hsome
  · rintro (⟨cause, hcause⟩ | ⟨source, cause, hsource, hread, hne⟩)
    · refine ⟨.undecodable cause, ?_, rfl⟩
      rw [ofFile, hcause]
    · exact ⟨.unreadable cause, by rw [ofFile_of_fault hsource hread, if_neg hne], rfl⟩

theorem load_of_locate_error {fault : FileFault} (h : locate d given base = .error fault) :
    load d given base = .error fault := by
  rw [load, h]
  rfl

theorem load_of_locate {path : Text} {content : List UInt8} (h : locate d given base = .ok (some (path, content))) :
    load d given base = ofFile path content := by
  rw [load, h]
  rfl

/-- Settings fail without words exactly if reading them ends in a fault of the system, of the encoding or of a
scalar. -/
theorem load_wordless_iff :
    (∃ fault, load d given base = .error fault ∧ fault.message? = none) ↔ Unanswered d given base := by
  constructor
  · rintro ⟨fault, hload, hwordless⟩
    cases hlocate : locate d given base with
    | error refusal =>
      rw [load_of_locate_error hlocate] at hload
      obtain rfl : refusal = fault := by injection hload
      -- no file was found: one of the places could not be looked at
      rcases locate_eq_error hlocate with hsome | ⟨-, hunanswered⟩
      · rw [hwordless] at hsome
        cases hsome
      · exact hunanswered
    | ok found =>
      cases found with
      | none =>
        rw [load, hlocate] at hload
        cases hload
      | some found =>
        obtain ⟨path, content⟩ := found
        -- a file was found, which does not decode or holds a scalar that is read to no value
        rw [load_of_locate hlocate] at hload
        rcases ofFile_wordless_iff.mp ⟨fault, hload, hwordless⟩ with
          ⟨cause, hcause⟩ | ⟨source, cause, hsource, hread, hne⟩
        · exact .undecodable hlocate hcause
        · exact .unreadable hlocate hsource hread hne
  · intro h
    cases h with
    | given hgiven hrefused =>
      subst hgiven
      have hopen := open?_eq_error_iff.mpr ⟨rfl, hrefused⟩
      refine ⟨.inaccessible, load_of_locate_error ?_, rfl⟩
      rw [locate, hopen]
      rfl
    | sought hgiven hsought hrefused =>
      subst hgiven
      exact ⟨.inaccessible, load_of_locate_error (search_eq_error_iff.mpr ⟨rfl, _, hsought, hrefused⟩), rfl⟩
    | undecodable hlocate hcause =>
      rw [load_of_locate hlocate]
      exact ofFile_wordless_iff.mpr (Or.inl ⟨_, hcause⟩)
    | unreadable hlocate hsource hread hne =>
      rw [load_of_locate hlocate]
      exact ofFile_wordless_iff.mpr (Or.inr ⟨_, _, hsource, hread, hne⟩)

end Tidy.Settings
