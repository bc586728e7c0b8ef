/-
# Tidy.Proofs.Directory -- what writing a file does to a directory

Writing puts the content at the place that the plain form of the path leads to (`write_spec`), which is where the path
itself leads, if it leads anywhere (`place_normal_eq`). A file that takes the stead of another one (`Rewrites`) leaves
all places as they are: every path leads where it led, and names what it named, unless it leads to that file.
-/

import Tidy.Directory
import Tidy.Proofs.Layout
import Tidy.Proofs.Text.Split

namespace Tidy

/-! ## Writing one file -/

namespace Directory

theorem find?_put_same (place : List Text) (content : List UInt8) (files : List (List Text × List UInt8)) :
    (put place content files).find? (fun f => f.1 = place) = some (place, content) := by
  induction files with
  | nil => simp [put]
  | cons f rest ih =>
    rw [put]
    split
    · simp
    · rename_i hne
      rw [List.find?_cons_of_neg (by simpa using hne), ih]

theorem find?_put_other {place other : List Text} (h : other ≠ place) (content : List UInt8)
    (files : List (List Text × List UInt8)) :
    (put place content files).find? (fun f => f.1 = other) = files.find? fun f => f.1 = other := by
  induction files with
  | nil => simp [put, h.symm]
  | cons f rest ih =>
    rw [put]
    split
    · rename_i heq
      rw [List.find?_cons_of_neg (by simpa using h.symm), List.find?_cons_of_neg (by simpa [heq] using h.symm)]
    · rw [List.find?_cons, List.find?_cons, ih]

/-- The path leads to a place where a file stands or could stand. -/
def Leads (d : Directory) (path : Text) (place : List Text) : Prop :=
  d.place (Path.normal path) = .ok place ∧ d.isDirectory place = false ∧ isDevice place = false

/-- The directory is as before, but for the file at the place, which has the content. -/
structure Holds (before after : Directory) (place : List Text) (content : List UInt8) : Prop where
  there : after.file? place = some content
  others : ∀ other, other ≠ place → after.file? other = before.file? other

/-- All files are as before. -/
def Same (before after : Directory) : Prop :=
  ∀ place, after.file? place = before.file? place

theorem holds_put (d : Directory) (place : List Text) (content : List UInt8) :
    d.Holds { d with files := put place content d.files } place content := by
  refine ⟨?_, ?_⟩
  · rw [file?, find?_put_same]
    rfl
  · intro other hother
    rw [file?, file?, find?_put_other hother]

/-- What writing does: it refuses the path, or a device takes the content, or the file holds it. -/
theorem write_spec (d : Directory) (path : Text) (content : List UInt8) :
    (∃ fault, d.write path content = .error fault ∧ ∀ place, ¬ d.Leads path place) ∨
    (d.write path content = .ok d ∧ ∀ place, ¬ d.Leads path place) ∨
    ∃ place after, d.Leads path place ∧ d.write path content = .ok after ∧ d.Holds after place content := by
  unfold write Leads
  cases hplace : d.place (Path.normal path) with
  | error fault =>
    refine Or.inl ⟨fault, rfl, ?_⟩
    rintro place ⟨hok, -⟩
    cases hok
  | ok place =>
    cases hdirectory : d.isDirectory place with
    | true =>
      refine Or.inl ⟨.isDirectory, by simp [bind, Except.bind, hdirectory], ?_⟩
      rintro other ⟨hok, hfile, -⟩
      obtain rfl : place = other := by injection hok
      rw [hdirectory] at hfile
      cases hfile
    | false =>
      cases hdevice : isDevice place with
      | true =>
        refine Or.inr (Or.inl ⟨by simp [bind, Except.bind, hdirectory, hdevice], ?_⟩)
        rintro other ⟨hok, -, hkept⟩
        obtain rfl : place = other := by injection hok
        rw [hdevice] at hkept
        cases hkept
      | false =>
        refine Or.inr (Or.inr ⟨place, _, ⟨rfl, hdirectory, hdevice⟩, ?_, holds_put d place content⟩)
        simp [bind, Except.bind, hdirectory, hdevice]

/-- Where a file can stand, writing puts it. -/
theorem write_of_leads {d : Directory} {path : Text} {place : List Text} (h : d.Leads path place)
    (content : List UInt8) : d.write path content = .ok { d with files := put place content d.files } := by
  obtain ⟨hplace, hdirectory, hdevice⟩ := h
  unfold write
  rw [hplace]
  simp only [bind, Except.bind, hdirectory, hdevice, Bool.false_eq_true, if_false]

end Directory

/-! ## The plain form of a path -/

theorem Text.startsWith_char (c : CodePoint) (t : Text) : startsWith t [c] = decide (t.head? = some c) := by
  cases t with
  | nil => rfl
  | cons d rest =>
    show Option.isSome (if c = d then some rest else none) = decide (some d = some c)
    by_cases hd : d = c
    · rw [hd, if_pos rfl, decide_eq_true rfl]
      rfl
    · rw [if_neg (fun heq => hd heq.symm), decide_eq_false (fun heq => hd (Option.some.inj heq))]
      rfl

namespace Path

theorem startsWith_slash (path : Text) : Text.startsWith path "/" = decide (path.head? = some slash) :=
  Text.startsWith_char slash path

/-- A part that counts for something. -/
def Counts (part : Text) : Prop := part ≠ [] ∧ part ≠ "."

instance (part : Text) : Decidable (Counts part) := inferInstanceAs (Decidable (_ ∧ _))

theorem counts_of_mem_parts {path part : Text} (h : part ∈ parts path) : Counts part ∧ slash ∉ part := by
  obtain ⟨hmem, hcounts⟩ := List.mem_filter.mp h
  exact ⟨by simpa [Counts] using hcounts, Text.mark_notMem_of_mem_splitAt hmem⟩

theorem parts_append_slash (s t : Text) : parts (s ++ slash :: t) = parts s ++ parts t := by
  rw [parts, Text.splitAt_append, List.filter_append]
  rfl

theorem parts_slash (t : Text) : parts (slash :: t) = parts t :=
  parts_append_slash [] t

theorem parts_single {part : Text} (h : Counts part) (hslash : slash ∉ part) : parts part = [part] := by
  rw [parts, Text.splitAt_single hslash, List.filter_cons_of_pos (by simpa [Counts] using h)]
  rfl

theorem parts_join {ps : List Text} (h : ∀ part ∈ ps, Counts part ∧ slash ∉ part) :
    parts (Text.join "/" ps) = ps := by
  induction ps with
  | nil => rfl
  | cons part rest ih =>
    obtain ⟨⟨hcounts, hslash⟩, hrest⟩ := List.forall_mem_cons.mp h
    by_cases hnil : rest = []
    · rw [hnil]
      exact parts_single hcounts hslash
    · rw [Text.join_cons _ part hnil]
      show parts (part ++ slash :: Text.join "/" rest) = _
      rw [parts_append_slash, parts_single hcounts hslash, ih hrest]
      rfl

theorem root_cases (path : Text) :
    (root path = [] ∧ Text.startsWith path "/" = false) ∨
      ((root path = "/" ∨ root path = "//") ∧ Text.startsWith path "/" = true) := by
  unfold root
  cases path with
  | nil => exact Or.inl ⟨rfl, rfl⟩
  | cons c rest =>
    by_cases hc : c = slash
    · rw [hc, List.takeWhile_cons_of_pos (by simp)]
      refine Or.inr ⟨?_, rfl⟩
      split
      · rename_i hlength
        cases hlength
      · exact Or.inr rfl
      · exact Or.inl rfl
    · rw [List.takeWhile_cons_of_neg (by simpa using hc)]
      exact Or.inl ⟨rfl, by simpa [startsWith_slash] using hc⟩

/-- The plain form has the same parts. -/
theorem parts_normal (path : Text) : parts (normal path) = parts path := by
  have hjoin := parts_join (fun part (h : part ∈ parts path) => counts_of_mem_parts h)
  unfold normal
  dsimp only
  split
  · rename_i hnil
    rw [List.isEmpty_iff, List.append_eq_nil_iff] at hnil
    rw [hnil.2] at hjoin
    rw [← hjoin]
    rfl
  · rcases root_cases path with ⟨hroot, -⟩ | ⟨hroot | hroot, -⟩
    · rw [hroot]
      exact hjoin
    · rw [hroot]
      show parts (slash :: Text.join "/" (parts path)) = _
      rw [parts_slash, hjoin]
    · rw [hroot]
      show parts (slash :: slash :: Text.join "/" (parts path)) = _
      rw [parts_slash, parts_slash, hjoin]

/-- The plain form of a path starts at the root if the path does. -/
theorem startsWith_normal (path : Text) : Text.startsWith (normal path) "/" = Text.startsWith path "/" := by
  unfold normal
  dsimp only
  rcases root_cases path with ⟨hroot, hstarts⟩ | ⟨hroot | hroot, hstarts⟩
  · rw [hroot, hstarts, List.nil_append]
    split
    · rfl
    · rename_i hne
      -- no part starts with a slash, and so the parts that are joined do not
      cases hparts : parts path with
      | nil =>
        rw [hparts] at hne
        exact absurd rfl hne
      | cons part rest =>
        have hmem : part ∈ parts path := by rw [hparts]; exact List.mem_cons_self
        obtain ⟨⟨hpart, -⟩, hslash⟩ := counts_of_mem_parts hmem
        cases part with
        | nil => exact absurd rfl hpart
        | cons c part =>
          have hc : c ≠ slash := fun heq => hslash (heq ▸ List.mem_cons_self)
          have hhead : (Text.join "/" ((c :: part) :: rest)).head? = some c := by
            by_cases hnil : rest = []
            · rw [hnil]
              rfl
            · rw [Text.join_cons _ _ hnil]
              rfl
          rw [startsWith_slash, hhead]
          simpa using hc
  · rw [hroot, hstarts]
    rfl
  · rw [hroot, hstarts]
    rfl

end Path

namespace Directory

/-- The place from which the path is followed. -/
def start (d : Directory) (path : Text) : List Text :=
  if Text.startsWith path "/" then [] else d.home

theorem counts_iff (part : Text) : Path.Counts part ↔ ¬ (part.isEmpty || part = here) = true := by
  rw [Bool.not_eq_true, Bool.or_eq_false_iff, decide_eq_false_iff_not, List.isEmpty_eq_false_iff]
  rfl

/-- Parts that count for nothing lead nowhere else. -/
theorem walk_filter {d : Directory} {place place' : List Text} {parts : List Text}
    (h : d.walk place parts = .ok place') :
    d.walk place (parts.filter fun part => Path.Counts part) = .ok place' := by
  induction parts generalizing place with
  | nil => exact h
  | cons part rest ih =>
    rw [walk] at h
    split at h
    · rename_i hdirectory
      split at h
      · rename_i hskips
        have hnot : ¬ Path.Counts part := fun hcounts => (counts_iff part).mp hcounts hskips
        rw [List.filter_cons_of_neg (by simpa using hnot)]
        exact ih h
      · rename_i hkept
        have hcounts : Path.Counts part := (counts_iff part).mpr hkept
        rw [List.filter_cons_of_pos (by simpa using hcounts), walk, if_pos hdirectory, if_neg hkept]
        split at h
        · rename_i habove
          rw [if_pos habove]
          exact ih h
        · rename_i habove
          rw [if_neg habove]
          split at h
          · cases h
          · rename_i hshort
            rw [if_neg hshort]
            exact ih h
    · split at h <;> cases h

theorem walk_of_place {d : Directory} {path : Text} {place : List Text} (h : d.place path = .ok place) :
    d.walk (d.start path) (Path.parts path) = .ok place := by
  unfold Directory.place at h
  split at h
  · cases h
  · split at h
    · cases h
    · exact walk_filter h

/-- A path that names a file leads to its place. -/
theorem place_of_look {d : Directory} {path : Text} {content : List UInt8} (h : d.look path = .file content) :
    ∃ place, d.place path = .ok place ∧ d.isDirectory place = false ∧ isDevice place = false ∧
      d.file? place = some content := by
  unfold look at h
  split at h
  · cases h
  · cases h
  · rename_i place hplace
    split at h
    · cases h
    · rename_i hdirectory
      split at h
      · cases h
      · rename_i hdevice
        split at h
        · rename_i found hfound
          injection h with hcontent
          exact ⟨place, hplace, by simpa using hdirectory, by simpa using hdevice, hcontent ▸ hfound⟩
        · cases h

/-- A path and its plain form do not lead to different places. -/
theorem place_normal_eq {d : Directory} {path : Text} {place place' : List Text} (h : d.place path = .ok place)
    (h' : d.place (Path.normal path) = .ok place') : place' = place := by
  have hwalk := walk_of_place h
  have hwalk' := walk_of_place h'
  rw [start, Path.startsWith_normal, ← start, Path.parts_normal, hwalk] at hwalk'
  injection hwalk' with heq
  exact heq.symm

/-- A name is a path to a place in the working directory. -/
theorem place_name {d : Directory} {name : Text} (hcounts : Path.Counts name) (hslash : Path.slash ∉ name)
    (habove : name ≠ above) (hshort : name.byteLength ≤ nameLimit) : d.place name = .ok (d.home ++ [name]) := by
  have hhome : d.isDirectory d.home = true := by simp [isDirectory]
  have hlimit : ¬ pathLimit ≤ name.byteLength := by
    have hle : nameLimit < pathLimit := by decide
    omega
  have hstart : Text.startsWith name "/" = false := by
    rw [Path.startsWith_slash, decide_eq_false]
    exact fun hhead => hslash (List.mem_of_head? hhead)
  rw [Directory.place, if_neg (by simpa using hcounts.1), if_neg hlimit, hstart, if_neg Bool.false_ne_true,
    Text.splitAt_single hslash, walk, if_pos hhome,
    if_neg ((counts_iff name).mp hcounts), if_neg habove, if_neg (Nat.not_lt.mpr hshort), walk]

/-! ## A file in the stead of another one -/

/-- The directory is as before, but for the content of the file at the place. -/
structure Rewrites (before after : Directory) (place : List Text) (content : List UInt8) : Prop where
  home : after.home = before.home
  name : after.name = before.name
  folders : after.folders = before.folders
  places : after.files.map Prod.fst = before.files.map Prod.fst
  there : (before.file? place).isSome = true
  holds : before.Holds after place content

theorem map_fst_put {place : List Text} {files : List (List Text × List UInt8)}
    (h : (files.find? fun f => f.1 = place).isSome = true) (content : List UInt8) :
    (put place content files).map Prod.fst = files.map Prod.fst := by
  induction files with
  | nil => cases h
  | cons f rest ih =>
    rw [put]
    split
    · rename_i heq
      rw [List.map_cons, List.map_cons, heq]
    · rename_i hne
      rw [List.find?_cons_of_neg (by simpa using hne)] at h
      rw [List.map_cons, List.map_cons, ih h]

theorem rewrites_put {d : Directory} {place : List Text} (h : (d.file? place).isSome = true) (content : List UInt8) :
    d.Rewrites { d with files := put place content d.files } place content where
  home := rfl
  name := rfl
  folders := rfl
  places := map_fst_put (by simpa [file?] using h) content
  there := h
  holds := holds_put d place content

namespace Rewrites

variable {before after : Directory} {rewritten : List Text} {content : List UInt8}
  (h : before.Rewrites after rewritten content)
include h

theorem isDirectory (place : List Text) : after.isDirectory place = before.isDirectory place := by
  have hfiles : ∀ d : Directory, (d.files.any fun f => place.length < f.1.length && place.isPrefixOf f.1) =
      (d.files.map Prod.fst).any fun other => place.length < other.length && place.isPrefixOf other := by
    intro d
    rw [List.any_map]
    rfl
  rw [Directory.isDirectory, Directory.isDirectory, hfiles, hfiles, h.places, h.home, h.folders]

theorem isSome_file? (place : List Text) : (after.file? place).isSome = (before.file? place).isSome := by
  by_cases heq : place = rewritten
  · rw [heq, h.holds.there, h.there]
    rfl
  · rw [h.holds.others place heq]

theorem walk (place : List Text) (parts : List Text) : after.walk place parts = before.walk place parts := by
  induction parts generalizing place with
  | nil => rfl
  | cons part rest ih => simp only [Directory.walk, h.isDirectory, h.isSome_file?, ih]

theorem place (path : Text) : after.place path = before.place path := by
  rw [Directory.place, Directory.place, h.walk, h.home]

theorem leads (path : Text) (place : List Text) : after.Leads path place ↔ before.Leads path place := by
  rw [Leads, Leads, h.place, h.isDirectory]

/-- A path that leads elsewhere names what it named. -/
theorem look_of_ne {path : Text} (hne : before.place path ≠ .ok rewritten) : after.look path = before.look path := by
  unfold look
  rw [h.place]
  split
  · rfl
  · rfl
  · rename_i place hplace
    have hother : place ≠ rewritten := by
      rintro rfl
      exact hne hplace
    rw [h.isDirectory, h.holds.others place hother]

/-- A path that leads to the file names it still, with its new content. -/
theorem look_of_file {path : Text} (hplace : before.place path = .ok rewritten) {old : List UInt8}
    (hlook : before.look path = .file old) : after.look path = .file content := by
  unfold look at hlook ⊢
  rw [hplace] at hlook
  rw [h.place, hplace]
  dsimp only at hlook ⊢
  rw [h.isDirectory, h.holds.there]
  split at hlook
  · cases hlook
  · rename_i hdirectory
    rw [if_neg hdirectory]
    split at hlook
    · cases hlook
    · rename_i hdevice
      rw [if_neg hdevice]

theorem look (path : Text) : after.look path = before.look path ∨
    (before.place path = .ok rewritten ∧ (∃ old, before.look path = .file old) ∧ after.look path = .file content) := by
  by_cases hplace : before.place path = .ok rewritten
  · obtain ⟨old, hold⟩ := Option.isSome_iff_exists.mp h.there
    by_cases hfile : ∃ old, before.look path = .file old
    · obtain ⟨old, hlook⟩ := hfile
      exact Or.inr ⟨hplace, ⟨old, hlook⟩, h.look_of_file hplace hlook⟩
    · -- a directory or a device stands at the place, and does so after the write
      refine Or.inl ?_
      unfold Directory.look at hfile ⊢
      rw [hplace] at hfile
      rw [h.place, hplace]
      dsimp only at hfile ⊢
      rw [h.isDirectory]
      split at hfile
      · rename_i hdirectory
        rw [if_pos hdirectory, if_pos hdirectory]
      · rename_i hdirectory
        rw [if_neg hdirectory, if_neg hdirectory]
        split at hfile
        · rename_i hdevice
          rw [if_pos hdevice, if_pos hdevice]
        · rw [hold] at hfile
          exact absurd ⟨old, rfl⟩ hfile
  · exact Or.inl (h.look_of_ne hplace)

end Rewrites

end Directory

end Tidy
