/-
# Tidy.Proofs.Cli.Rerun -- running the program again after a file was rewritten

The directory decides in four places what a run does: whether the paths on the command line name files or directories,
where the file to write is, which preferences are read, and which text. The first two are as before after a file was
rewritten, and so are the preferences if they are not read from that file (`load_rewrites`). What is left is the text,
which is another one only if it is read from that file.
-/

import Tidy.Proofs.Cli.Files

namespace Tidy

variable {before after : Directory} {rewritten : List Text} {content : List UInt8}

/-! ## Preferences -/

namespace Settings

/-- Is there a file at the path that preferences can be read from? -/
def opens (d : Directory) (path : Text) : Bool :=
  match open? d path with
  | .ok (some _) => true
  | _ => false

/-- The path that preferences are read from: the one that is given, or else that of the first file that is found. -/
def source? (d : Directory) : Option Text → Option Text
  | some path => some (Path.normal path)
  | none => defaultFiles.find? fun name => opens d name

theorem open?_rewrites (h : before.Rewrites after rewritten content) {path : Text}
    (hother : opens before path = true → before.place path ≠ .ok rewritten) : open? after path = open? before path := by
  unfold open?
  split
  · rfl
  · rename_i hzero
    rcases h.look path with hsame | ⟨hplace, ⟨old, hold⟩, -⟩
    · rw [hsame]
    · refine absurd hplace (hother ?_)
      rw [opens, open?, if_neg hzero, hold]

theorem search_rewrites (h : before.Rewrites after rewritten content) {names : List Text}
    (hother : ∀ name, names.find? (fun name => opens before name) = some name → before.place name ≠ .ok rewritten) :
    search after [] names = search before [] names := by
  induction names with
  | nil => rfl
  | cons name rest ih =>
    rw [List.find?_cons] at hother
    have hopen : open? after name = open? before name := by
      refine open?_rewrites h fun hopens => ?_
      rw [hopens] at hother
      exact hother name rfl
    have hinside : ∀ d : Directory, search d [] (name :: rest) =
        (open? d name).bind fun found =>
          found.elim (search d [] rest) fun content => .ok (some (Path.inside d.name name, content)) := by
      intro d
      refine congrArg (Except.bind (open? d name)) (funext fun found => ?_)
      cases found <;> rfl
    rw [hinside, hinside, hopen, h.name]
    cases hfound : open? before name with
    | error fault => rfl
    | ok found =>
      cases found with
      | some found => rfl
      | none =>
        have hnone : opens before name = false := by rw [opens, hfound]
        rw [hnone] at hother
        exact ih hother

/-- The preferences are as before if they are read from another file, or from none. -/
theorem load_rewrites (h : before.Rewrites after rewritten content) {given : Option Text}
    (hother : ∀ path, source? before given = some path → before.place path ≠ .ok rewritten) :
    load after given none = load before given none := by
  have hlocate : locate after given none = locate before given none := by
    cases given with
    | some path =>
      rw [locate, locate, open?_rewrites h fun _ => hother _ rfl]
    | none => exact search_rewrites h hother
  rw [load, load, hlocate]

end Settings

/-! ## Command lines -/

namespace Cli

/-- Where the content of a file makes no difference, neither does rewriting it. -/
theorem lookAt_bind_rewrites (h : before.Rewrites after rewritten content) {α : Type} {next : Found → Except Stop α}
    (hnext : ∀ old new, next (.file new) = next (.file old)) (path : Text) :
    (lookAt after path).bind next = (lookAt before path).bind next := by
  unfold lookAt
  split
  · rfl
  · rcases h.look path with hsame | ⟨-, ⟨old, hold⟩, hnew⟩
    · rw [hsame]
    · rw [hold, hnew]
      exact hnext old content

theorem checkSwitch_rewrites (h : before.Rewrites after rewritten content) (scope : Scope) (a : Arguments)
    (switch : Switch) : checkSwitch after scope a switch = checkSwitch before scope a switch := by
  cases switch with
  | config => exact lookAt_bind_rewrites h (fun _ _ => rfl) _
  | output => exact lookAt_bind_rewrites h (fun _ _ => rfl) _
  | _ => rfl

theorem checkPath_rewrites (h : before.Rewrites after rewritten content) (scope : Scope) (hint path : Text) :
    checkPath after scope hint path = checkPath before scope hint path := by
  unfold checkPath
  split
  · rfl
  · exact lookAt_bind_rewrites h (fun _ _ => rfl) path

theorem checkArgument_rewrites (h : before.Rewrites after rewritten content) (command : Command)
    (others : List Text) : checkArgument after command others = checkArgument before command others := by
  simp only [checkArgument, checkPath_rewrites h]

theorem toOption_understand_rewrites (h : before.Rewrites after rewritten content) (scope : Scope)
    (arguments : List Text) :
    (understand after scope arguments).toOption = (understand before scope arguments).toOption := by
  unfold understand
  cases Arguments.read scope arguments with
  | error fault => rfl
  | ok a =>
    dsimp only
    cases pageAsked? scope a with
    | some page => rfl
    | none =>
      dsimp only
      rw [funext (checkSwitch_rewrites h scope a)]
      cases a.order.forM (checkSwitch before scope a) <;> rfl

theorem readSource_rewrites {s : Surroundings} (h : s.directory.Rewrites after rewritten content) {path : Text}
    (hother : path = dash ∨ s.directory.place path ≠ .ok rewritten) :
    readSource { s with directory := after } path = readSource s path := by
  unfold readSource
  rcases hother with rfl | hne
  · rfl
  · rw [h.look_of_ne hne]

/-- What formatting delivers, after a file was rewritten from which the text is not read. -/
theorem formatDelivery?_rewrites {s : Surroundings} (h : s.directory.Rewrites after rewritten content) {path : Text}
    (hother : path = dash ∨ s.directory.place path ≠ .ok rewritten) (settings : Settings) (a : Arguments) :
    formatDelivery? { s with directory := after } settings a path = formatDelivery? s settings a path := by
  unfold formatDelivery?
  rw [readSource_rewrites h hother]

end Cli

end Tidy
