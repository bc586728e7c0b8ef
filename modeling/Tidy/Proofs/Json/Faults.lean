/-
# Tidy.Proofs.Json.Faults -- what a fault shows of its document

A fault that lies at a place tells the place by numbers. Two kinds of fault show a part of the document itself, the name
of a constant and a number that is out of range; both consist of characters, so the words for a fault of any document
can be written (`hasSurrogate_message_of_parse`).
-/

import Tidy.Proofs.Json.Literals
import Tidy.Proofs.Text.Whole

namespace Tidy.Json

/-- What the fault shows of the document can be written. -/
def Fault.Plain : Fault → Prop
  | constant name => name.hasSurrogate = false
  | outOfRange literal => literal.hasSurrogate = false
  | lies _ _ | tooManyDigits _ | tooDeep => True

theorem Fault.Plain.hasSurrogate_message {fault : Fault} (h : fault.Plain) (source : Text) :
    (fault.message source).hasSurrogate = false := by
  have hcomplaint : ∀ complaint : Complaint, complaint.message.hasSurrogate = false := by
    intro complaint
    cases complaint <;> exact Text.hasSurrogate_ofString _
  cases fault with
  | lies complaint rest => simp [Fault.message, hcomplaint complaint]
  | constant name =>
    have hname : name.hasSurrogate = false := h
    simp [Fault.message, hname]
  | outOfRange literal =>
    have hliteral : literal.hasSurrogate = false := h
    simp [Fault.message, hliteral]
  | tooManyDigits count => simp [Fault.message, tooManyDigitsMessage]
  | tooDeep => exact Text.hasSurrogate_ofString _

/-! ## Faults of readers -/

/-- Where reading fails, it fails with a fault that is plain. -/
def FailsPlainly {α : Type} (x : Except Fault α) : Prop :=
  ∀ fault, x = .error fault → fault.Plain

variable {α β : Type}

theorem failsPlainly_ok (a : α) : FailsPlainly (.ok a) := by
  rintro fault ⟨⟩

theorem failsPlainly_error {fault : Fault} (h : fault.Plain) : FailsPlainly (.error fault : Except Fault α) := by
  rintro fault' ⟨⟩
  exact h

/-- A fault that is passed on is the one that was met. -/
theorem FailsPlainly.error {x : Except Fault α} (h : FailsPlainly x) {fault : Fault} (hx : x = .error fault) :
    FailsPlainly (.error fault : Except Fault β) :=
  failsPlainly_error (h fault hx)

theorem FailsPlainly.map {x : Except Fault α} (h : FailsPlainly x) (f : α → β) : FailsPlainly (x.map f) := by
  cases x with
  | error fault => exact h.error rfl
  | ok a => exact failsPlainly_ok (f a)

theorem failsPlainly_readPair (n : Nat) (rest : Text) : FailsPlainly (readPair n rest) := by
  unfold readPair
  repeat' split
  all_goals first
    | exact failsPlainly_ok _
    | exact failsPlainly_error trivial

theorem failsPlainly_readEscape (opening s : Text) : FailsPlainly (readEscape opening s) := by
  unfold readEscape
  split
  · exact failsPlainly_error trivial
  · split
    · split
      · exact failsPlainly_error trivial
      · split
        · rename_i hpair
          exact (failsPlainly_readPair _ _).error hpair
        · exact failsPlainly_ok _
    · split
      · exact failsPlainly_ok _
      · exact failsPlainly_error trivial

theorem failsPlainly_readString (opening s : Text) : FailsPlainly (readString opening s) := by
  induction hs : s.length using Nat.strongRecOn generalizing s with
  | _ len ih =>
    subst hs
    rw [readString.eq_def]
    split
    · exact failsPlainly_error trivial
    · rename_i c rest
      split
      · exact failsPlainly_ok _
      · split
        · split
          · rename_i hescape
            exact (failsPlainly_readEscape _ _).error hescape
          · rename_i escape hescape
            split
            · rename_i hmore
              have hshorter : escape.rest.length < (c :: rest).length := Nat.lt_succ_of_lt escape.shorter
              exact (ih _ hshorter escape.rest rfl).error hmore
            · exact failsPlainly_ok _
        · split
          · exact failsPlainly_error trivial
          · split
            · rename_i hmore
              exact (ih _ (Nat.lt_succ_self _) rest rfl).error hmore
            · exact failsPlainly_ok _

/-! ## Faults of scalars -/

theorem Numeral.WellFormed.hasSurrogate_literal {n : Numeral} (h : n.WellFormed) : n.literal.hasSurrogate = false := by
  have hmarks : ∀ c ∈ numeralMarks, c.isSurrogate = false := by decide
  rw [Text.hasSurrogate_eq_false_iff]
  intro c hc
  rcases h.mem_literal hc with hdigit | hmark
  · cases c with
    | char c => rfl
    | surrogate unit =>
      have hlow : 0xD800 + unit.val ≤ 0x39 := of_decide_eq_true (Bool.and_eq_true_iff.mp hdigit).2
      omega
  · exact hmarks c hmark

theorem failsPlainly_value {n : Numeral} (h : n.WellFormed) (d : Dialect) : FailsPlainly (n.value d) := by
  unfold Numeral.value
  split
  · split
    · exact failsPlainly_error trivial
    · exact failsPlainly_ok _
  · dsimp only
    split
    · exact failsPlainly_ok _
    · exact failsPlainly_error h.hasSurrogate_literal

theorem hasSurrogate_of_readWord {s name rest : Text} {v : Json} (h : readWord? constants s = some (name, v, rest)) :
    name.hasSurrogate = false := by
  obtain ⟨⟨word, value⟩, hmem, hword⟩ := List.exists_of_findSome?_eq_some h
  have hnames : ∀ entry ∈ constants, entry.1.hasSurrogate = false := by
    simp only [constants, List.forall_mem_cons, Text.hasSurrogate_ofString, true_and]
    exact List.forall_mem_nil _
  have hname : word = name := by
    dsimp only at hword
    split at hword
    · cases hword
    · obtain ⟨more, -, hmore⟩ := Option.map_eq_some_iff.mp hword
      exact congrArg Prod.fst hmore
  rw [← hname]
  exact hnames _ hmem

theorem failsPlainly_readScalar (d : Dialect) (s : Text) : FailsPlainly (readScalar d s) := by
  unfold readScalar
  split
  · exact failsPlainly_ok _
  · split
    · rename_i hconstant
      split
      · exact failsPlainly_ok _
      · exact failsPlainly_error (hasSurrogate_of_readWord hconstant)
    · split
      · rename_i hnumeral
        exact (failsPlainly_value (readNumeral?_sound hnumeral).1 d).map _
      · exact failsPlainly_error trivial

/-! ## Faults of values -/

/-- No reader of values fails in another way at `s`. -/
structure PlainAt (d : Dialect) (s : Text) : Prop where
  value : ∀ room, FailsPlainly (readValue d room s)
  items : ∀ room, FailsPlainly (readItems d room s)
  members : ∀ room, FailsPlainly (readMembers d room s)

theorem failsPlainly_readValue {d : Dialect} {s : Text} (ih : ∀ t : Text, t.length < s.length → PlainAt d t)
    (room : Nat) : FailsPlainly (readValue d room s) := by
  rw [readValue.eq_def]
  split
  · exact failsPlainly_error trivial
  · rename_i c rest
    have hinside : ∀ {e : CodePoint} {more : Text}, skipGap rest = e :: more →
        (e :: more).length < (c :: rest).length := by
      intro e more hskip
      rw [← hskip]
      exact Nat.lt_succ_of_le (length_skipGap_le rest)
    split
    · exact (failsPlainly_readString _ _).map _
    · split
      · split
        · exact failsPlainly_error trivial
        · dsimp only
          split
          · exact failsPlainly_error trivial
          · rename_i hskip
            split
            · exact failsPlainly_ok _
            · split
              · rename_i hitems
                exact ((ih _ (hinside hskip)).items _).error hitems
              · exact failsPlainly_ok _
      · split
        · split
          · exact failsPlainly_error trivial
          · dsimp only
            split
            · exact failsPlainly_error trivial
            · rename_i hskip
              split
              · exact failsPlainly_ok _
              · split
                · rename_i hmembers
                  exact ((ih _ (hinside hskip)).members _).error hmembers
                · exact failsPlainly_ok _
        · exact failsPlainly_readScalar _ _

theorem failsPlainly_readItems {d : Dialect} {s : Text} (ih : ∀ t : Text, t.length < s.length → PlainAt d t)
    (room : Nat) : FailsPlainly (readItems d room s) := by
  have hvalue := failsPlainly_readValue ih room
  rw [readItems]
  split
  · rename_i hitem
    exact hvalue.error hitem
  · rename_i item hitem
    dsimp only
    split
    · exact failsPlainly_error trivial
    · rename_i c rest hskip
      split
      · exact failsPlainly_ok _
      · split
        · split
          · rename_i hmore
            have hshorter := (length_skipGap_lt hskip).trans item.shorter
            exact ((ih _ hshorter).items room).error hmore
          · exact failsPlainly_ok _
        · exact failsPlainly_error trivial

theorem failsPlainly_readMembers {d : Dialect} {s : Text} (ih : ∀ t : Text, t.length < s.length → PlainAt d t)
    (room : Nat) : FailsPlainly (readMembers d room s) := by
  rw [readMembers.eq_def]
  split
  · exact failsPlainly_error trivial
  · rename_i q inside
    split
    · split
      · rename_i hname
        exact (failsPlainly_readString _ _).error hname
      · rename_i name hname
        dsimp only
        split
        · exact failsPlainly_error trivial
        · rename_i c after hcolon
          have hafter : (skipGap after).length < (q :: inside).length :=
            Nat.lt_succ_of_lt ((length_skipGap_lt hcolon).trans name.shorter)
          split
          · split
            · rename_i hvalue
              exact ((ih _ hafter).value room).error hvalue
            · rename_i value hvalue
              split
              · exact failsPlainly_error trivial
              · rename_i e rest hnext
                split
                · exact failsPlainly_ok _
                · split
                  · split
                    · rename_i hmore
                      have hshorter := ((length_skipGap_lt hnext).trans value.shorter).trans hafter
                      exact ((ih _ hshorter).members room).error hmore
                    · exact failsPlainly_ok _
                  · exact failsPlainly_error trivial
          · exact failsPlainly_error trivial
    · exact failsPlainly_error trivial

theorem plainAt (d : Dialect) (s : Text) : PlainAt d s := by
  induction hs : s.length using Nat.strongRecOn generalizing s with
  | _ len ih =>
    subst hs
    have ih : ∀ t : Text, t.length < s.length → PlainAt d t := fun t ht => ih _ ht t rfl
    exact ⟨failsPlainly_readValue ih, failsPlainly_readItems ih, failsPlainly_readMembers ih⟩

theorem failsPlainly_parse (source : Text) : FailsPlainly (parse source) := by
  unfold parse
  split
  · exact failsPlainly_error trivial
  · unfold readDocument
    split
    · rename_i hvalue
      exact ((plainAt _ _).value _).error hvalue
    · split
      · exact failsPlainly_ok _
      · exact failsPlainly_error trivial

/-- The words for what is wrong with a document can be written, even if the document cannot. -/
theorem hasSurrogate_message_of_parse {source : Text} {fault : Fault} (h : parse source = .error fault) :
    (fault.message source).hasSurrogate = false :=
  (failsPlainly_parse source fault h).hasSurrogate_message source

end Tidy.Json
