/-
# Tidy.Proofs.Json.Steps -- formatting and minifying JSON, step after step

A document may be formatted and minified any number of times. No step changes the value that the text denotes, and
so the text after the last step is the one that this step alone gives.
-/

import Tidy.Engine
import Tidy.Proofs.Json.Reading
import Tidy.Proofs.Json.Writing

namespace Tidy.Json

/-- One operation of the engine on a JSON text. -/
inductive Step where
  | format (width : Nat)
  | minify (fallback : Bool)
deriving DecidableEq

/-- What the engine gives for a text. Minifying has no errors to report. -/
def Step.outcome : Step → Text → Formatted
  | .format width, source => Engine.format .word .json width source
  | .minify fallback, source => ⟨Engine.minify .json fallback source, none⟩

/-- The widths that a step may have. -/
def Step.Allowed : Step → Prop
  | .format width => 1 ≤ width ∧ width < 2 ^ 63
  | .minify _ => True

instance : (step : Step) → Decidable step.Allowed
  | .format _ => inferInstanceAs (Decidable (_ ∧ _))
  | .minify _ => inferInstanceAs (Decidable True)

/-- The outcomes of the steps, each fed with the text of the one before it. -/
def run : List Step → Text → List Formatted
  | [], _ => []
  | step :: rest, source => step.outcome source :: run rest (step.outcome source).text

/-! ## One step -/

/-- The text that a step writes for a value. -/
def Step.spelling : Step → Json → Text
  | .format width, v => Layout.render width v.entries
  | .minify _, v => v.compact

theorem formatValue_eq {memory : Memory} {width : Nat} (h : width < memory.limit) (v : Json) :
    Engine.formatValue memory width v = .ok (Layout.render width v.entries) := by
  unfold Engine.formatValue
  split
  · rename_i t
    show _ = Except.ok (Text.spaces (width * 0) ++ ([] ++ writeString t ++ []))
    rw [Nat.mul_zero, List.nil_append, List.append_nil]
    rfl
  · rw [Engine.laidOut, if_neg (Nat.not_le.mpr h)]

theorem isBlank_eq_false {source : Text} {v : Json} (h : Denotes source v) : source.isBlank = false := by
  obtain ⟨c, hc, hblank⟩ := h.not_blank
  rw [Text.isBlank, List.all_eq_false]
  exact ⟨c, hc, by rw [hblank]; exact Bool.false_ne_true⟩

/-- A step on a document writes the value that the document denotes. -/
theorem Step.outcome_eq {step : Step} (hstep : step.Allowed) {source : Text} {v : Json} (h : Denotes source v) :
    step.outcome source = ⟨step.spelling v, none⟩ := by
  have hparse := (parse_eq_ok_iff source v).mpr h
  cases step with
  | format width =>
    have hroom : width < Memory.word.limit := hstep.2
    have hdocument : Engine.formatDocument .word .json width source = .ok (Layout.render width v.entries) := by
      simp only [Engine.formatDocument, hparse]
      exact formatValue_eq hroom v
    rw [Step.outcome, Engine.format, isBlank_eq_false h, if_neg Bool.false_ne_true, hdocument]
    rfl
  | minify fallback =>
    rw [Step.outcome, Engine.minify, isBlank_eq_false h, if_neg Bool.false_ne_true]
    simp only [hparse]
    rfl

/-- The text that a step writes denotes the value that was written. -/
theorem Step.denotes_spelling (step : Step) {v : Json} (h : Writable nestingLimit v) : Denotes (step.spelling v) v := by
  cases step with
  | format width => exact denotes_render h width
  | minify fallback => exact denotes_compact h

/-- One step succeeds, keeps the value and forgets everything else about its source. -/
theorem Step.outcome_spec {step : Step} (hstep : step.Allowed) {source : Text} {v : Json} (h : Denotes source v) :
    (step.outcome source).error = none ∧ Denotes (step.outcome source).text v ∧
      ∀ other : Text, Denotes other v → step.outcome other = step.outcome source := by
  have houtcome := outcome_eq hstep h
  refine ⟨by rw [houtcome], ?_, ?_⟩
  · rw [houtcome]
    exact step.denotes_spelling h.writable
  · intro other hother
    rw [houtcome, outcome_eq hstep hother]

/-! ## Many steps -/

theorem denotes_of_mem_run {steps : List Step} (hsteps : ∀ step ∈ steps, step.Allowed) {source : Text} {v : Json}
    (h : Denotes source v) : ∀ outcome ∈ run steps source, outcome.error = none ∧ Denotes outcome.text v := by
  induction steps generalizing source with
  | nil =>
    intro outcome hmem
    cases hmem
  | cons step rest ih =>
    obtain ⟨hstep, hrest⟩ := List.forall_mem_cons.mp hsteps
    obtain ⟨herror, htext, -⟩ := Step.outcome_spec hstep h
    rw [run, List.forall_mem_cons]
    exact ⟨⟨herror, htext⟩, ih hrest htext⟩

theorem getLast?_run {steps : List Step} (hsteps : ∀ step ∈ steps, step.Allowed) {source : Text} {v : Json}
    (h : Denotes source v) : (run steps source).getLast? = steps.getLast?.map fun last => last.outcome source := by
  induction steps generalizing source with
  | nil => rfl
  | cons step rest ih =>
    obtain ⟨hstep, hrest⟩ := List.forall_mem_cons.mp hsteps
    obtain ⟨-, htext, -⟩ := Step.outcome_spec hstep h
    cases rest with
    | nil => rfl
    | cons next rest =>
      rw [run, run, List.getLast?_cons_cons, ← run, ih hrest htext, List.getLast?_cons_cons]
      -- the last step does not care which text of the document it is fed with
      cases hlast : (next :: rest).getLast? with
      | none => rfl
      | some last =>
        obtain ⟨-, -, hsame⟩ := Step.outcome_spec (hrest last (List.mem_of_getLast? hlast)) h
        rw [Option.map_some, Option.map_some, hsame _ htext]

/-- The steps never change the document, and the last step alone decides the text. -/
theorem run_keeps_document {source : Text} {v : Json} (h : parse source = .ok v) :
    (∀ steps : List Step, (∀ step ∈ steps, step.Allowed) →
      (∀ outcome ∈ run steps source, outcome.error = none ∧ parse outcome.text = .ok v) ∧
      ∀ last, steps.getLast? = some last → (run steps source).getLast? = some (last.outcome source)) ∧
    (∀ n m : Nat, 1 ≤ n → n < 2 ^ 63 → 1 ≤ m → m < 2 ^ 63 →
      Engine.format .word .json m (Engine.format .word .json n source).text = Engine.format .word .json m source) ∧
    ∀ (n : Nat) (fallback : Bool), 1 ≤ n → n < 2 ^ 63 →
      Engine.format .word .json n (Engine.minify .json fallback source) = Engine.format .word .json n source ∧
      Engine.minify .json fallback (Engine.format .word .json n source).text = Engine.minify .json fallback source := by
  have hsource := (parse_eq_ok_iff source v).mp h
  have hpair : ∀ first last : Step, first.Allowed → last.Allowed →
      last.outcome (first.outcome source).text = last.outcome source := by
    intro first last hfirst hlast
    exact (Step.outcome_spec hlast hsource).2.2 _ (Step.outcome_spec hfirst hsource).2.1
  refine ⟨?_, ?_, ?_⟩
  · intro steps hsteps
    constructor
    · intro outcome hmem
      obtain ⟨herror, htext⟩ := denotes_of_mem_run hsteps hsource outcome hmem
      exact ⟨herror, (parse_eq_ok_iff _ _).mpr htext⟩
    · intro last hlast
      rw [getLast?_run hsteps hsource, hlast]
      rfl
  · intro n m hn hn' hm hm'
    exact hpair (.format n) (.format m) ⟨hn, hn'⟩ ⟨hm, hm'⟩
  · intro n fallback hn hn'
    constructor
    · exact hpair (.minify fallback) (.format n) trivial ⟨hn, hn'⟩
    · exact congrArg Formatted.text (hpair (.format n) (.minify fallback) ⟨hn, hn'⟩ trivial)

theorem denotes_null_list : Denotes "[ null ]" (.arr [.null]) := by
  have hitem : Spells 979 ([CodePoint.char ' '] ++ ("null" ++ [CodePoint.char ' '])) (.item .null) :=
    .item (isGap_spaces 1) (.word List.mem_cons_self) (isGap_spaces 1)
  exact Spells.bareItem (.array (.oneItem hitem))

theorem run_keeps_null_list :
    parse "[ null ]" = .ok (.arr [.null]) ∧
      (run [.format 4, .minify true, .format 2] "[ null ]").getLast? = some ((Step.format 2).outcome "[ null ]") := by
  have hparse := (parse_eq_ok_iff _ _).mpr denotes_null_list
  exact ⟨hparse, ((run_keeps_document hparse).1 _ (by decide)).2 _ rfl⟩

end Tidy.Json
