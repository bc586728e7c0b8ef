/-
# Tidy.Proofs.Http.Answers -- what a response says about a document

The service looks at the fields of a body, at the option for its indentation and at its document, in this order, and
reports what it finds with a status of its own: 422, 400 or 200. The words of the program itself can always be sent. A
text that holds a lone surrogate cannot, and the service only notices when it writes the response, which then is an
internal error: this is so exactly if the text is what an issue is about or what the engine gives for the document
(`respond_document`).
-/

import Tidy.Http.Service
import Tidy.Proofs.Cli.Files
import Tidy.Proofs.Engine
import Tidy.Proofs.Json.Faults
import Tidy.Proofs.Record

namespace Tidy

open CodePoint (char)

/-! ## The words of the program -/

namespace Indent

theorem hasSurrogate_of_readNumeral {t : Text} {fault : Fault} (h : readNumeral t = .error fault) :
    fault.message.hasSurrogate = false := by
  unfold readNumeral at h
  dsimp only at h
  split at h
  · obtain rfl := Except.error.inj h
    simp [Fault.message, Json.tooManyDigitsMessage]
  · split at h
    · obtain rfl := Except.error.inj h
      have hquoted : Text.hasSurrogate ((Text.quoted t).take quotationLimit) = false :=
        Text.hasSurrogate_of_subset (fun c hc => List.mem_of_mem_take hc) (Text.hasSurrogate_quoted t)
      simp [Fault.message, hquoted]
    · cases h

theorem hasSurrogate_of_width {n : Int} {fault : Fault} (h : width (.int n) = .error fault) :
    fault.message.hasSurrogate = false := by
  rw [width] at h
  split at h
  · cases h
  · obtain rfl := Except.error.inj h
    rw [Fault.message]
    split
    · exact Text.hasSurrogate_ofString _
    · simp [Value.spelled]

/-- The message on an option that is a number or a text can be sent, for the option is quoted in it. -/
theorem hasSurrogate_of_resolve {option : Value} (hoption : (∃ n, option = .int n) ∨ ∃ t, option = .str t)
    {tabWidth : Int} {fault : Fault} (h : resolve option (.int tabWidth) = .error fault) :
    fault.message.hasSurrogate = false := by
  rcases hoption with ⟨n, rfl⟩ | ⟨t, rfl⟩
  · exact hasSurrogate_of_width h
  · unfold resolve meaning at h
    dsimp only at h
    split at h
    · exact hasSurrogate_of_width h
    · split at h
      · cases hnumeral : readNumeral (Text.lower (Text.trim t)) with
        | error fault' =>
          rw [hnumeral] at h
          obtain rfl := Except.error.inj h
          exact hasSurrogate_of_readNumeral hnumeral
        | ok n =>
          rw [hnumeral] at h
          exact hasSurrogate_of_width h
      · obtain rfl := Except.error.inj h
        simp [Fault.message]

end Indent

theorem Xml.hasSurrogate_faultMessage (source : Text) (cause : Xml.Cause) (place : Text) :
    (Xml.faultMessage source cause place).hasSurrogate = false := by
  have hcause : cause.message.hasSurrogate = false := by
    cases cause <;> exact Text.hasSurrogate_ofString _
  simp [Xml.faultMessage, Xml.message, hcause]

theorem Engine.parse_of_formatDocument {memory : Memory} {language : Language} {width : Nat} {source : Text}
    {fault : Json.Fault} (h : Engine.formatDocument memory language width source = .error (.json fault)) :
    Json.parse source = .error fault := by
  have hlaidOut : ∀ layout, Engine.laidOut memory width layout ≠ .error (.json fault) := by
    intro layout hlayout
    unfold Engine.laidOut at hlayout
    split at hlayout <;> cases hlayout
  cases language with
  | json =>
    simp only [Engine.formatDocument] at h
    cases hparse : Json.parse source with
    | error fault' =>
      rw [hparse] at h
      obtain rfl := Failure.json.inj (Except.error.inj h)
      rfl
    | ok value =>
      rw [hparse] at h
      unfold Engine.formatValue at h
      dsimp only at h
      split at h
      · cases h
      · exact absurd h (hlaidOut _)
  | xml =>
    simp only [Engine.formatDocument] at h
    split at h
    · cases h
    · exact absurd h (hlaidOut _)
  | typescript => exact absurd h (hlaidOut fun width => Script.format width source)
  | css => exact absurd h (hlaidOut fun width => Css.format width source)
  | html => exact absurd h (hlaidOut fun width => Markup.format width source)

/-- The message on a document can be sent, even if the document cannot. -/
theorem Engine.hasSurrogate_of_format {memory : Memory} {language : Language} {width : Nat} {source message : Text}
    (h : (Engine.format memory language width source).error = some message) : message.hasSurrogate = false := by
  have hname : (language.displayName ++ (" formatting error" : Text)).hasSurrogate = false := by
    cases language <;> exact Text.hasSurrogate_ofString _
  unfold Engine.format at h
  split at h
  · cases h
  · split at h
    · cases h
    · rename_i failure hfailure
      obtain rfl := Option.some.inj h
      cases failure with
      | width => exact hname
      | xml fault =>
        cases fault with
        | malformed cause place => exact Xml.hasSurrogate_faultMessage _ _ _
        | redeclared => exact hname
        | unencodable => exact hname
      | json fault => exact Json.hasSurrogate_message_of_parse (Engine.parse_of_formatDocument hfailure)

/-! ## The words for issues -/

/-- The words for the problem can be sent. -/
def Problem.Plain : Problem → Prop
  | choice options => ∀ option ∈ options, Text.hasSurrogate option = false
  | rule message => message.hasSurrogate = false
  | _ => True

/-- The words for the issue can be sent. -/
def Issue.Plain (issue : Issue) : Prop :=
  (∀ name ∈ issue.path, Text.hasSurrogate name = false) ∧ issue.problem.Plain

theorem Problem.hasSurrogate_alternatives {options : List Text}
    (h : ∀ option ∈ options, Text.hasSurrogate option = false) :
    (Problem.alternatives options).hasSurrogate = false := by
  induction options with
  | nil => rfl
  | cons option rest ih =>
    obtain ⟨hoption, hrest⟩ := List.forall_mem_cons.mp h
    match rest with
    | [] => simp [Problem.alternatives, hoption]
    | [last] =>
      have hlast := hrest last List.mem_cons_self
      simp [Problem.alternatives, hoption, hlast]
    | next :: last :: rest => simp [Problem.alternatives, hoption, ih hrest]

theorem Problem.Plain.hasSurrogate {problem : Problem} (h : problem.Plain) :
    problem.code.hasSurrogate = false ∧ problem.message.hasSurrogate = false := by
  cases problem with
  | choice options =>
    refine ⟨Text.hasSurrogate_ofString _, ?_⟩
    simp [Problem.message, Problem.hasSurrogate_alternatives h]
  | rule message =>
    refine ⟨Text.hasSurrogate_ofString _, ?_⟩
    have hmessage : message.hasSurrogate = false := h
    simp [Problem.message, hmessage]
  | _ => exact ⟨Text.hasSurrogate_ofString _, Text.hasSurrogate_ofString _⟩

namespace Http

theorem arePortable_iff (items : List Json) :
    Json.arePortable items = true ↔ ∀ item ∈ items, item.isPortable = true := by
  induction items with
  | nil => simp [Json.arePortable]
  | cons item rest ih => simp [Json.arePortable, ih]

/-- An issue can be sent exactly if what it is about can be. -/
theorem isPortable_issueJson {issue : Issue} (h : issue.Plain) (input : Json) :
    (issueJson "body" input issue).isPortable = input.isPortable := by
  obtain ⟨path, problem⟩ := issue
  obtain ⟨hpath, hproblem⟩ := h
  have hloc : Json.arePortable ((("body" : Text) :: path).map Json.str) = true := by
    rw [arePortable_iff]
    intro item hitem
    obtain ⟨name, hname, rfl⟩ := List.mem_map.mp hitem
    rcases List.mem_cons.mp hname with rfl | hname
    · rfl
    · simp [Json.isPortable, hpath name hname]
  obtain ⟨hcode, hmessage⟩ := hproblem.hasSurrogate
  unfold issueJson
  dsimp only at hcode hmessage ⊢
  generalize (("body" : Text) :: path).map Json.str = locs at hloc ⊢
  cases problem with
  | choice options =>
    -- here the options are listed a second time
    have hoptions : (Problem.alternatives options).hasSurrogate = false := Problem.hasSurrogate_alternatives hproblem
    simp [Json.haveNames, Json.isPortable, hcode, hmessage, hloc, hoptions]
  | _ => simp [Json.haveNames, Json.isPortable, hcode, hmessage, hloc]

/-- The response for issues lists them, if what they are about can be sent. -/
theorem refuse_eq {issues : List Issue} (h : ∀ issue ∈ issues, issue.Plain) (input : Issue → Json) :
    refuse "body" input issues =
      if ∀ issue ∈ issues, (input issue).isPortable = true then
        ⟨422, .json (.obj [("detail", .arr (issues.map fun issue => issueJson "body" (input issue) issue))])⟩
      else .internalError := by
  have hportable : Json.isPortable (.obj [("detail",
      .arr (issues.map fun issue => issueJson "body" (input issue) issue))]) = true ↔
      ∀ issue ∈ issues, (input issue).isPortable = true := by
    simp only [Json.isPortable, Json.haveNames, Text.hasSurrogate_ofString, Bool.not_false, Bool.true_and,
      Bool.and_true, arePortable_iff, List.forall_mem_map]
    exact forall₂_congr fun issue hissue => by rw [isPortable_issueJson (h issue hissue)]
  simp only [refuse, Response.detail, Response.json, hportable]

/-! ## Issues of fields -/

/-- The words for every problem that the check finds can be sent. -/
def ChecksPlainly {α : Type} (check : Check α) : Prop :=
  ∀ value problem, check value = .error problem → problem.Plain

theorem checksPlainly_text : ChecksPlainly Check.text := by
  intro value problem h
  unfold Check.text at h
  split at h
  · cases h
  · obtain rfl := Except.error.inj h
    trivial

theorem plain_spelling (garbled : Problem) (hgarbled : garbled.Plain) {value : Value} {problem : Problem}
    (h : Check.spelling? garbled value = some (.error problem)) : problem.Plain := by
  unfold Check.spelling? at h
  split at h
  · split at h
    · obtain rfl := Except.error.inj (Option.some.inj h)
      trivial
    · cases h
  · split at h
    · cases h
    · obtain rfl := Except.error.inj (Option.some.inj h)
      exact hgarbled
  · cases h

theorem checksPlainly_language : ChecksPlainly Check.language := by
  have hrefused : (Problem.choice (Language.all.map Language.tag)).Plain := by
    intro option hoption
    obtain ⟨language, -, rfl⟩ := List.mem_map.mp hoption
    cases language <;> rfl
  intro value problem h
  unfold Check.language at h
  dsimp only at h
  split at h
  · rename_i spelled hspelled
    cases spelled with
    | error problem' =>
      obtain rfl := Except.error.inj h
      exact plain_spelling _ hrefused hspelled
    | ok t =>
      -- the match on the tag, as an eliminator that can be rewritten in
      change (Language.withTag? t).elim _ _ = _ at h
      cases hlanguage : Language.withTag? t with
      | none =>
        rw [hlanguage] at h
        obtain rfl := Except.error.inj h
        exact hrefused
      | some language =>
        rw [hlanguage] at h
        cases h
  · obtain rfl := Except.error.inj h
    exact hrefused

theorem plain_numeral {t : Text} {problem : Problem} (h : Check.numeral t = .error problem) : problem.Plain := by
  unfold Check.numeral at h
  dsimp only at h
  split at h
  · obtain rfl := Except.error.inj h
    trivial
  · split at h
    · obtain rfl := Except.error.inj h
      trivial
    · cases h

theorem checksPlainly_integer : ChecksPlainly Check.integer := by
  intro value problem h
  unfold Check.integer at h
  split at h
  · cases h
  · cases h
  · -- a number with a fraction
    split at h
    · obtain rfl := Except.error.inj h
      trivial
    · split at h
      · split at h
        · cases h
        · obtain rfl := Except.error.inj h
          trivial
      · obtain rfl := Except.error.inj h
        trivial
  · split at h
    · rename_i spelled hspelled
      cases spelled with
      | error problem' =>
        obtain rfl := Except.error.inj h
        exact plain_spelling .notInteger trivial hspelled
      | ok t => exact plain_numeral h
    · obtain rfl := Except.error.inj h
      trivial

/-- The words for all issues can be sent. -/
def IssuesPlainly {α : Type} (checked : Checked α) : Prop :=
  ∀ issues, checked = .error issues → ∀ issue ∈ issues, issue.Plain

theorem issuesPlainly_required {α : Type} (record : Record) (name : Text) (hname : name.hasSurrogate = false)
    {check : Check α} (hcheck : ChecksPlainly check) : IssuesPlainly (record.required name check) := by
  have hone : ∀ (problem : Problem) {issues : List Issue}, problem.Plain → [⟨[name], problem⟩] = issues →
      ∀ issue ∈ issues, issue.Plain := by
    rintro problem issues hproblem rfl issue hissue
    obtain rfl := List.mem_singleton.mp hissue
    refine ⟨?_, hproblem⟩
    intro part hpart
    rw [List.mem_singleton.mp hpart, hname]
  intro issues h
  unfold Record.required at h
  split at h
  · exact hone .missing trivial (Except.error.inj h)
  · split at h
    · cases h
    · rename_i problem hproblem
      exact hone problem (hcheck _ _ hproblem) (Except.error.inj h)

theorem issuesPlainly_optional {α : Type} (record : Record) (name : Text) (hname : name.hasSurrogate = false)
    {check : Check α} (hcheck : ChecksPlainly check) (default : α) :
    IssuesPlainly (record.optional name check default) := by
  unfold Record.optional
  split
  · rintro issues ⟨⟩
  · exact issuesPlainly_required record name hname hcheck

theorem IssuesPlainly.both {α β : Type} {first : Checked α} {second : Checked β} (hfirst : IssuesPlainly first)
    (hsecond : IssuesPlainly second) : IssuesPlainly (first.both second) := by
  intro issues h
  cases first with
  | ok a =>
    cases second with
    | ok b => cases h
    | error more =>
      obtain rfl := Except.error.inj h
      exact hsecond more rfl
  | error found =>
    cases second with
    | ok b =>
      obtain rfl := Except.error.inj h
      exact hfirst found rfl
    | error more =>
      obtain rfl := Except.error.inj h
      exact List.forall_mem_append.mpr ⟨hfirst found rfl, hsecond more rfl⟩

theorem issuesPlainly_checkDocument (record : Record) : IssuesPlainly (checkDocument record) := by
  have hboth := (issuesPlainly_required record "source" rfl checksPlainly_text).both
    (issuesPlainly_optional record "language" rfl checksPlainly_language .json)
  intro issues h
  unfold checkDocument at h
  cases hfields : (record.required "source" Check.text).both (record.optional "language" Check.language .json) with
  | ok fields =>
    rw [hfields] at h
    cases h
  | error found =>
    rw [hfields] at h
    obtain rfl := Except.error.inj h
    exact hboth found hfields

theorem issuesPlainly_checkIndent (record : Record) : IssuesPlainly (checkIndent record) := by
  intro issues h
  unfold checkIndent at h
  split at h
  · cases h
  · cases h
  · split at h
    · cases h
    · rename_i problem hproblem
      obtain rfl := Except.error.inj h
      have hpaths : ∀ name ∈ [("indent" : Text), "int"], Text.hasSurrogate name = false := by decide
      have hpaths' : ∀ name ∈ [("indent" : Text), "str"], Text.hasSurrogate name = false := by decide
      exact List.forall_mem_cons.mpr ⟨⟨hpaths, checksPlainly_integer _ _ hproblem⟩,
        List.forall_mem_cons.mpr ⟨⟨hpaths', trivial⟩, List.forall_mem_nil _⟩⟩

/-! ## Bodies -/

/-- The check of a body: only an object has fields that can be checked. -/
def checkBody {α : Type} (check : Record → Checked α) (body : Json) : Checked α :=
  match body with
  | .obj _ => check (Record.ofJson body)
  | _ => .error [⟨[], .recordKind⟩]

/-- The check of the fields that formatting needs. -/
def checkFormat (record : Record) : Checked (Document × Value) :=
  (checkDocument record).both (checkIndent record)

theorem issuesPlainly_checkFormat (record : Record) : IssuesPlainly (checkFormat record) :=
  (issuesPlainly_checkDocument record).both (issuesPlainly_checkIndent record)

theorem issuesPlainly_checkBody {α : Type} {check : Record → Checked α} (h : ∀ record, IssuesPlainly (check record))
    (body : Json) : IssuesPlainly (checkBody check body) := by
  unfold checkBody
  split
  · exact h _
  · intro issues hissues
    obtain rfl := Except.error.inj hissues
    exact List.forall_mem_singleton.mpr ⟨List.forall_mem_nil _, trivial⟩

/-- The response for the issues of a body lists them, if what they are about can be sent. -/
def refusal (body : Json) (issues : List Issue) : Response :=
  if ∀ issue ∈ issues, (inputOf body issue).isPortable = true then
    ⟨422, .json (.obj [("detail", .arr (issues.map fun issue => issueJson "body" (inputOf body issue) issue))])⟩
  else .internalError

theorem withPayload_eq {α : Type} {message : Message} {body : Json} (hbody : readBody message = .ok body)
    {check : Record → Checked α} (hcheck : ∀ record, IssuesPlainly (check record)) (answer : α → Response) :
    withPayload message check answer = match checkBody check body with
      | .ok payload => answer payload
      | .error issues => refusal body issues := by
  have hplain := issuesPlainly_checkBody hcheck body
  unfold withPayload
  rw [hbody]
  show (match checkBody check body with
    | .ok payload => answer payload
    | .error issues => refuse "body" (inputOf body) issues) = _
  cases hchecked : checkBody check body with
  | ok payload => rfl
  | error issues => exact refuse_eq (hplain issues hchecked) (inputOf body)

/-! ## Answers -/

/-- An option that passes the check is a number or a text. -/
theorem checkIndent_ok {record : Record} {option : Value} (h : checkIndent record = .ok option) :
    (∃ n, option = .int n) ∨ ∃ t, option = .str t := by
  unfold checkIndent at h
  split at h
  · exact Or.inl ⟨2, (Except.ok.inj h).symm⟩
  · exact Or.inr ⟨_, (Except.ok.inj h).symm⟩
  · split at h
    · exact Or.inl ⟨_, (Except.ok.inj h).symm⟩
    · cases h

theorem checkFormat_ok {body : Json} {document : Document} {option : Value}
    (h : checkBody checkFormat body = .ok (document, option)) : (∃ n, option = .int n) ∨ ∃ t, option = .str t := by
  unfold checkBody at h
  split at h
  · obtain ⟨-, hindent⟩ := Checked.both_eq_ok_iff.mp h
    exact checkIndent_ok hindent
  · cases h

theorem isPortable_optionalText {message : Option Text} (h : ∀ t, message = some t → t.hasSurrogate = false) :
    (optionalText message).isPortable = true := by
  cases message with
  | none => rfl
  | some t => simp [optionalText, Json.isPortable, h t rfl]

/-- The message can be sent in any case, so the text decides whether the outcome can be. -/
theorem isPortable_formattedJson (memory : Memory) (language : Language) (width : Nat) (source : Text) :
    (formattedJson (Engine.format memory language width source)).isPortable =
      !(Engine.format memory language width source).text.hasSurrogate := by
  have hmessage : (optionalText (Engine.format memory language width source).error).isPortable = true :=
    isPortable_optionalText fun _ => Engine.hasSurrogate_of_format
  simp [formattedJson, Json.isPortable, Json.haveNames, hmessage]

theorem isPortable_verdictJson (language : Language) (source : Text) :
    (verdictJson (Engine.validate language source)).isPortable = true := by
  have hmessage : (optionalText (Engine.validate language source).error).isPortable = true :=
    isPortable_optionalText fun _ => Engine.hasSurrogate_of_format
  simp [verdictJson, Json.isPortable, Json.haveNames, hmessage]

theorem formatAnswer_eq (memory : Memory) (document : Document) {option : Value}
    (h : (∃ n, option = .int n) ∨ ∃ t, option = .str t) :
    formatAnswer memory document option = match Indent.resolve option (.int Indent.defaultTabWidth) with
      | .error fault => ⟨400, .json (.obj [("detail", .str fault.message)])⟩
      | .ok width =>
        let formatted := Engine.format memory document.language width document.source
        if formatted.text.hasSurrogate then .internalError else ⟨200, .json (formattedJson formatted)⟩ := by
  unfold formatAnswer
  cases hresolve : Indent.resolve option (.int Indent.defaultTabWidth) with
  | error fault =>
    have hmessage := Indent.hasSurrogate_of_resolve h hresolve
    have hportable : Json.isPortable (.obj [("detail", .str fault.message)]) = true := by
      simp [Json.isPortable, Json.haveNames, hmessage]
    exact if_pos hportable
  | ok width =>
    dsimp only
    rw [Response.json, isPortable_formattedJson]
    cases (Engine.format memory document.language width document.source).text.hasSurrogate <;> rfl

theorem minifyAnswer_eq (document : Document) : minifyAnswer document =
    let text := Engine.minify document.language true document.source
    if text.hasSurrogate then .internalError else ⟨200, .json (.obj [("minified", .str text)])⟩ := by
  unfold minifyAnswer
  generalize Engine.minify document.language true document.source = text
  have hportable : Json.isPortable (.obj [("minified", .str text)]) = !text.hasSurrogate := by
    simp [Json.isPortable, Json.haveNames]
  dsimp only
  rw [Response.json, hportable]
  cases text.hasSurrogate <;> rfl

/-! ## Responses -/

theorem respond_eq {memory : Memory} {message : Message} (hverb : message.verb = "POST") {resource : Resource}
    (hpath : Resource.ofPath? Resource.maxRetries message.path = some resource) (hmethod : resource.method = "POST") :
    respond memory message = answer memory message resource := by
  have hhead : ¬ message.verb = ("HEAD" : Text) := by
    rw [hverb]
    decide
  unfold respond
  rw [hpath, if_neg hhead]
  dsimp only
  rw [if_pos (hverb.trans hmethod.symm)]

/-- What comes of a document that a JSON body describes. Fields that are refused give the issues with them, an option
for the indentation that gives no width gives the message on it, and anything else gives what the engine gives. Where
an issue or the engine shows a text that cannot be sent, the response is an internal error; the message on a fault
never is such a text, and so a verdict is always sent. -/
theorem respond_document (memory : Memory) (message : Message) (body : Json) (hverb : message.verb = "POST")
    (hbody : readBody message = .ok body) :
    (Resource.ofPath? Resource.maxRetries message.path = some .format →
      respond memory message = match checkBody checkFormat body with
        | .error issues => refusal body issues
        | .ok (document, option) =>
          match Indent.resolve option (.int Indent.defaultTabWidth) with
          | .error fault => ⟨400, .json (.obj [("detail", .str fault.message)])⟩
          | .ok width =>
            let formatted := Engine.format memory document.language width document.source
            if formatted.text.hasSurrogate then .internalError
            else ⟨200, .json (.obj [("formatted_text", .str formatted.text), ("is_valid", .bool formatted.isValid),
              ("error_message", optionalText formatted.error)])⟩) ∧
    (Resource.ofPath? Resource.maxRetries message.path = some .validate →
      respond memory message = match checkBody checkDocument body with
        | .error issues => refusal body issues
        | .ok document =>
          let verdict := Engine.validate document.language document.source
          ⟨200, .json (.obj [("is_valid", .bool verdict.isValid), ("error_message", optionalText verdict.error)])⟩) ∧
    (Resource.ofPath? Resource.maxRetries message.path = some .minify →
      respond memory message = match checkBody checkDocument body with
        | .error issues => refusal body issues
        | .ok document =>
          let text := Engine.minify document.language true document.source
          if text.hasSurrogate then .internalError else ⟨200, .json (.obj [("minified", .str text)])⟩) := by
  refine ⟨?_, ?_, ?_⟩
  · intro hpath
    rw [respond_eq hverb hpath rfl]
    refine (withPayload_eq hbody issuesPlainly_checkFormat _).trans ?_
    cases hchecked : checkBody checkFormat body with
    | error issues => rfl
    | ok payload => exact formatAnswer_eq memory payload.1 (checkFormat_ok hchecked)
  · intro hpath
    rw [respond_eq hverb hpath rfl]
    refine (withPayload_eq hbody issuesPlainly_checkDocument _).trans ?_
    cases checkBody checkDocument body with
    | error issues => rfl
    | ok document => exact if_pos (isPortable_verdictJson document.language document.source)
  · intro hpath
    rw [respond_eq hverb hpath rfl]
    refine (withPayload_eq hbody issuesPlainly_checkDocument _).trans ?_
    cases checkBody checkDocument body with
    | error issues => rfl
    | ok document => exact minifyAnswer_eq document

/-- A request to format a JSON document. -/
def requestFor (source : Text) : Message where
  method := "POST"
  target := "/api/v1/format"
  contentType := "application/json"
  body := (Text.toUtf8? (Json.obj [("source", .str source)]).compact).getD []

theorem readBody_requestFor (source : Text) (hbody : (requestFor source).body ≠ [])
    (htext : Json.textOf? (requestFor source).body = some (Json.obj [("source", .str source)]).compact) :
    readBody (requestFor source) = .ok (.obj [("source", .str source)]) := by
  have hwritable : Json.Writable Json.nestingLimit (.obj [("source", .str source)]) :=
    .obj (by simp) (List.forall_mem_singleton.mpr .str)
  have hread := Json.readDocument_of_denotes .relaxed (Json.denotes_compact hwritable)
  have hjson : (requestFor source).isJson = true := (by decide +kernel : (requestFor []).isJson = true)
  have hempty : (requestFor source).body.isEmpty = false := by simpa using hbody
  unfold readBody
  rw [hempty, if_neg Bool.false_ne_true, hjson, Bool.not_true, if_neg Bool.false_ne_true, htext]
  dsimp only [Option.elim, bind, Except.bind]
  rw [hread]

/-- A blank document is valid, and its text is empty. -/
theorem respond_blank : respond .process (requestFor " ") =
    ⟨200, .json (.obj [("formatted_text", .str []), ("is_valid", .bool true), ("error_message", .null)])⟩ := by
  have hbody := readBody_requestFor " " (by decide +kernel) (by decide +kernel)
  have hpath : Resource.ofPath? Resource.maxRetries (requestFor " ").path = some .format := by decide +kernel
  exact (respond_document .process (requestFor " ") _ (by decide) hbody).1 hpath

/-- A JSON string that is one escaped half of a surrogate pair is a document, but what the engine gives for it cannot be
sent. -/
theorem respond_halfPair :
    readBody (requestFor "\"\\ud800\"") = .ok (.obj [("source", .str "\"\\ud800\"")]) ∧
      checkBody checkFormat (.obj [("source", .str "\"\\ud800\"")]) = .ok (⟨"\"\\ud800\"", .json⟩, .int 2) ∧
      Indent.resolve (.int 2) (.int Indent.defaultTabWidth) = .ok 2 ∧
      Engine.format .process .json 2 "\"\\ud800\"" = ⟨[char '"', .surrogate 0, char '"'], none⟩ ∧
      respond .process (requestFor "\"\\ud800\"") = .internalError := by
  have hbody := readBody_requestFor "\"\\ud800\"" (by decide +kernel) (by decide +kernel)
  have hpath : Resource.ofPath? Resource.maxRetries (requestFor "\"\\ud800\"").path = some .format := by decide +kernel
  have hchecked : checkBody checkFormat (.obj [("source", .str "\"\\ud800\"")]) =
      .ok (⟨"\"\\ud800\"", .json⟩, .int 2) := rfl
  have hformat : Engine.format .process .json 2 "\"\\ud800\"" = ⟨[char '"', .surrogate 0, char '"'], none⟩ := by
    have hparse := (Json.parse_eq_ok_iff _ _).mpr Cli.denotes_halfPair
    refine Engine.format_ok (by decide) ?_
    simp only [Engine.formatDocument, hparse]
    rfl
  refine ⟨hbody, hchecked, rfl, hformat, ?_⟩
  rw [respond_eq (by decide) hpath rfl]
  refine (withPayload_eq hbody issuesPlainly_checkFormat _).trans ?_
  rw [hchecked]
  refine (formatAnswer_eq .process _ (Or.inl ⟨2, rfl⟩)).trans ?_
  show (if (Engine.format .process .json 2 _).text.hasSurrogate = true then _ else _) = _
  rw [hformat]
  rfl

end Http

end Tidy
