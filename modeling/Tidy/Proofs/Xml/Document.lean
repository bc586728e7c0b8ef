/-
# Tidy.Proofs.Xml.Document -- whole documents in reflowed text

A document is read token by token up to its root element, then the root element, then what trails it. Each reading goes
on in the reflowed text, and where white space is new there it is a token of its own that changes nothing: but before
the first token, where an XML declaration may have nothing in front of it.
-/

import Tidy.Proofs.Xml.Prolog

namespace Tidy.Xml

open CodePoint (char)
open Markup (Reflowed)

variable {white : CodePoint → Bool}

/-! ## The XML declaration -/

theorem scanName_eq_found {s name rest : Text} (h : scanName s = .found name rest) : s = name ++ rest := by
  cases s with
  | nil => cases h
  | cons c s =>
    rw [scanName] at h
    split at h
    · cases h
      exact (congrArg (c :: ·) (@List.takeWhile_append_dropWhile _ isNameChar s)).symm
    · cases h

theorem eq_of_instructionKind {target : Text} (h : instructionKind? target = some .declaration) : target = "xml" := by
  unfold instructionKind? at h
  split at h
  · assumption
  · split at h
    · split at h <;> cases h
    · cases h

/-- A declaration after its `<?`: the word `xml`, and what ends with the closing mark. -/
theorem scanInstruction_declaration {s after : Text} (h : scanInstruction s = .found .declaration after) :
    ∃ rest, s = "xml" ++ rest ∧ scanInstructionBody rest = .found () after := by
  unfold scanInstruction at h
  obtain ⟨target, rest, hname, hrest⟩ := Scan.bind_eq_found.mp h
  obtain rfl := scanName_eq_found hname
  cases rest with
  | nil => cases hrest
  | cons c more =>
    dsimp only at hrest
    split at hrest
    · -- white space behind the target, which the body may as well begin with
      rename_i hspace
      split at hrest
      · cases hrest
      · rename_i kind hkind
        obtain ⟨_, hbody, rfl⟩ := Scan.map_eq_found.mp hrest
        rw [eq_of_instructionKind hkind]
        exact ⟨_, rfl, by rw [scanInstructionBody_space hspace, hbody]⟩
    split at hrest
    · -- the closing mark right behind the target
      rename_i hmark
      subst hmark
      split at hrest
      · cases hrest
      · rename_i kind hkind
        cases more with
        | nil => cases hrest
        | cons d more =>
          dsimp only at hrest
          split at hrest
          · rename_i hd
            subst hd
            cases hrest
            rw [eq_of_instructionKind hkind]
            exact ⟨_, rfl, rfl⟩
          · cases hrest
    · cases hrest

theorem scanLiteral_ne_declaration (quote : CodePoint) (s after : Text) :
    scanLiteral quote s ≠ .found .declaration after := by
  unfold scanLiteral
  grind

theorem scanPercent_ne_declaration (s after : Text) : scanPercent s ≠ .found .declaration after := by
  cases s with
  | nil => rintro ⟨⟩
  | cons c s =>
    rw [scanPercent]
    unfold Scan.bind
    grind

theorem scanPoundName_ne_declaration (s after : Text) : scanPoundName s ≠ .found .declaration after := by
  unfold scanPoundName Scan.bind
  grind

theorem scanDeclaration_ne_declaration (s after : Text) : scanDeclaration s ≠ .found .declaration after := by
  cases s with
  | nil => rintro ⟨⟩
  | cons c s =>
    rw [scanDeclaration]
    unfold Scan.map Scan.bind
    grind

theorem scanNameRow_ne_declaration (shape : NameShape) (seen s after : Text) :
    scanNameRow shape seen s ≠ .found .declaration after := by
  have hname : ∀ (shape : NameShape) (t : Text), shape.toToken t ≠ .declaration := by
    intro shape t
    cases shape <;> rintro ⟨⟩
  fun_induction scanNameRow shape seen s with
  | _ => grind

theorem closeBracket_ne_declaration (s after : Text) : scanProlog (char ']') s ≠ .found .declaration after := by
  cases s with
  | nil => rintro ⟨⟩
  | cons d more =>
    by_cases hd : d = char ']'
    · subst hd
      cases more with
      | nil => rintro ⟨⟩
      | cons e more =>
        rw [scanProlog_brackets]
        split <;> rintro ⟨⟩
    · rw [scanProlog_bracket hd]
      rintro ⟨⟩

theorem closeParen_ne_declaration (s after : Text) : scanProlog (char ')') s ≠ .found .declaration after := by
  cases s with
  | nil => rintro ⟨⟩
  | cons d more =>
    rw [scanProlog_paren]
    split
    · rintro ⟨⟩
    · split <;> rintro ⟨⟩

/-- Only `<?xml` begins a declaration. -/
theorem scanProlog_declaration {c : CodePoint} {s after : Text} (h : scanProlog c s = .found .declaration after) :
    ∃ rest, c :: s = "<?xml" ++ rest ∧ scanInstructionBody rest = .found () after := by
  by_cases htag : c = char '<'
  · subst htag
    cases s with
    | nil => cases h
    | cons d more =>
      rw [scanProlog_tag] at h
      split at h
      · exact absurd h (scanDeclaration_ne_declaration more after)
      split at h
      · rename_i hmark
        subst hmark
        obtain ⟨kind, hfound, hkind⟩ := Scan.map_eq_found.mp h
        cases kind with
        | ordinary => cases hkind
        | declaration =>
          obtain ⟨rest, rfl, hbody⟩ := scanInstruction_declaration hfound
          exact ⟨rest, rfl, hbody⟩
      · split at h <;> cases h
  · -- only a tag can be a declaration: every scanner of the other code points gives other tokens
    exfalso
    have hscanner := scanner_scanProlog htag
    generalize scanProlog c = scan at h hscanner
    cases hscanner with
    | literal => exact scanLiteral_ne_declaration c s after h
    | space => cases h
    | percent => exact scanPercent_ne_declaration s after h
    | mark token hmark =>
      cases h
      simp [marks] at hmark
    | closeBracket => exact closeBracket_ne_declaration s after h
    | closeParen => exact closeParen_ne_declaration s after h
    | poundName => exact scanPoundName_ne_declaration s after h
    | nameRow shape => exact scanNameRow_ne_declaration shape _ s after h
    | none => cases h

theorem skipSpace_gap (n : Nat) (t : Text) : skipSpace (Text.spaces n ++ char '<' :: t) = char '<' :: t := by
  induction n with
  | zero => rfl
  | succ n ih => exact ih

theorem scanProlog_gap (n : Nat) (t : Text) :
    scanProlog CodePoint.newline (Text.spaces n ++ char '<' :: t) = .found .space (char '<' :: t) := by
  rw [scanProlog_space rfl, skipSpace_gap]

namespace Prolog

variable {p p' : Prolog}

theorem takeDeclaration_eq (p : Prolog) (inside rest : Text) :
    p.takeDeclaration ("<?xml" ++ (inside ++ char '?' :: char '>' :: rest)) rest =
      match readDeclaration inside with
      | .error left => .error (.malformed .badDeclaration
          (("<?xml" ++ (inside ++ char '?' :: char '>' :: rest)).drop (5 + (inside.length - left.length))))
      | .ok standalone => goOn { p with dtd := { p.dtd with standalone } } .beforeDoctype := by
  have hinside : ((("<?xml" ++ (inside ++ char '?' :: char '>' :: rest) : Text).drop 5).take
      (("<?xml" ++ (inside ++ char '?' :: char '>' :: rest) : Text).length - rest.length - 7)) = inside := by
    have hlength : ("<?xml" ++ (inside ++ char '?' :: char '>' :: rest) : Text).length - rest.length - 7 =
        inside.length := by
      simp only [List.length_append, List.length_cons]
      show 5 + (inside.length + (rest.length + 1 + 1)) - rest.length - 7 = inside.length
      omega
    rw [hlength]
    exact List.take_left
  cases hread : readDeclaration inside with
  | error left => simp only [takeDeclaration, hinside, hread]
  | ok standalone => simp only [takeDeclaration, hinside, hread]

theorem isWord_declaration : IsWord "?xml" := by
  decide

theorem takeDeclaration_follows (hw : White white) (h : PrologFollows white p p') {c c' : CodePoint}
    {s t after after' : Text} (hreflow : Reflowed white (c :: s) (c' :: t))
    (hfound : scanProlog c s = .found .declaration after) (hfound' : scanProlog c' t = .found .declaration after') :
    Carried white (p.takeDeclaration (c :: s) after) (p'.takeDeclaration (c' :: t) after') := by
  obtain ⟨rest, hs, hbody⟩ := scanProlog_declaration hfound
  obtain ⟨rest', ht, hbody'⟩ := scanProlog_declaration hfound'
  rw [hs, ht] at hreflow ⊢
  obtain ⟨_, hs', hinner⟩ := hreflow.head_right (by decide)
  obtain rfl := (List.cons.inj hs').2
  obtain ⟨_, ht', hrest⟩ := hw.word isWord_declaration hinner
  obtain rfl := List.append_cancel_left ht'
  obtain ⟨inside, inside', r', rfl, rfl, hinside, -, hagain⟩ := exists_instruction hw hrest hbody
  obtain rfl : after' = r' := by
    rw [hbody'] at hagain
    exact (Scan.found.inj hagain).2
  rw [takeDeclaration_eq, takeDeclaration_eq]
  cases hread : readDeclaration inside with
  | error left => exact .error _ _
  | ok standalone =>
    rw [readDeclaration_follows hw hinside hread]
    refine .goOn ?_ (by decide)
    exact { h with dtd := { h.dtd with standalone := rfl } }

/-! ## Reading -/

/-- The points of a prolog where the root element may begin. -/
def beforeRoot : List Expect := [.start, .beforeDoctype, .afterDoctype]

variable {c : CodePoint} {rest after : Text} {token : PrologToken} {limit : Nat}

theorem read_root (hfound : scanProlog c rest = .found .elementStart after) (hexpect : p.expect ∈ beforeRoot) :
    p.read (limit + 1) (c :: rest) = .ok (p.dtd, c :: rest) := by
  rw [read, hfound]
  simp only [beforeRoot, List.mem_cons, List.not_mem_nil, or_false] at hexpect
  rcases hexpect with hexpect | hexpect | hexpect <;> rw [hexpect]

theorem read_declaration (hfound : scanProlog c rest = .found .declaration after) (hexpect : p.expect = .start) :
    p.read (limit + 1) (c :: rest) = (p.takeDeclaration (c :: rest) after).bind fun q => q.read limit after := by
  rw [read, hfound, hexpect]
  rfl

theorem read_step (hfound : scanProlog c rest = .found token after)
    (hroot : ¬ (token = .elementStart ∧ p.expect ∈ beforeRoot))
    (hdeclaration : ¬ (token = .declaration ∧ p.expect = .start)) :
    p.read (limit + 1) (c :: rest) = (p.step (c :: rest) token).bind fun q => q.read limit after := by
  rw [read, hfound]
  dsimp only
  split
  · rename_i hexpect
    exact absurd ⟨rfl, by rw [hexpect]; decide⟩ hroot
  · rename_i hexpect
    exact absurd ⟨rfl, by rw [hexpect]; decide⟩ hroot
  · rename_i hexpect
    exact absurd ⟨rfl, by rw [hexpect]; decide⟩ hroot
  · rename_i hexpect
    exact absurd ⟨rfl, hexpect⟩ hdeclaration
  · rfl

theorem read_eq_found {s root : Text} {dtd : Dtd} (h : p.read limit s = .ok (dtd, root)) :
    ∃ c rest token after n, s = c :: rest ∧ limit = n + 1 ∧ scanProlog c rest = .found token after := by
  cases limit with
  | zero => cases h
  | succ n =>
    cases s with
    | nil => cases h
    | cons c rest =>
      cases hfound : scanProlog c rest with
      | found token after => exact ⟨c, rest, token, after, n, rfl, rfl, hfound⟩
      | invalid => rw [read, hfound] at h; cases h
      | cut => rw [read, hfound] at h; cases h

/-- The start of an element has no other place in a prolog. -/
theorem step_elementStart (p : Prolog) (place : Text) :
    p.step place .elementStart = .error (.malformed .syntaxError place) := by
  unfold step
  cases p.expect <;> rfl

/-- No root element is accepted where no document goes on. -/
theorem checkRoot_of_doomed {s root r : Text} {dtd : Dtd} (hdoomed : Doomed s)
    (hread : p.read limit s = .ok (dtd, root)) : checkRoot dtd root ≠ .ok r := by
  obtain ⟨c, rest, token, after, n, rfl, rfl, hfound⟩ := read_eq_found hread
  obtain ⟨_, _, heq, hdoomed⟩ := hdoomed
  obtain ⟨rfl, rfl⟩ := List.cons.inj heq
  obtain ⟨rfl, hpiece⟩ := hdoomed token after hfound
  by_cases hexpect : p.expect ∈ beforeRoot
  · rw [read_root hfound hexpect] at hread
    cases hread
    intro hroot
    unfold checkRoot at hroot
    obtain ⟨⟨piece, left⟩, hok, -⟩ := bind_eq_ok hroot
    exact hpiece piece left hok
  · rw [read_step hfound (fun h => hexpect h.2) (by rintro ⟨⟨⟩, -⟩), step_elementStart] at hread
    cases hread

/-- Behind any other token the reading goes on. -/
theorem exists_read (hfound : scanProlog c rest = .found token after) (helement : token ≠ .elementStart) :
    ∃ x : Except Fault Prolog, p.read (limit + 1) (c :: rest) = x.bind fun q => q.read limit after := by
  by_cases hdeclaration : token = .declaration ∧ p.expect = .start
  · obtain ⟨rfl, hexpect⟩ := hdeclaration
    exact ⟨_, read_declaration hfound hexpect⟩
  · exact ⟨_, read_step hfound (fun hboth => helement hboth.1) hdeclaration⟩

/-- White space before a tag changes nothing, but at the start. -/
theorem read_gap (hexpect : p.expect ≠ .start) (n : Nat) (t : Text) :
    p.read (limit + 1) (CodePoint.newline :: (Text.spaces n ++ char '<' :: t)) = p.read limit (char '<' :: t) := by
  rw [read_step (scanProlog_gap n t) (by rintro ⟨⟨⟩, -⟩) (by rintro ⟨⟨⟩, -⟩)]
  have hstep : p.step (CodePoint.newline :: (Text.spaces n ++ char '<' :: t)) .space = .ok p := if_neg hexpect
  rw [hstep]
  rfl

theorem prologFollows_start : PrologFollows white {} {} where
  expect := rfl
  dtd := ⟨.nil, .nil, rfl, rfl, rfl, rfl⟩
  entity := rfl
  element := rfl
  attributeName := rfl
  verbatim := rfl
  identifies := rfl
  groups := rfl

/-- Nor is one accepted where no document goes on behind a token. -/
theorem checkRoot_of_doomed_behind {root r : Text} {dtd : Dtd} (hfound : scanProlog c rest = .found token after)
    (helement : token ≠ .elementStart) (hdoomed : Doomed after)
    (hread : p.read (limit + 1) (c :: rest) = .ok (dtd, root)) : checkRoot dtd root ≠ .ok r := by
  obtain ⟨x, hx⟩ := exists_read hfound helement
  rw [hx] at hread
  obtain ⟨q, -, hread⟩ := bind_eq_ok hread
  exact checkRoot_of_doomed hdoomed hread

/-- One turn: related tokens take related prologs on in related ways, or both start the root element. -/
theorem read_token_follows (hw : White white) (hp : PrologFollows white p p') {limit limit' : Nat}
    {c' : CodePoint} {rest' after' root : Text} {token' : PrologToken} {dtd : Dtd}
    (h : Reflowed white (c :: rest) (c' :: rest')) (hfound : scanProlog c rest = .found token after)
    (hfound' : scanProlog c' rest' = .found token' after') (htoken : TokenFollows white token token')
    (hgoOn : token' ≠ .elementStart → ∀ x x' : Except Fault Prolog, Carried white x x' →
      (x.bind fun q => q.read limit after) = .ok (dtd, root) →
      ∃ dtd' root', (x'.bind fun q => q.read limit' after') = .ok (dtd', root') ∧ DtdFollows white dtd dtd' ∧
        Reflowed white root root')
    (hread : p.read (limit + 1) (c :: rest) = .ok (dtd, root)) :
    ∃ dtd' root', p'.read (limit' + 1) (c' :: rest') = .ok (dtd', root') ∧ DtdFollows white dtd dtd' ∧
      Reflowed white root root' := by
  by_cases helement : token = .elementStart
  · subst helement
    obtain rfl := htoken.eq_of_not_literal (by rintro _ ⟨⟩)
    by_cases hexpect : p.expect ∈ beforeRoot
    · rw [read_root hfound hexpect] at hread
      cases hread
      exact ⟨p'.dtd, c' :: rest', read_root hfound' (hp.expect ▸ hexpect), hp.dtd, h⟩
    · rw [read_step hfound (fun hboth => hexpect hboth.2) (by rintro ⟨⟨⟩, -⟩), step_elementStart] at hread
      cases hread
  have helement' : token' ≠ .elementStart := by
    cases htoken with
    | same => exact helement
    | literal => rintro ⟨⟩
  -- a declaration counts as one at the start only, where both prologs are or neither is
  by_cases hdeclaration : token = .declaration ∧ p.expect = .start
  · obtain ⟨rfl, hexpect⟩ := hdeclaration
    obtain rfl := htoken.eq_of_not_literal (by rintro _ ⟨⟩)
    rw [read_declaration hfound hexpect] at hread
    rw [read_declaration hfound' (hp.expect ▸ hexpect)]
    exact hgoOn helement' _ _ (takeDeclaration_follows hw hp h hfound hfound') hread
  · have hdeclaration' : ¬ (token' = .declaration ∧ p'.expect = .start) := by
      cases htoken with
      | same => exact hp.expect ▸ hdeclaration
      | literal => rintro ⟨⟨⟩, -⟩
    rw [read_step hfound (fun hboth => helement hboth.1) hdeclaration] at hread
    rw [read_step hfound' (fun hboth => helement' hboth.1) hdeclaration']
    exact hgoOn helement' _ _ (step_follows hp _ _ hw htoken) hread

/-- A prolog before a root element that is accepted is read in the reflowed text. -/
theorem read_follows (hw : White white) {limit limit' : Nat} {s t root r : Text} {dtd : Dtd}
    (hp : PrologFollows white p p') (h : Reflowed white s t)
    (hstart : p.expect = .start → s.head? = some (char '<') → t.head? = some (char '<')) (hlimit : t.length < limit')
    (hread : p.read limit s = .ok (dtd, root)) (hroot : checkRoot dtd root = .ok r) :
    ∃ dtd' root', p'.read limit' t = .ok (dtd', root') ∧ DtdFollows white dtd dtd' ∧ Reflowed white root root' := by
  -- every turn takes a token of the reflowed text, but not always one of the first text
  induction limit' generalizing limit p p' s t with
  | zero => exact absurd hlimit (Nat.not_lt_zero _)
  | succ limit' ih =>
    obtain ⟨c, rest, token, after, limit, rfl, rfl, hfound⟩ := read_eq_found hread
    rcases scanProlog_cases hw h hfound with
      (hdoomed | ⟨helement, hdoomed⟩) | ⟨c', t', token', after', rfl, hfound', htoken, hafter⟩ |
        ⟨n, t', rfl, rfl, hreflow⟩
    · exact absurd hroot (checkRoot_of_doomed hdoomed hread)
    · exact absurd hroot (checkRoot_of_doomed_behind hfound helement hdoomed hread)
    · refine read_token_follows hw hp h hfound hfound' htoken ?_ hread
      intro helement' x x' hx hread
      have hlength := (scanProlog_within hfound' helement').length_le
      rw [List.length_cons] at hlimit
      obtain ⟨q, hq, hread⟩ := bind_eq_ok hread
      obtain ⟨hne, q', hq', hfollows⟩ := hx q hq
      rw [hq']
      exact ih hfollows hafter (fun heq => absurd heq hne) (by omega) hread
    · -- a line feed and spaces have been put before a tag, which does not happen at the start
      have hexpect : p.expect ≠ .start := by
        intro heq
        cases hstart heq rfl
      rw [read_gap (hp.expect ▸ hexpect)]
      rw [List.length_cons, List.length_append] at hlimit
      exact ih hp hreflow (fun heq => absurd heq hexpect) (by omega) hread

end Prolog

/-! ## What follows the root element -/

/-- May the token stand behind the root element? -/
def PrologToken.trails (token : PrologToken) : Prop :=
  token = .space ∨ token = .comment ∨ token = .instruction

theorem checkEpilog_step {limit : Nat} {c : CodePoint} {rest : Text}
    (h : checkEpilog (limit + 1) (c :: rest) = .ok ()) :
    ∃ token after, scanProlog c rest = .found token after ∧ token.trails ∧
      checkEpilog limit after = .ok () := by
  rw [checkEpilog] at h
  cases hfound : scanProlog c rest with
  | invalid => rw [hfound] at h; cases h
  | cut => rw [hfound] at h; cases h
  | found token after =>
    rw [hfound] at h
    refine ⟨token, after, rfl, ?_⟩
    cases token with
    | space => exact ⟨Or.inl rfl, h⟩
    | comment => exact ⟨Or.inr (Or.inl rfl), h⟩
    | instruction => exact ⟨Or.inr (Or.inr rfl), h⟩
    | _ => cases h

theorem checkEpilog_found {limit : Nat} {c : CodePoint} {rest after : Text} {token : PrologToken}
    (hfound : scanProlog c rest = .found token after) (htoken : token.trails) :
    checkEpilog (limit + 1) (c :: rest) = checkEpilog limit after := by
  rw [checkEpilog, hfound]
  rcases htoken with rfl | rfl | rfl <;> rfl

theorem checkEpilog_of_doomed {limit : Nat} {s : Text} (h : Doomed s) (hlimit : s.length < limit) :
    checkEpilog limit s ≠ .ok () := by
  intro hcheck
  obtain ⟨c, rest, rfl, hdoomed⟩ := h
  obtain ⟨limit, rfl⟩ : ∃ k, limit = k + 1 := ⟨limit - 1, by omega⟩
  obtain ⟨token, after, hfound, htoken, -⟩ := checkEpilog_step hcheck
  obtain ⟨rfl, -⟩ := hdoomed token after hfound
  simp [PrologToken.trails] at htoken

theorem checkEpilog_follows (hw : White white) {limit limit' : Nat} {s t : Text} (h : Reflowed white s t)
    (hlimit : s.length < limit) (hlimit' : t.length < limit') (hcheck : checkEpilog limit s = .ok ()) :
    checkEpilog limit' t = .ok () := by
  induction limit' generalizing limit s t with
  | zero => exact absurd hlimit' (Nat.not_lt_zero _)
  | succ limit' ih =>
    obtain ⟨limit, rfl⟩ : ∃ k, limit = k + 1 := ⟨limit - 1, by omega⟩
    cases s with
    | nil =>
      rw [h.nil_left]
      rfl
    | cons c rest =>
      obtain ⟨token, after, hfound, htoken, hrest⟩ := checkEpilog_step hcheck
      have helement : token ≠ .elementStart := by
        rintro rfl
        simp [PrologToken.trails] at htoken
      have hafter : after.length < limit := by
        have hsuffix := (scanProlog_within hfound helement).length_le
        rw [List.length_cons] at hlimit
        omega
      rcases scanProlog_cases hw h hfound with
        (hdoomed | ⟨-, hdoomed⟩) | ⟨c', t', token', after', rfl, hfound', hsame, hreflow⟩ | ⟨n, t', rfl, rfl, hreflow⟩
      · exact absurd hcheck (checkEpilog_of_doomed hdoomed hlimit)
      · exact absurd hrest (checkEpilog_of_doomed hdoomed hafter)
      · obtain rfl : token' = token := by
          refine hsame.eq_of_not_literal ?_
          rintro body rfl
          simp [PrologToken.trails] at htoken
        rw [checkEpilog_found hfound' htoken]
        have hsuffix := (scanProlog_within hfound' helement).length_le
        rw [List.length_cons] at hlimit'
        exact ih hreflow hafter (by omega) hrest
      · -- the new line break is white space of its own
        rw [checkEpilog_found (scanProlog_gap n t') (Or.inl rfl)]
        rw [List.length_cons, List.length_append] at hlimit'
        exact ih hreflow hlimit (by omega) hcheck

/-! ## Documents -/

/-- A document is still one when it is reflowed, as long as the names of namespaces cannot change. -/
theorem checkDocument_follows (hw : White white) {s t : Text} (h : Reflowed white s t)
    (hhead : s.head? = some (char '<') → t.head? = some (char '<'))
    (hsettled : ∀ dtd root, Prolog.read (s.length + 1) {} s = .ok (dtd, root) → Settled white dtd)
    (hcheck : checkDocument s = .ok ()) : checkDocument t = .ok () := by
  unfold checkDocument at hcheck ⊢
  obtain ⟨⟨dtd, root⟩, hread, hcheck⟩ := bind_eq_ok hcheck
  obtain ⟨rest, hroot, hepilog⟩ := bind_eq_ok hcheck
  obtain ⟨dtd', root', hread', hdtd, hroots⟩ := Prolog.read_follows hw Prolog.prologFollows_start h (fun _ => hhead)
    (Nat.lt_succ_self _) hread hroot
  obtain ⟨rest', hroot', hrest⟩ := checkRoot_follows hw hdtd (hsettled dtd root hread) hroots hroot
  have hepilog' := checkEpilog_follows hw hrest (Nat.lt_succ_self _) (Nat.lt_succ_self _) hepilog
  rw [hread']
  show (checkRoot dtd' root' >>= fun rest => checkEpilog (rest.length + 1) rest) = .ok ()
  rw [hroot']
  exact hepilog'

end Tidy.Xml
