/-
# Tidy.Proofs.Css.Verbatim -- which strings and comments a layout copies

The space around the first colon of a declaration is set in the text of the declaration, and this colon may be one of a
string or a comment. Then the token `Leads` its declaration. All other tokens of a sheet stand in the layout as they
are, in their places (`format_verbatim_iff`).
-/

import Tidy.Proofs.Css.Reformat

namespace Tidy.Css

/-! ## The place of a token -/

/-- The depth of blocks after the tokens. -/
def depthAfter (depth : Nat) : List Token → Nat
  | [] => depth
  | .openBrace :: ts => depthAfter (depth + 1) ts
  | .closeBrace :: ts => depthAfter (depth - 1) ts
  | _ :: ts => depthAfter depth ts

/-- The tokens of the statement that has begun and not ended after the tokens. A comment begins none. -/
def statementAfter (statement : List Token) : List Token → List Token
  | [] => statement
  | .openBrace :: ts => statementAfter [] ts
  | .closeBrace :: ts => statementAfter [] ts
  | .semicolon :: ts => statementAfter [] ts
  | .comment t :: ts =>
    if statement.isEmpty then statementAfter [] ts else statementAfter (statement ++ [.comment t]) ts
  | t :: ts => statementAfter (statement ++ [t]) ts

/-- Whether the tokens end the statement before them with a block, so that it is no declaration. -/
def opensBlock : List Token → Bool
  | [] => false
  | .openBrace :: _ => true
  | .closeBrace :: _ => false
  | .semicolon :: _ => false
  | _ :: ts => opensBlock ts

/-- The token `t` has the first colon or parenthesis of a declaration inside of a block. It stands between `before` and
`after`, and before these tokens there are a depth and the tokens of a statement. -/
def Leads (depth : Nat) (statement before : List Token) (t : Token) (after : List Token) : Prop :=
  depthAfter depth before ≠ 0 ∧ opensBlock after = false ∧ statementAfter statement (before ++ [t]) ≠ [] ∧
    (statementAfter statement before).all (·.text.all isNamePart) = true ∧ t.text.all isNamePart = false

instance (depth : Nat) (statement before : List Token) (t : Token) (after : List Token) :
    Decidable (Leads depth statement before t after) :=
  inferInstanceAs (Decidable (_ ∧ _))

/-- The tokens of a sheet, those that lead a declaration with the space around their first colon set. -/
def settleLeads (ts : List Token) : List Token :=
  ts.mapIdx fun i t => if Leads 0 [] (ts.take i) t (ts.drop (i + 1)) then t.recolon else t

/-! ## Token by token -/

theorem getElem?_append_cons (statement : List Token) (t : Token) (more : List Token) :
    (statement ++ t :: more)[statement.length]? = some t := by
  rw [List.getElem?_append_right (Nat.le_refl _), Nat.sub_self]
  rfl

theorem getElem?_recolonDeclaration (statement : List Token) (t : Token) (more : List Token) :
    (recolonDeclaration (statement ++ t :: more))[statement.length]? =
      some (if statement.all (·.text.all isNamePart) = true ∧ t.text.all isNamePart = false then t.recolon else t) := by
  induction statement with
  | nil =>
    rw [List.nil_append, recolonDeclaration]
    cases t.text.all isNamePart <;> rfl
  | cons s statement ih =>
    rw [List.cons_append, recolonDeclaration, List.all_cons]
    cases s.text.all isNamePart with
    | true => exact ih
    | false => exact getElem?_append_cons statement t more

theorem getElem?_declared (depth : Nat) (statement : List Token) (t : Token) (more : List Token) :
    (declared depth (statement ++ t :: more))[statement.length]? =
      some (if depth ≠ 0 ∧ statement.all (·.text.all isNamePart) = true ∧ t.text.all isNamePart = false then t.recolon
        else t) := by
  unfold declared
  by_cases hdepth : depth = 0
  · rw [if_pos hdepth, if_neg (fun h => h.1 hdepth)]
    exact getElem?_append_cons statement t more
  · rw [if_neg hdepth, getElem?_recolonDeclaration]
    simp only [ne_eq, hdepth, not_false_eq_true, true_and]

/-- The tokens of a statement that has begun are kept together with those that follow them in the statement. They are
normalised unless the statement ends with a block. -/
theorem recolon_begun (depth : Nat) {statement : List Token} (hne : statement ≠ []) (ts : List Token) :
    ∃ more rest, recolon depth statement ts =
      (if opensBlock ts then statement ++ more else declared depth (statement ++ more)) ++ rest := by
  induction ts generalizing statement with
  | nil => exact ⟨[], [], by rw [List.append_nil, List.append_nil]; rfl⟩
  | cons t ts ih =>
    have hmore : statement ++ [t] ≠ [] := List.append_ne_nil_of_left_ne_nil hne _
    -- what does not end the statement is one more token of it
    have hgather : ∃ more rest, recolon depth (statement ++ [t]) ts =
        (if opensBlock ts then statement ++ more else declared depth (statement ++ more)) ++ rest := by
      obtain ⟨more, rest, h⟩ := ih hmore
      exact ⟨t :: more, rest, by rw [h, List.append_assoc, List.singleton_append]⟩
    cases t with
    | openBrace => exact ⟨[], .openBrace :: recolon (depth + 1) [] ts, by rw [List.append_nil]; rfl⟩
    | closeBrace => exact ⟨[], .closeBrace :: recolon (depth - 1) [] ts, by rw [List.append_nil]; rfl⟩
    | semicolon => exact ⟨[], .semicolon :: recolon depth [] ts, by rw [List.append_nil]; rfl⟩
    | comment t =>
      rw [recolon, if_neg (by simpa using hne)]
      exact hgather
    | _ => exact hgather

/-- A token that is gathered into a statement. -/
theorem getElem?_recolon_gathered (depth : Nat) (statement : List Token) (t : Token) (ts : List Token) :
    (recolon depth (statement ++ [t]) ts)[statement.length]? =
      some (if depth ≠ 0 ∧ opensBlock ts = false ∧ statement.all (·.text.all isNamePart) = true ∧
        t.text.all isNamePart = false then t.recolon else t) := by
  have hbegun : statement ++ [t] ≠ [] := List.append_ne_nil_of_right_ne_nil _ (List.cons_ne_nil t [])
  obtain ⟨more, rest, h⟩ := recolon_begun depth hbegun ts
  rw [h, List.append_assoc, List.singleton_append]
  cases opensBlock ts with
  | true =>
    rw [if_pos rfl, List.append_assoc, if_neg (by simp)]
    exact getElem?_append_cons statement t (more ++ rest)
  | false =>
    rw [if_neg Bool.false_ne_true]
    have hget := getElem?_declared depth statement t more
    rw [List.getElem?_append_left (List.getElem?_eq_some_iff.mp hget).1, hget]
    simp

/-- After the token `t` the reading of a sheet goes on at `depth'`, with `statement'` begun. -/
structure Passes (depth : Nat) (statement : List Token) (t : Token) (depth' : Nat) (statement' : List Token) :
    Prop where
  depth_eq : ∀ ts, depthAfter depth (t :: ts) = depthAfter depth' ts
  statement_eq : ∀ ts, statementAfter statement (t :: ts) = statementAfter statement' ts

theorem Passes.leads_iff {depth depth' : Nat} {statement statement' : List Token} {t : Token}
    (h : Passes depth statement t depth' statement') (before : List Token) (u : Token) (after : List Token) :
    Leads depth statement (t :: before) u after ↔ Leads depth' statement' before u after := by
  unfold Leads
  rw [List.cons_append, h.depth_eq, h.statement_eq, h.statement_eq]

/-- A token is gathered into the statement that has begun, or it stands alone, and after it no statement has begun. -/
theorem passes_gathered_or_alone (depth : Nat) (statement : List Token) (t : Token) :
    (Passes depth statement t depth (statement ++ [t]) ∧
      ∀ ts, recolon depth statement (t :: ts) = recolon depth (statement ++ [t]) ts) ∨
    ∃ depth' kept, Passes depth statement t depth' [] ∧ kept.length = statement.length ∧
      ∀ ts, recolon depth statement (t :: ts) = kept ++ t :: recolon depth' [] ts := by
  have hlength := (declared_images depth statement).length_eq.symm
  cases t with
  | openBrace => exact Or.inr ⟨depth + 1, statement, ⟨fun _ => rfl, fun _ => rfl⟩, rfl, fun _ => rfl⟩
  | closeBrace =>
    exact Or.inr ⟨depth - 1, declared depth statement, ⟨fun _ => rfl, fun _ => rfl⟩, hlength, fun _ => rfl⟩
  | semicolon => exact Or.inr ⟨depth, declared depth statement, ⟨fun _ => rfl, fun _ => rfl⟩, hlength, fun _ => rfl⟩
  | comment t =>
    cases statement with
    | nil => exact Or.inr ⟨depth, [], ⟨fun _ => rfl, fun _ => rfl⟩, rfl, fun _ => rfl⟩
    | cons s statement => exact Or.inl ⟨⟨fun _ => rfl, fun _ => rfl⟩, fun _ => rfl⟩
  | _ => exact Or.inl ⟨⟨fun _ => rfl, fun _ => rfl⟩, fun _ => rfl⟩

theorem getElem?_recolon (depth : Nat) (statement ts : List Token) (i : Nat) :
    (recolon depth statement ts)[statement.length + i]? = ts[i]?.map fun t =>
      if Leads depth statement (ts.take i) t (ts.drop (i + 1)) then t.recolon else t := by
  induction ts generalizing depth statement i with
  | nil =>
    rw [recolon, List.getElem?_nil, Option.map_none, List.getElem?_eq_none_iff,
      ← (declared_images depth statement).length_eq]
    exact Nat.le_add_right _ _
  | cons t ts ih =>
    rcases passes_gathered_or_alone depth statement t with ⟨hpasses, hts⟩ | ⟨depth', kept, hpasses, hlength, hts⟩
    · cases i with
      | zero =>
        have hbegun : statementAfter statement [t] = statement ++ [t] := hpasses.statement_eq []
        rw [hts, Nat.add_zero, getElem?_recolon_gathered]
        simp only [List.getElem?_cons_zero, Option.map_some, List.take_zero, List.drop_succ_cons, List.drop_zero, Leads,
          List.nil_append, hbegun, ne_eq, List.append_eq_nil_iff, List.cons_ne_self, and_false, not_false_eq_true,
          true_and]
        rfl
      | succ i =>
        have hnext := ih depth (statement ++ [t]) i
        rw [List.length_append, List.length_singleton, Nat.add_assoc, Nat.add_comm 1] at hnext
        simp only [hts, hnext, List.getElem?_cons_succ, List.take_succ_cons, List.drop_succ_cons, hpasses.leads_iff]
    · rw [hts, ← hlength]
      cases i with
      | zero =>
        have hnone : statementAfter statement [t] = [] := hpasses.statement_eq []
        rw [Nat.add_zero, getElem?_append_cons]
        simp [Leads, hnone]
      | succ i =>
        have hnext := ih depth' [] i
        rw [List.length_nil, Nat.zero_add] at hnext
        rw [List.getElem?_append_right (Nat.le_add_right _ _), Nat.add_sub_cancel_left, List.getElem?_cons_succ, hnext]
        simp only [List.getElem?_cons_succ, List.take_succ_cons, List.drop_succ_cons, hpasses.leads_iff]

/-- The declarations are normalised by what stands in them, each token in its place. -/
theorem recolon_eq_settleLeads (ts : List Token) : recolon 0 [] ts = settleLeads ts := by
  refine List.ext_getElem? fun i => ?_
  have hget := getElem?_recolon 0 [] ts i
  rw [List.length_nil, Nat.zero_add] at hget
  rw [settleLeads, List.getElem?_mapIdx]
  exact hget

theorem settleLeads_eq_self_iff (ts : List Token) : settleLeads ts = ts ↔
    ∀ i, ∀ t ∈ ts[i]?, Leads 0 [] (ts.take i) t (ts.drop (i + 1)) → t.recolon = t := by
  rw [List.ext_getElem?_iff]
  refine forall_congr' fun i => ?_
  rw [settleLeads, List.getElem?_mapIdx]
  cases ts[i]? with
  | none => simp
  | some t => simp

/-- The tokens of a layout are those of the source, with its semicolons put right and the space around a colon set
where a string or a comment has the first colon of a declaration in a block. So all strings and comments are copied
exactly if the space around these colons is as it should be. -/
theorem format_verbatim_iff (width : Nat) (source : Text) :
    whole (format width source) = settleLeads (punctuated false (whole source)) ∧
      (whole (format width source) = punctuated false (whole source) ↔
        ∀ i, ∀ t ∈ (punctuated false (whole source))[i]?,
          Leads 0 [] ((punctuated false (whole source)).take i) t ((punctuated false (whole source)).drop (i + 1)) →
            t.recolon = t) := by
  have hsettled : whole (format width source) = settleLeads (punctuated false (whole source)) := by
    rw [whole_format, recolon_eq_settleLeads]
  rw [hsettled]
  exact ⟨rfl, settleLeads_eq_self_iff _⟩

/-- An address gets a space inside of its string, where the string follows no colon in a block. -/
theorem format_alters_address :
    Token.string "\"http://a.css\"" ∈ Token.all "@media print\x7b@import \"http://a.css\";\x7d" ∧
      format 2 "@media print\x7b@import \"http://a.css\";\x7d" =
        "@media print \x7b\n  @import \"http: //a.css\";\n\x7d" ∧
      ¬ ("\"http://a.css\"" : Text) <:+: format 2 "@media print\x7b@import \"http://a.css\";\x7d" := by
  decide +kernel

end Tidy.Css
