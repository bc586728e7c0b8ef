/-
# Tidy.Proofs.Xml.Declaration -- the XML declaration in reflowed text

The settings of a declaration have the names and the values that they had: white space may only stand around them, and
names and values are made of solid characters. So a declaration says the same about the document when it is reflowed.
-/

import Tidy.Proofs.Xml.Scanning
import Tidy.Xml.Declaration

namespace Tidy.Xml

open CodePoint (char)
open Markup (Reflowed)

/-! ## Settings -/

theorem inert_settingChar : Inert isSettingChar := by
  apply inert_nameChar.imp
  intro c hc
  simp only [isSettingChar, isNameChar, isNameStart, Bool.or_eq_true] at hc ⊢
  grind

theorem isSettingNameChar_of_isSpace {c : CodePoint} (h : isSpace c = true) : isSettingNameChar c = false := by
  simp [isSettingNameChar, h]

theorem settingValue_ne_none (name place s : Text) : settingValue name place s ≠ .none := by
  unfold settingValue
  split
  · simp
  · split
    · split
      · simp
      · split <;> simp
    · simp

theorem nextSetting_eq_none_iff (s : Text) : nextSetting s = .none ↔ skipSpace s = [] := by
  unfold nextSetting
  split
  · simp [skipSpace]
  · rename_i c rest
    cases hc : isSpace c with
    | false =>
      rw [skipSpace_solid hc]
      simp
    | true =>
      rw [if_neg (by simp), ← skipSpace]
      cases hplace : skipSpace (c :: rest) with
      | nil => simp
      | cons d more =>
        refine iff_of_false ?_ (List.cons_ne_nil d more)
        dsimp only
        split
        · simp
        split
        · split
          · simp
          · exact settingValue_ne_none _ _ _
        split
        · split
          · simp
          · split
            · exact settingValue_ne_none _ _ _
            · simp
        · simp

/-- The parts of a setting: white space, a name, an equals sign with white space around it, and a value. -/
structure SettingAt (s name after more : Text) : Prop where
  space : ∃ c, s.head? = some c ∧ isSpace c = true
  place : skipSpace s = name ++ after
  nonempty : name ≠ []
  chars : ∀ c ∈ name, isSettingNameChar c = true
  ends : ∀ c, after.head? = some c → isSettingNameChar c = false
  equals : skipSpace after = char '=' :: more

theorem exists_settingAt {s rest : Text} {setting : Setting} (h : nextSetting s = .some setting rest) :
    ∃ name after more, SettingAt s name after more ∧
      settingValue name (name ++ after) more = .some setting rest := by
  unfold nextSetting at h
  split at h
  · cases h
  rename_i c s
  split at h
  · cases h
  rename_i hc
  have hspace : isSpace c = true := by simpa using hc
  have hhead := List.head?_dropWhile_not isSpace (c :: s)
  generalize hplace : (c :: s).dropWhile isSpace = place at h hhead
  cases place with
  | nil => cases h
  | cons d more =>
    dsimp only at h hhead
    -- the name reaches up to the first code point that cannot stand in it
    have hparts := (@List.takeWhile_append_dropWhile _ isSettingNameChar (d :: more)).symm
    have hends := List.head?_dropWhile_not isSettingNameChar (d :: more)
    have hchars := List.all_takeWhile (l := d :: more) (p := isSettingNameChar)
    rw [List.all_eq_true] at hchars
    generalize (d :: more).takeWhile isSettingNameChar = name, (d :: more).dropWhile isSettingNameChar = after
      at h hparts hends hchars
    cases after with
    | nil => cases h
    | cons e after =>
      dsimp only at h hends
      -- all but the equals sign, which stands behind the name at once or behind white space
      have hat : ∀ {more : Text}, name ≠ [] → skipSpace (e :: after) = char '=' :: more →
          SettingAt (c :: s) name (e :: after) more := by
        intro more hne hequals
        refine ⟨⟨c, rfl, hspace⟩, hplace.trans hparts, hne, hchars, ?_, hequals⟩
        rintro _ ⟨⟩
        exact hends
      split at h
      · rename_i he
        subst he
        split at h
        · cases h
        · rename_i hne
          rw [hparts] at h
          exact ⟨name, _, after, hat (by simpa using hne) rfl, h⟩
      split at h
      · rename_i he
        split at h
        · cases h
        · rename_i f more' hskip
          split at h
          · rename_i hf
            subst hf
            rw [hparts] at h
            refine ⟨name, _, more', hat ?_ ?_, h⟩
            · rintro rfl
              rw [List.nil_append, List.cons.injEq] at hparts
              rw [← hparts.1, hhead] at he
              cases he
            · rw [skipSpace_space he]
              exact hskip
          · cases h
      · cases h

theorem nextSetting_of_settingAt {s name after more rest : Text} {setting : Setting} (hat : SettingAt s name after more)
    (h : settingValue name (name ++ after) more = .some setting rest) : nextSetting s = .some setting rest := by
  obtain ⟨⟨c, hhead, hspace⟩, hplace, hne, hchars, hends, hequals⟩ := hat
  cases after with
  | nil => cases hequals
  | cons e after =>
    obtain ⟨htake, hdrop⟩ := span_append hchars (hends e rfl) after
    unfold nextSetting
    split
    · cases hhead
    rename_i d s
    obtain rfl : d = c := Option.some.inj hhead
    rw [if_neg (by simp [hspace]), ← skipSpace, hplace]
    cases name with
    | nil => exact absurd rfl hne
    | cons f name =>
      rw [List.cons_append] at htake hdrop ⊢
      dsimp only
      rw [hdrop, htake]
      dsimp only
      -- the equals sign stands behind the name at once, or behind white space
      by_cases hequal : e = char '='
      · subst hequal
        obtain rfl : after = more := (List.cons.inj hequals).2
        rw [if_pos rfl, if_neg (by simp)]
        exact h
      · have hspaceE : isSpace e = true := by
          cases hsolid : isSpace e with
          | true => rfl
          | false =>
            rw [skipSpace_solid hsolid, List.cons.injEq] at hequals
            exact absurd hequals.1 hequal
        rw [skipSpace_space hspaceE, skipSpace] at hequals
        rw [if_neg hequal, if_pos hspaceE, hequals]
        dsimp only
        rw [if_pos rfl]
        exact h

/-- One setting is another, in another place. -/
structure SettingFollows (x x' : Setting) : Prop where
  name : x.name = x'.name
  value : x.value = x'.value

section Reflow

variable {white : CodePoint → Bool} (hw : White white) {s t : Text}
include hw

theorem settingValue_follows {name place rest : Text} (place' : Text) {setting : Setting} (h : Reflowed white s t)
    (hs : settingValue name place s = .some setting rest) :
    ∃ setting' rest', settingValue name place' t = .some setting' rest' ∧ SettingFollows setting setting' ∧
      Reflowed white rest rest' := by
  unfold settingValue at hs
  split at hs
  · cases hs
  rename_i q value hopen
  split at hs
  · rename_i hq
    have hsolid : q.isBlank = false ∧ q ≠ char '<' := by
      simp only [Bool.or_eq_true, decide_eq_true_eq] at hq
      rcases hq with rfl | rfl <;> decide
    split at hs
    · cases hs
    rename_i c rest hclose
    split at hs
    · rename_i hc
      cases hs
      subst hc
      obtain ⟨value', hopen', hvalue⟩ := hw.skipSpace_cons h hopen hsolid.1 hsolid.2
      -- a value is made of code points that nothing comes between
      obtain ⟨htake, hdrop⟩ := hw.span inert_settingChar hvalue
      rw [hclose] at hdrop
      obtain ⟨rest', hclose', hrest⟩ := hw.solid hdrop hsolid.1 hsolid.2
      refine ⟨⟨name, place', value'.takeWhile isSettingChar, value'⟩, rest', ?_, ⟨rfl, htake.symm⟩, hrest⟩
      unfold settingValue
      rw [← skipSpace, hopen']
      dsimp only
      rw [if_pos hq, hclose']
      dsimp only
      rw [if_pos rfl]
    · cases hs
  · cases hs

omit hw in
theorem name_of_settingValue {name place s rest : Text} {setting : Setting}
    (h : settingValue name place s = .some setting rest) : setting.name = name := by
  unfold settingValue at h
  split at h
  · cases h
  split at h
  · split at h
    · cases h
    split at h
    · cases h
      rfl
    · cases h
  · cases h

theorem nextSetting_none (h : Reflowed white s t) (hs : nextSetting s = .none) : nextSetting t = .none := by
  rw [nextSetting_eq_none_iff] at hs ⊢
  exact hw.skipSpace_nil h hs

/-- A setting whose name is a word is found in the reflowed text. -/
theorem nextSetting_some {rest : Text} {setting : Setting} (h : Reflowed white s t)
    (hs : nextSetting s = .some setting rest) (hword : IsWord setting.name) :
    ∃ setting' rest', nextSetting t = .some setting' rest' ∧ SettingFollows setting setting' ∧
      Reflowed white rest rest' := by
  obtain ⟨name, after, more, hat, hvalue⟩ := exists_settingAt hs
  rw [name_of_settingValue hvalue] at hword
  obtain ⟨⟨c, hhead, hspace⟩, hplace, hne, hchars, hends, hequals⟩ := hat
  have hskip : Reflowed white (name ++ after) (Xml.skipSpace t) := by
    rcases hw.skipSpace h with ⟨d, _, hstuck, hblank, -⟩ | hskip
    · -- the first character of the name is solid
      cases name with
      | nil => exact absurd rfl hne
      | cons e name =>
        rw [hplace, List.cons_append, List.cons.injEq] at hstuck
        have hsolid := (hword e List.mem_cons_self).1
        rw [hstuck.1, hblank] at hsolid
        cases hsolid
    · rwa [hplace] at hskip
  obtain ⟨after', hplace', hafter⟩ := hw.word hword hskip
  obtain ⟨more', hequals', hmore⟩ := hw.skipSpace_cons hafter hequals rfl (by decide)
  obtain ⟨setting', rest', hvalue', hsetting, hrest⟩ := settingValue_follows hw (name ++ after') hmore hvalue
  refine ⟨setting', rest', nextSetting_of_settingAt ⟨?_, hplace', hne, hchars, ?_, hequals'⟩ hvalue', hsetting, hrest⟩
  · cases s with
    | nil => cases hhead
    | cons d s =>
      obtain rfl : d = c := Option.some.inj hhead
      obtain ⟨c', t', rfl, hspace'⟩ := head_space h hspace
      exact ⟨c', rfl, hspace'⟩
  · -- the equals sign stays, or white space stands before it as it did
    intro d hd
    cases after with
    | nil => cases hequals
    | cons e after =>
      cases hspaceE : isSpace e with
      | true =>
        obtain ⟨e', _, rfl, hspaceE'⟩ := head_space hafter hspaceE
        obtain rfl : e' = d := Option.some.inj hd
        exact isSettingNameChar_of_isSpace hspaceE'
      | false =>
        rw [skipSpace_solid hspaceE, List.cons.injEq] at hequals
        obtain ⟨rfl, -⟩ := hequals
        obtain ⟨_, rfl, -⟩ := hw.solid hafter rfl (by decide)
        obtain rfl := Option.some.inj hd
        rfl

/-! ## The declaration -/

omit hw in
theorem isWord_of_readStandalone {setting : Setting} {rest : Text} {standalone : Bool}
    (h : readStandalone setting rest = .ok standalone) : IsWord setting.name := by
  unfold readStandalone at h
  split at h
  · cases h
  · rename_i hname
    rw [Decidable.not_not.mp hname]
    decide

theorem readStandalone_follows {setting setting' : Setting} {rest rest' : Text} {standalone : Bool}
    (hsetting : SettingFollows setting setting') (h : Reflowed white rest rest')
    (hread : readStandalone setting rest = .ok standalone) : readStandalone setting' rest' = .ok standalone := by
  unfold readStandalone at hread ⊢
  rw [← hsetting.name, ← hsetting.value]
  split at hread
  · cases hread
  rename_i hname
  split at hread
  · cases hread
  rename_i hvalue
  rw [if_neg hname, if_neg hvalue]
  split at hread
  · rename_i hend
    rw [← skipSpace, hw.skipSpace_nil h hend]
    exact hread
  · cases hread

theorem readEncoding_follows {standalone : Bool} (h : Reflowed white s t) (hread : readEncoding s = .ok standalone) :
    readEncoding t = .ok standalone := by
  unfold readEncoding at hread ⊢
  split at hread
  · rename_i hnone
    rw [nextSetting_none hw h hnone]
    exact hread
  · cases hread
  rename_i setting rest hsetting
  split at hread
  · rename_i hname
    obtain ⟨setting', rest', hsetting', hfollows, hrest⟩ := nextSetting_some hw h hsetting (by rw [hname]; decide)
    rw [hsetting']
    dsimp only
    rw [← hfollows.name, ← hfollows.value, if_pos hname]
    split at hread
    · cases hread
    rename_i hvalue
    rw [if_neg hvalue]
    split at hread
    · rename_i hnone
      rw [nextSetting_none hw hrest hnone]
      exact hread
    · cases hread
    rename_i last more hlast
    obtain ⟨last', more', hlast', hfollows, hmore⟩ :=
      nextSetting_some hw hrest hlast (isWord_of_readStandalone hread)
    rw [hlast']
    exact readStandalone_follows hw hfollows hmore hread
  · -- no encoding: this is the setting for documents that stand alone
    rename_i hname
    obtain ⟨setting', rest', hsetting', hfollows, hrest⟩ :=
      nextSetting_some hw h hsetting (isWord_of_readStandalone hread)
    rw [hsetting']
    dsimp only
    rw [← hfollows.name, if_neg hname]
    exact readStandalone_follows hw hfollows hrest hread

/-- A declaration says the same about the document when it is reflowed. -/
theorem readDeclaration_follows {standalone : Bool} (h : Reflowed white s t)
    (hread : readDeclaration s = .ok standalone) : readDeclaration t = .ok standalone := by
  unfold readDeclaration at hread ⊢
  split at hread
  · cases hread
  · cases hread
  rename_i setting rest hsetting
  split at hread
  · rename_i hname
    obtain ⟨setting', rest', hsetting', hfollows, hrest⟩ := nextSetting_some hw h hsetting (by rw [hname]; decide)
    rw [hsetting']
    dsimp only
    rw [← hfollows.name, if_pos hname]
    exact readEncoding_follows hw hrest hread
  · cases hread

end Reflow

end Tidy.Xml
