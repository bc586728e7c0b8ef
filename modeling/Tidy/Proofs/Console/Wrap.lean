/-
# Tidy.Proofs.Console.Wrap -- wrapping keeps everything but white space

A text is cut into words, the words are filled into lines, and every line is cropped at its end. Words and lines lose
nothing (`flatten_words`, `flatten_fill`). What is cropped is white space only, because every line fits without the
white space at its end (`narrow_fill`): this holds of steady texts, in which each character has its own columns. So what
is shown of a steady text is the text, but for white space and hidden controls (`unspaced_shown`).
-/

import Tidy.Console.Wrap
import Tidy.Proofs.Text.Column
import Tidy.Proofs.Text.Ink
import Tidy.Proofs.Text.Split

namespace Tidy.Console

open CodePoint (char)
open Text (Steady breadth)

/-! ## Words -/

theorem append_nextWord (t : Text) : (nextWord t).1 ++ (nextWord t).2 = t :=
  List.take_append_drop _ t

theorem length_nextWord {t : Text} (h : t ≠ []) : (nextWord t).2.length < t.length := by
  cases t with
  | nil => exact absurd rfl h
  | cons c t =>
    unfold nextWord
    dsimp only
    rw [List.length_drop]
    apply Nat.sub_lt (Nat.succ_pos t.length)
    -- the first code point is white space in front of the word, or belongs to the word
    cases hc : c.isBlank with
    | true =>
      rw [List.takeWhile_cons, hc, if_pos rfl, List.length_cons]
      omega
    | false =>
      simp only [List.takeWhile_cons, hc, Bool.false_eq_true, if_false, List.length_nil, List.drop_zero, Bool.not_false,
        if_true, List.length_cons]
      omega

theorem flatten_words {limit : Nat} {t : Text} (h : t.length < limit) : (words limit t).flatten = t := by
  induction limit generalizing t with
  | zero => cases h
  | succ limit ih =>
    rw [words]
    cases t with
    | nil => rfl
    | cons c t =>
      have hshort := length_nextWord (List.cons_ne_nil c t)
      rw [List.isEmpty_cons, if_neg Bool.false_ne_true, List.flatten_cons, ih (by omega)]
      exact append_nextWord _

/-! ## Lines -/

theorem flatten_pieces (width : Nat) (piece : Text) (used : Nat) (clusters : List Text.Cluster) :
    (pieces width piece used clusters).flatten = piece ++ clusters.flatMap Text.Cluster.text := by
  induction clusters generalizing piece used with
  | nil => rfl
  | cons cluster rest ih =>
    rw [pieces, List.flatMap_cons]
    split
    · rw [List.flatten_cons, ih]
    · rw [ih, List.append_assoc]

theorem flatten_dropLast (rows : List Text) : rows.dropLast.flatten ++ rows.getLast?.getD [] = rows.flatten := by
  rcases List.eq_nil_or_concat rows with rfl | ⟨rows, row, rfl⟩
  · rfl
  · simp

/-- Filling lines puts all words into them, in their order. -/
theorem flatten_fill (width : Nat) (line : Text) (used : Nat) (words : List Text) :
    (fill width line used words).flatten = line ++ words.flatten := by
  induction words generalizing line used with
  | nil => rfl
  | cons word rest ih =>
    rw [fill, List.flatten_cons]
    split
    · rw [ih, List.append_assoc]
    · split
      · have hcut := flatten_dropLast (pieces width [] 0 word.clusters)
        rw [flatten_pieces, Text.flatMap_text_clusters] at hcut
        dsimp only
        rw [List.flatten_append, ih, ← List.append_assoc, ← List.append_assoc]
        congr 1
        cases line with
        | nil => exact hcut
        | cons c line =>
          rw [List.isEmpty_cons, if_neg Bool.false_ne_true, List.flatten_cons, List.append_assoc, hcut]
          rfl
      · rw [List.flatten_cons, ih]

/-- The line fits the width without the white space at its end. -/
def Narrow (width : Nat) (line : Text) : Prop :=
  breadth (Text.trimEnd line) ≤ width

theorem breadth_trimEnd_le (t : Text) : breadth (Text.trimEnd t) ≤ breadth t := by
  obtain ⟨tail, -, ht⟩ := Text.exists_trimEnd t
  calc breadth (Text.trimEnd t)
      ≤ breadth (Text.trimEnd t) + breadth tail := Nat.le_add_right _ _
    _ = breadth t := by rw [← Text.breadth_append, ← ht]

theorem narrow_of_breadth_le {width : Nat} {line : Text} (h : breadth line ≤ width) : Narrow width line :=
  Nat.le_trans (breadth_trimEnd_le line) h

/-- A word may be put behind a line if it fits there without the white space at its end. -/
theorem narrow_append {width : Nat} {line word : Text} (hline : Narrow width line)
    (hfits : breadth line + breadth (Text.trimEnd word) ≤ width) : Narrow width (line ++ word) := by
  unfold Narrow
  cases hblank : Text.isBlank word with
  | true => rwa [Text.trimEnd_append_of_isBlank hblank]
  | false => rwa [Text.trimEnd_append_of_not_isBlank hblank, Text.breadth_append]

theorem breadth_le_of_mem_pieces {width : Nat} (hwidth : 2 ≤ width) {clusters : List Text.Cluster}
    (hplain : ∀ cluster ∈ clusters, cluster.Plain) {piece : Text} (hpiece : breadth piece ≤ width) {row : Text}
    (h : row ∈ pieces width piece (breadth piece) clusters) : breadth row ≤ width := by
  induction clusters generalizing piece with
  | nil =>
    rw [List.mem_singleton.mp h]
    exact hpiece
  | cons cluster rest ih =>
    obtain ⟨hcluster, hrest⟩ := List.forall_mem_cons.mp hplain
    rw [pieces, hcluster.columns_eq] at h
    split at h
    · rcases List.mem_cons.mp h with rfl | h
      · exact hpiece
      · refine ih hrest ?_ h
        rw [← hcluster.columns_eq]
        exact Nat.le_trans hcluster.columns_le hwidth
    · rename_i hfits
      rw [← Text.breadth_append] at h hfits
      exact ih hrest (Nat.le_of_not_lt hfits) h

/-- A steady word is cut into pieces that fit. -/
theorem breadth_le_of_mem_cut {width : Nat} (hwidth : 2 ≤ width) {word : Text} (hword : Steady word) {row : Text}
    (h : row ∈ pieces width [] 0 word.clusters) : breadth row ≤ width ∧ Steady row := by
  constructor
  · have hplain : ∀ cluster ∈ word.clusters, cluster.Plain := fun _ => Text.plain_of_mem_clusters hword
    exact @breadth_le_of_mem_pieces width hwidth _ hplain [] (Nat.zero_le width) row h
  · have hflat := flatten_pieces width [] 0 word.clusters
    rw [Text.flatMap_text_clusters, List.nil_append] at hflat
    apply hword.subset
    rw [← hflat]
    exact fun c hc => List.mem_flatten.mpr ⟨row, h, hc⟩

theorem breadth_last_cut_le {width : Nat} (hwidth : 2 ≤ width) {word : Text} (hword : Steady word) :
    breadth ((pieces width [] 0 word.clusters).getLast?.getD []) ≤ width ∧
      Steady ((pieces width [] 0 word.clusters).getLast?.getD []) := by
  cases hlast : (pieces width [] 0 word.clusters).getLast? with
  | none => exact ⟨Nat.zero_le width, ⟨List.not_mem_nil, List.not_mem_nil⟩⟩
  | some last => exact breadth_le_of_mem_cut hwidth hword (List.mem_of_getLast? hlast)

/-- No line of steady words is too wide, but for white space at its end. -/
theorem narrow_fill {width : Nat} (hwidth : 2 ≤ width) {words : List Text} (hwords : ∀ word ∈ words, Steady word)
    {line : Text} (hline : Narrow width line) :
    ∀ row ∈ fill width line (breadth line) words, Narrow width row := by
  induction words generalizing line with
  | nil =>
    intro row hrow
    rw [List.mem_singleton.mp hrow]
    exact hline
  | cons word rest ih =>
    obtain ⟨hword, hrest⟩ := List.forall_mem_cons.mp hwords
    obtain ⟨tail, -, htrim⟩ := Text.exists_trimEnd word
    have hcore : Steady (Text.trimEnd word) := by
      apply hword.subset
      conv => rhs; rw [htrim]
      exact List.subset_append_left _ _
    rw [fill, Text.columns_of_steady hcore, Text.columns_of_steady hword]
    split
    · rename_i hfits
      have hrows := ih hrest (narrow_append hline hfits)
      rwa [Text.breadth_append] at hrows
    · split
      · -- the word is cut, and its last piece begins the next line
        obtain ⟨hlast, hlaststeady⟩ := breadth_last_cut_le hwidth hword
        have hcut : ∀ row ∈ (pieces width [] 0 word.clusters).dropLast, Narrow width row := fun row hrow =>
          narrow_of_breadth_le (breadth_le_of_mem_cut hwidth hword (List.dropLast_subset _ hrow)).1
        intro row hrow
        dsimp only at hrow
        rw [Text.columns_of_steady hlaststeady] at hrow
        rcases List.mem_append.mp hrow with hrow | hrow
        · split at hrow
          · exact hcut row hrow
          · exact List.forall_mem_cons.mpr ⟨hline, hcut⟩ row hrow
        · exact ih hrest (narrow_of_breadth_le hlast) row hrow
      · rename_i hfits
        exact List.forall_mem_cons.mpr ⟨hline, ih hrest (Nat.le_of_not_lt hfits)⟩

/-! ## Ends of lines -/

theorem exists_cropEnd (width : Nat) (line : Text) :
    ∃ tail, Text.isBlank tail = true ∧ cropEnd width line = Text.trimEnd line ++ tail := by
  obtain ⟨tail, htail, hline⟩ := Text.exists_trimEnd line
  unfold cropEnd
  dsimp only
  generalize Text.trimEnd line = core at hline ⊢
  subst hline
  generalize hcount :
    (core ++ tail).length - min ((core ++ tail).length - core.length) ((core ++ tail).length - width) = count
  rw [List.length_append] at hcount
  refine ⟨tail.take (count - core.length), ?_, ?_⟩
  · exact List.all_eq_true.mpr fun c hc => List.all_eq_true.mp htail c (List.mem_of_mem_take hc)
  · rw [List.take_append, List.take_of_length_le (by omega)]

theorem isBlank_cutClusters {clusters : List Text.Cluster}
    (h : Text.isBlank (clusters.flatMap Text.Cluster.text) = true) (width : Nat) :
    Text.isBlank (cutClusters width clusters) = true := by
  induction clusters generalizing width with
  | nil => rfl
  | cons cluster rest ih =>
    rw [List.flatMap_cons, Text.isBlank_append, Bool.and_eq_true] at h
    rw [cutClusters]
    split
    · rfl
    · split
      · rw [Text.isBlank_append, h.1, ih h.2, Bool.and_self]
      · rfl

/-- White space after a cluster that fits stays white space, whatever is cut. -/
theorem unspaced_cutClusters_blank {width : Nat} {last : Text.Cluster} (hpos : 0 < width) (hfits : last.columns ≤ width)
    {tail : Text} (hsteady : Steady tail) (hblank : Text.isBlank tail = true) (face : Bool) :
    Text.unspaced (cutClusters width (Text.clustersFrom last face tail)) = Text.unspaced last.text := by
  induction tail generalizing last face with
  | nil =>
    rw [Text.clustersFrom, cutClusters, if_neg (Nat.ne_of_gt hpos), if_pos hfits, cutClusters, List.append_nil]
  | cons c tail ih =>
    have hrest := (Text.steady_cons.mp hsteady).2.2
    have hall := hblank
    rw [Text.isBlank, List.all_cons, Bool.and_eq_true] at hblank
    rw [Text.clustersFrom_cons_of_steady hsteady]
    split
    · have hextended : (last.extend [c] 0).columns ≤ width := hfits
      rw [ih hextended hrest hblank.2, Text.Cluster.text_extend, Text.unspaced_append,
        Text.unspaced_cons_blank hblank.1, Text.unspaced_nil, List.append_nil]
    · have hafter := Text.flatMap_text_clustersFrom ⟨[c], c.columns⟩ (c.inTable CodePoint.textFaces) tail
      rw [cutClusters, if_neg (Nat.ne_of_gt hpos), if_pos hfits, Text.unspaced_append,
        Text.unspaced_of_isBlank (isBlank_cutClusters (by rwa [hafter]) _), List.append_nil]

/-- A text that fits but for white space at its end loses nothing else when it is cut. -/
theorem unspaced_cutClusters {width : Nat} {last : Text.Cluster} {core tail : Text} (hpos : 0 < width)
    (hfits : last.columns + breadth core ≤ width) (hsteady : Steady (core ++ tail)) (hblank : Text.isBlank tail = true)
    (face : Bool) :
    Text.unspaced (cutClusters width (Text.clustersFrom last face (core ++ tail))) =
      Text.unspaced (last.text ++ core) := by
  induction core generalizing last face width with
  | nil =>
    rw [List.append_nil]
    exact unspaced_cutClusters_blank hpos hfits hsteady hblank face
  | cons c core ih =>
    rw [List.cons_append] at hsteady ⊢
    have hrest := (Text.steady_cons.mp hsteady).2.2
    rw [Text.breadth_cons] at hfits
    rw [Text.clustersFrom_cons_of_steady hsteady, List.append_cons]
    split
    · rename_i hflat
      have hextended : (last.extend [c] 0).columns + breadth core ≤ width := by
        show last.columns + 0 + breadth core ≤ width
        omega
      exact ih hpos hextended hrest _
    · -- a new cluster has columns, so there is room behind the last one
      rename_i hcolumns
      rw [cutClusters, if_neg (Nat.ne_of_gt hpos), if_pos (by omega), Text.unspaced_append, List.append_assoc,
        Text.unspaced_append]
      congr 1
      exact ih (by omega) (by dsimp only; omega) hrest _

theorem unspaced_truncated {width : Nat} (hpos : 0 < width) {core tail : Text} (hsteady : Steady (core ++ tail))
    (hblank : Text.isBlank tail = true) (hfits : breadth core ≤ width) :
    Text.unspaced (truncated width (core ++ tail)) = Text.unspaced core := by
  unfold truncated
  split
  · rw [Text.unspaced_append, Text.unspaced_of_isBlank hblank, List.append_nil]
  · cases core with
    | nil => exact Text.unspaced_of_isBlank (isBlank_cutClusters (by rwa [Text.flatMap_text_clusters]) width)
    | cons c core =>
      rw [List.cons_append] at hsteady ⊢
      rw [Text.clusters_cons_of_steady hsteady]
      exact @unspaced_cutClusters width ⟨[c], c.columns⟩ core tail hpos hfits (Text.steady_cons.mp hsteady).2.2 hblank _

/-- Cropping and cutting a line that fits takes white space away and nothing else. -/
theorem unspaced_truncated_cropEnd {width : Nat} (hpos : 0 < width) {line : Text} (hsteady : Steady line)
    (hnarrow : Narrow width line) :
    Text.unspaced (truncated width (cropEnd width line)) = Text.unspaced line := by
  obtain ⟨tail, hblank, hcrop⟩ := exists_cropEnd width line
  have hkept : Text.trimEnd line ++ tail ⊆ line := by
    rw [← hcrop]
    exact List.take_subset _ line
  rw [hcrop, unspaced_truncated hpos (hsteady.subset hkept) hblank hnarrow, Text.unspaced_trimEnd]

/-! ## What is shown -/

theorem unspaced_flatten (rows : List Text) : Text.unspaced rows.flatten = rows.flatMap Text.unspaced := by
  rw [Text.unspaced, List.filter_flatten, List.flatMap_def]
  rfl

theorem flatMap_unspaced_splitAt {mark : CodePoint} (hmark : mark.isBlank = true) (t : Text) :
    (Text.splitAt mark t).flatMap Text.unspaced = Text.unspaced t := by
  induction t with
  | nil => rfl
  | cons c t ih =>
    obtain ⟨first, others, ht⟩ := List.exists_cons_of_ne_nil (Text.splitAt_ne_nil mark t)
    by_cases hc : c = mark
    · subst hc
      rw [Text.splitAt_mark, List.flatMap_cons, ih, Text.unspaced_nil, List.nil_append, Text.unspaced_cons_blank hmark]
    · rw [ht, List.flatMap_cons] at ih
      rw [Text.splitAt_cons hc ht, List.flatMap_cons, ← List.singleton_append, Text.unspaced_append, List.append_assoc,
        ih, ← Text.unspaced_append]
      rfl

theorem unspaced_join {separator : Text} (h : Text.isBlank separator = true) (rows : List Text) :
    Text.unspaced (Text.join separator rows) = rows.flatMap Text.unspaced := by
  induction rows with
  | nil => rfl
  | cons row rest ih =>
    cases rest with
    | nil => rw [Text.join, List.flatMap_cons, List.flatMap_nil, List.append_nil]
    | cons next rest =>
      rw [Text.join]
      · rw [Text.unspaced_append, Text.unspaced_append, Text.unspaced_of_isBlank h, List.append_nil, ih]
        rfl
      · exact nofun

theorem unspaced_expandTabs (column : Nat) (parts : List Text) :
    Text.unspaced (expandTabs column parts) = parts.flatMap Text.unspaced := by
  induction parts generalizing column with
  | nil => rfl
  | cons part rest ih =>
    cases rest with
    | nil => rw [expandTabs, List.flatMap_cons, List.flatMap_nil, List.append_nil]
    | cons next rest =>
      rw [expandTabs]
      · have hspace : Text.unspaced (Text.ofString " ") = [] := rfl
        rw [Text.unspaced_append, Text.unspaced_append, Text.unspaced_append, ih,
          Text.unspaced_of_isBlank (Text.isBlank_spaces _), hspace, List.append_nil, List.append_nil]
        rfl
      · exact nofun

theorem steady_expandTabs {parts : List Text} (h : ∀ part ∈ parts, Steady part) (column : Nat) :
    Steady (expandTabs column parts) := by
  induction parts generalizing column with
  | nil => exact ⟨List.not_mem_nil, List.not_mem_nil⟩
  | cons part rest ih =>
    obtain ⟨hpart, hrest⟩ := List.forall_mem_cons.mp h
    cases rest with
    | nil => exact hpart
    | cons next rest =>
      rw [expandTabs]
      · exact ((hpart.append (Text.steady_spaces 1)).append (Text.steady_spaces _)).append (ih hrest _)
      · exact nofun

/-- A steady line loses nothing but white space when it is wrapped. -/
theorem unspaced_wrapLine {width : Nat} (hwidth : 2 ≤ width) {t : Text} (h : Steady t) :
    (wrapLine width t).flatMap Text.unspaced = Text.unspaced t := by
  have htabs : Text.unspaced (expandTabs 0 (Text.splitAt (char '\t') t)) = Text.unspaced t := by
    rw [unspaced_expandTabs]
    exact flatMap_unspaced_splitAt rfl t
  have hsteady : Steady (expandTabs 0 (Text.splitAt (char '\t') t)) :=
    steady_expandTabs (fun part hpart => h.subset (Text.subset_of_mem_splitAt hpart)) 0
  rw [← htabs, wrapLine]
  generalize expandTabs 0 (Text.splitAt (char '\t') t) = expanded at hsteady ⊢
  have hwords := flatten_words (Nat.lt_succ_self expanded.length)
  have hrows := flatten_fill width [] 0 (words (expanded.length + 1) expanded)
  rw [hwords, List.nil_append] at hrows
  have hnarrow := @narrow_fill width hwidth (words (expanded.length + 1) expanded)
    (fun word hmem => hsteady.subset fun c hc => by
      rw [← hwords]
      exact List.mem_flatten.mpr ⟨word, hmem, hc⟩) [] (Nat.zero_le width)
  rw [Text.breadth_nil] at hnarrow
  generalize fill width [] 0 (words (expanded.length + 1) expanded) = rows at hrows hnarrow ⊢
  rw [List.flatMap_map, ← hrows, unspaced_flatten]
  refine List.flatMap_congr fun row hrow => ?_
  refine unspaced_truncated_cropEnd (by omega) (hsteady.subset fun c hc => ?_) (hnarrow row hrow)
  rw [← hrows]
  exact List.mem_flatten.mpr ⟨row, hrow, hc⟩

/-- What is shown of a steady text is all of it but white space and hidden controls. -/
theorem unspaced_shown {t : Text} (h : Steady t) :
    Text.unspaced (shown t) = Text.unspaced (t.filter (!isHidden ·)) := by
  have hvisible : Steady (t.filter (!isHidden ·)) := h.subset (List.filter_subset_self t)
  unfold shown
  generalize t.filter (!isHidden ·) = visible at hvisible ⊢
  have hend : Text.unspaced (Text.ofString "\n") = [] := rfl
  rw [Text.unspaced_append, hend, List.append_nil, unspaced_join rfl, List.flatMap_assoc]
  calc (Text.lines visible).flatMap (fun line => (wrapLine width line).flatMap Text.unspaced)
      = (Text.lines visible).flatMap Text.unspaced := by
        refine List.flatMap_congr fun line hline => ?_
        exact unspaced_wrapLine (by decide) (hvisible.subset (Text.subset_of_mem_splitAt hline))
    _ = Text.unspaced visible := flatMap_unspaced_splitAt rfl visible

end Tidy.Console
