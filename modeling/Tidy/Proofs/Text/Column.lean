/-
# Tidy.Proofs.Text.Column -- the columns of a text whose characters stand alone

Joiners and selectors change what the characters beside them take. In a text without these marks (`Steady`) every
character takes its own columns, so the columns of a text are their sum (`breadth`), and no cluster takes more than two.
Whatever its marks, a text is put together again from its clusters.
-/

import Tidy.Text.Column
import Mathlib.Data.List.Basic

namespace Tidy

theorem CodePoint.columns_le (c : CodePoint) : c.columns ≤ 2 := by
  unfold CodePoint.columns
  split
  · exact Nat.le_succ 1
  · split
    · exact Nat.zero_le 2
    · split
      · exact Nat.le_refl 2
      · exact Nat.le_succ 1

namespace Text

/-! ## Clusters -/

@[simp] theorem Cluster.text_extend (cluster : Cluster) (more : Text) (columns : Nat) :
    (cluster.extend more columns).text = cluster.text ++ more := rfl

theorem flatMap_text_clustersFrom (last : Cluster) (face : Bool) (t : Text) :
    (clustersFrom last face t).flatMap Cluster.text = last.text ++ t := by
  fun_induction clustersFrom last face t with
  | case1 last face => simp
  | case2 last face => simp
  | case3 last face joined rest ih => simp [ih]
  | case4 last face rest hjoiner ih => simp [ih]
  | case5 last face c rest hjoiner hselector hflat ih => simp [ih]
  | case6 last face c rest hjoiner hselector hflat ih => simp [ih]

theorem flatMap_text_clusters (t : Text) : t.clusters.flatMap Cluster.text = t := by
  unfold clusters
  split
  · rfl
  · split <;> exact flatMap_text_clustersFrom _ _ _

/-! ## Steady texts -/

/-- No mark in the text changes what the characters beside it take. -/
structure Steady (t : Text) : Prop where
  joiner : CodePoint.joiner ∉ t
  selector : CodePoint.emojiSelector ∉ t

theorem Steady.subset {s t : Text} (h : Steady t) (hs : s ⊆ t) : Steady s :=
  ⟨fun hmem => h.joiner (hs hmem), fun hmem => h.selector (hs hmem)⟩

theorem Steady.append {s t : Text} (hs : Steady s) (ht : Steady t) : Steady (s ++ t) :=
  ⟨fun hmem => (List.mem_append.mp hmem).elim hs.joiner ht.joiner,
    fun hmem => (List.mem_append.mp hmem).elim hs.selector ht.selector⟩

theorem steady_spaces (n : Nat) : Steady (spaces n) :=
  ⟨fun hmem => absurd (List.eq_of_mem_replicate hmem) (by decide),
    fun hmem => absurd (List.eq_of_mem_replicate hmem) (by decide)⟩

theorem steady_cons {c : CodePoint} {t : Text} :
    Steady (c :: t) ↔ c ≠ CodePoint.joiner ∧ c ≠ CodePoint.emojiSelector ∧ Steady t := by
  constructor
  · intro h
    exact ⟨fun hc => h.joiner (hc ▸ List.mem_cons_self), fun hc => h.selector (hc ▸ List.mem_cons_self),
      h.subset (List.subset_cons_self c t)⟩
  · rintro ⟨hjoiner, hselector, ht⟩
    exact ⟨fun hmem => (List.mem_cons.mp hmem).elim (fun heq => hjoiner heq.symm) ht.joiner,
      fun hmem => (List.mem_cons.mp hmem).elim (fun heq => hselector heq.symm) ht.selector⟩

/-- What the characters of a text take, each by itself. -/
def breadth : Text → Nat
  | [] => 0
  | c :: t => c.columns + breadth t

@[simp] theorem breadth_nil : breadth [] = 0 := rfl

@[simp] theorem breadth_cons (c : CodePoint) (t : Text) : breadth (c :: t) = c.columns + breadth t := rfl

@[simp] theorem breadth_append (s t : Text) : breadth (s ++ t) = breadth s + breadth t := by
  induction s with
  | nil => exact (Nat.zero_add _).symm
  | cons c s ih => rw [List.cons_append, breadth_cons, ih, breadth_cons, Nat.add_assoc]

theorem columnsFrom_of_steady (face : Bool) {t : Text} (h : Steady t) : columnsFrom face t = t.breadth := by
  induction t generalizing face with
  | nil => rfl
  | cons c t ih =>
    obtain ⟨hjoiner, hselector, ht⟩ := steady_cons.mp h
    rw [columnsFrom.eq_def]
    dsimp only
    rw [if_neg hjoiner, if_neg hselector, breadth_cons]
    split
    · rename_i hflat
      rw [ih face ht, hflat, Nat.zero_add]
    · rw [ih _ ht]

theorem columns_of_steady {t : Text} (h : Steady t) : t.columns = t.breadth :=
  columnsFrom_of_steady false h

/-- The cluster takes what its characters take, and no more than one wide character. -/
structure Cluster.Plain (cluster : Cluster) : Prop where
  columns_eq : cluster.columns = cluster.text.breadth
  columns_le : cluster.columns ≤ 2

theorem Cluster.plain_single (c : CodePoint) : Cluster.Plain ⟨[c], c.columns⟩ :=
  ⟨rfl, c.columns_le⟩

theorem Cluster.Plain.extend_flat {cluster : Cluster} (h : cluster.Plain) {c : CodePoint} (hflat : c.columns = 0) :
    (cluster.extend [c] 0).Plain := by
  refine ⟨?_, h.columns_le⟩
  show cluster.columns + 0 = breadth (cluster.text ++ [c])
  rw [breadth_append, breadth_cons, hflat, h.columns_eq]
  rfl

/-- In a steady text, a character either belongs to the cluster before it or starts one. -/
theorem clustersFrom_cons_of_steady {c : CodePoint} {t : Text} (h : Steady (c :: t)) (last : Cluster) (face : Bool) :
    clustersFrom last face (c :: t) =
      if c.columns = 0 then clustersFrom (last.extend [c] 0) face t
      else last :: clustersFrom ⟨[c], c.columns⟩ (c.inTable CodePoint.textFaces) t := by
  obtain ⟨hjoiner, hselector, -⟩ := steady_cons.mp h
  rw [clustersFrom.eq_def]
  dsimp only
  rw [if_neg hjoiner, if_neg hselector]

theorem clusters_cons_of_steady {c : CodePoint} {t : Text} (h : Steady (c :: t)) :
    clusters (c :: t) = clustersFrom ⟨[c], c.columns⟩ (c.inTable CodePoint.textFaces) t := by
  obtain ⟨hjoiner, hselector, -⟩ := steady_cons.mp h
  rw [clusters, if_neg (not_or.mpr ⟨hjoiner, hselector⟩)]

theorem plain_of_mem_clustersFrom {last : Cluster} {face : Bool} {t : Text} (ht : Steady t) (hlast : last.Plain)
    {cluster : Cluster} (h : cluster ∈ clustersFrom last face t) : cluster.Plain := by
  induction t generalizing last face with
  | nil =>
    rw [List.mem_singleton.mp h]
    exact hlast
  | cons c t ih =>
    have hrest : Steady t := (steady_cons.mp ht).2.2
    rw [clustersFrom_cons_of_steady ht] at h
    split at h
    · rename_i hflat
      exact ih hrest (hlast.extend_flat hflat) h
    · rcases List.mem_cons.mp h with rfl | h
      · exact hlast
      · exact ih hrest (Cluster.plain_single c) h

theorem plain_of_mem_clusters {t : Text} (ht : Steady t) {cluster : Cluster} (h : cluster ∈ t.clusters) :
    cluster.Plain := by
  cases t with
  | nil => cases h
  | cons c t =>
    rw [clusters_cons_of_steady ht] at h
    exact plain_of_mem_clustersFrom (steady_cons.mp ht).2.2 (Cluster.plain_single c) h

end Text

end Tidy
