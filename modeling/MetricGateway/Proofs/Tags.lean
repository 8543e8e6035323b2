import Mathlib.Data.List.Sort
import MetricGateway.Metric

/-!
# Sorted tags

The tags of a series are a set that happens to be listed. Sorting them and
dropping repetitions picks one list for every set: it has the same members, it
is strictly sorted, and there is only one list like that.
-/

namespace MetricGateway

/-- Dropping repetitions drops no member. -/
theorem mem_dropRepeats {tag : String} {tags : List String} :
    tag ∈ dropRepeats tags ↔ tag ∈ tags := by
  fun_induction dropRepeats tags with
  | case1 => rfl
  | case2 s => rfl
  | case3 s rest ih => rw [ih]; simp
  | case4 s t rest _ ih =>
      rw [List.mem_cons, ih]
      exact List.mem_cons.symm

/-- Repetitions in a sorted list stand side by side. -/
theorem pairwise_dropRepeats {tags : List String} (h : tags.Pairwise (· ≤ ·)) :
    (dropRepeats tags).Pairwise (· < ·) := by
  fun_induction dropRepeats tags with
  | case1 => exact .nil
  | case2 s => exact List.pairwise_singleton ..
  | case3 s rest ih => exact ih (List.pairwise_cons.mp h).2
  | case4 s t rest hne ih =>
      obtain ⟨hs, hrest⟩ := List.pairwise_cons.mp h
      refine List.pairwise_cons.mpr ⟨fun u hu => ?_, ih hrest⟩
      -- the two at the front differ, and all behind them are at least the second
      have hst : s < t := Std.lt_of_le_of_ne (hs t (List.mem_cons_self ..)) hne
      rcases List.mem_cons.mp (mem_dropRepeats.mp hu) with rfl | hu
      · exact hst
      · exact Std.lt_of_lt_of_le hst ((List.pairwise_cons.mp hrest).1 u hu)

theorem pairwise_sortTexts (tags : List String) : (sortTexts tags).Pairwise (· ≤ ·) := by
  have h : (sortTexts tags).Pairwise fun a b => decide (a ≤ b) = true :=
    List.pairwise_mergeSort (by simpa using fun a b c => String.le_trans)
      (by simpa using String.le_total) tags
  exact h.imp of_decide_eq_true

/-- There is one way only to sort tags. -/
theorem eq_sortTexts {tags sorted : List String} (hperm : sorted.Perm tags)
    (hsorted : sorted.Pairwise (· ≤ ·)) : sorted = sortTexts tags :=
  (hperm.trans (List.mergeSort_perm tags _).symm).eq_of_pairwise
    (fun _ _ _ _ => String.le_antisymm) hsorted (pairwise_sortTexts tags)

theorem mem_sortedTags {tag : String} {tags : List String} :
    tag ∈ sortedTags tags ↔ tag ∈ tags := by
  rw [sortedTags, mem_dropRepeats, sortTexts, List.mem_mergeSort]

theorem pairwise_sortedTags (tags : List String) : (sortedTags tags).Pairwise (· < ·) :=
  pairwise_dropRepeats (pairwise_sortTexts tags)

/-- **Sorting picks one list for every set of tags.** -/
theorem sortedTags_congr {tags others : List String}
    (h : ∀ tag, tag ∈ tags ↔ tag ∈ others) : sortedTags tags = sortedTags others := by
  refine (pairwise_sortedTags tags).eq_of_mem_iff (pairwise_sortedTags others) fun tag => ?_
  rw [mem_sortedTags, h, mem_sortedTags]

/-- Tags are sorted to the same list if and only if they are the same set. -/
theorem sortedTags_eq_iff {tags others : List String} :
    sortedTags tags = sortedTags others ↔ ∀ tag, tag ∈ tags ↔ tag ∈ others := by
  refine ⟨fun h tag => ?_, sortedTags_congr⟩
  rw [← mem_sortedTags, h, mem_sortedTags]

/-- Only strictly sorted tags are left as they are. -/
theorem sortedTags_eq_self_iff {tags : List String} :
    sortedTags tags = tags ↔ tags.Pairwise (· < ·) := by
  constructor
  · intro h
    rw [← h]
    exact pairwise_sortedTags tags
  · intro h
    exact (pairwise_sortedTags tags).eq_of_mem_iff h fun _ => mem_sortedTags

end MetricGateway
