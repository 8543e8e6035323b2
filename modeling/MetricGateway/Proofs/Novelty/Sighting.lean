import MetricGateway.Novelty.KeyCache

/-!
# Sightings of a shard

A shard stores ages, which mean nothing without its reference. What it says about
a key is the bucket of the last sighting, reference plus age, and every operation
is stated against that: moving the reference never changes the bucket of a key
that is kept, and drops exactly the keys seen before the new reference.

Two facts make this exact. No sighting lies before the reference, since ages are
never negative. And no sighting is cut off at the largest age, because a touch
that far behind the reference moves the reference first, to a point from which
the touch is at most the stale threshold away.
-/

namespace MetricGateway.Novelty

namespace Shard

/-- **No sighting lies before the reference.** -/
theorem reference_le_of_lastSeen {s : Shard} {key : SubKey} {n : Nat}
    (h : s.lastSeen key = some n) : s.reference.toNat ≤ n := by
  unfold lastSeen at h
  cases ha : s.ages[key]? with
  | none => rw [ha] at h; simp at h
  | some age =>
      rw [ha] at h
      simp only [Option.map_some, Option.some.injEq] at h
      omega

@[simp] theorem lastSeen_empty (reference : Bucket) (stale : Age) (key : SubKey) :
    (empty reference stale).lastSeen key = none := by
  simp [empty, lastSeen]

theorem contains_ages (s : Shard) (key : SubKey) :
    s.ages.contains key = (s.lastSeen key).isSome := by
  rw [lastSeen, Option.isSome_map, Std.ExtTreeMap.contains_eq_isSome_getElem?]

/-- Shards are told apart by their thresholds, their references and what they say of every key. -/
theorem ext_lastSeen {s t : Shard} (hstale : s.stale = t.stale)
    (href : s.reference.toNat = t.reference.toNat) (hseen : ∀ key, s.lastSeen key = t.lastSeen key) :
    s = t := by
  obtain ⟨stale, reference, ages⟩ := s
  obtain ⟨stale', reference', ages'⟩ := t
  obtain rfl : stale = stale' := hstale
  obtain rfl : reference = reference' := Bucket.ext_toNat href
  refine congrArg (Shard.mk stale reference) (Std.ExtTreeMap.ext_getElem? fun key => ?_)
  -- counted from one reference, different ages are different buckets
  refine Option.map_injective (fun a b h => Age.ext_toNat ?_) (hseen key)
  exact Nat.add_left_cancel h

/-! ## Moving the reference -/

theorem rebase_of_le {s : Shard} {r : Bucket} (h : r.toNat ≤ s.reference.toNat) :
    s.rebase r = s := if_pos (by omega)

theorem rebase_of_lt {s : Shard} {r : Bucket} (h : s.reference.toNat < r.toNat) :
    s.rebase r =
      { s with
        reference := r
        ages := s.ages.filterMap fun _ age => age.sub? (r.toNat - s.reference.toNat) } :=
  if_neg (by omega)

@[simp] theorem stale_rebase (s : Shard) (r : Bucket) : (s.rebase r).stale = s.stale := by
  rcases Nat.lt_or_ge s.reference.toNat r.toNat with h | h
  · rw [rebase_of_lt h]
  · rw [rebase_of_le h]

theorem reference_rebase (s : Shard) (r : Bucket) :
    (s.rebase r).reference.toNat = max s.reference.toNat r.toNat := by
  rcases Nat.lt_or_ge s.reference.toNat r.toNat with h | h
  · rw [rebase_of_lt h]; dsimp only; omega
  · rw [rebase_of_le h]; omega

/-- **Moving the reference drops what was seen before it and changes nothing else.** -/
theorem lastSeen_rebase (s : Shard) (r : Bucket) (key : SubKey) :
    (s.rebase r).lastSeen key = (s.lastSeen key).filter (r.toNat ≤ ·) := by
  rcases Nat.lt_or_ge s.reference.toNat r.toNat with h | h
  · rw [rebase_of_lt h]
    simp only [lastSeen, Std.ExtTreeMap.getElem?_filterMap']
    cases s.ages[key]? with
    | none => rfl
    | some age =>
        -- an age loses the buckets that the reference gains, so the sighting stays where it is
        have hle := age.toNat_le
        simp only [Option.bind_some, Option.map_some, Age.sub?]
        by_cases hkept : r.toNat - s.reference.toNat ≤ age.toNat
        · rw [if_pos hkept, Option.filter_some, if_pos (by simp; omega)]
          simp only [Option.map_some, Age.toNat_clamp, Option.some.injEq]
          omega
        · rw [if_neg hkept, Option.filter_some, if_neg (by simp; omega)]
          rfl
  · rw [rebase_of_le h]
    cases hn : s.lastSeen key with
    | none => rfl
    | some n =>
        have := reference_le_of_lastSeen hn
        rw [Option.filter_some, if_pos (by simp; omega)]

/-- Where the reference is when a touch at a time is recorded. -/
theorem reference_reach (s : Shard) (time : Bucket) :
    (s.reach time).reference.toNat =
      if maxAge < time.toNat - s.reference.toNat then time.toNat - s.stale.toNat
      else s.reference.toNat := by
  have hstale := s.stale.toNat_le
  unfold reach
  split
  · rw [reference_rebase, Bucket.toNat_back]; omega
  · rfl

@[simp] theorem stale_reach (s : Shard) (time : Bucket) : (s.reach time).stale = s.stale := by
  unfold reach; split <;> simp

theorem lastSeen_reach (s : Shard) (time : Bucket) (key : SubKey) :
    (s.reach time).lastSeen key =
      (s.lastSeen key).filter ((s.reach time).reference.toNat ≤ ·) := by
  cases h : s.lastSeen key with
  | none => unfold reach; split <;> simp [lastSeen_rebase, h]
  | some n =>
      have href := reference_le_of_lastSeen h
      have hstale := s.stale.toNat_le
      rw [reference_reach]
      unfold reach
      split
      · rw [lastSeen_rebase, h, Bucket.toNat_back]
      · rw [h, Option.filter_some, if_pos (by simpa using href)]

/-- After a touch has moved the reference, its age fits. -/
theorem between_reach (s : Shard) (time : Bucket) :
    (Age.between (s.reach time).reference time).toNat =
      time.toNat - (s.reach time).reference.toNat := by
  have hstale := s.stale.toNat_le
  have href := reference_reach s time
  have hle : time.toNat - (s.reach time).reference.toNat ≤ maxAge := by
    split at href <;> omega
  rw [Age.between, Age.toNat_clamp]
  exact Nat.min_eq_left hle

/-! ## Touch, forget, prune -/

theorem touch_fst (s : Shard) (key : SubKey) (time : Bucket) :
    (s.touch key time).1 = ((s.reach time).lastSeen key).isSome := contains_ages _ _

@[simp] theorem stale_touch (s : Shard) (key : SubKey) (time : Bucket) :
    (s.touch key time).2.stale = s.stale := stale_reach s time

theorem reference_touch (s : Shard) (key : SubKey) (time : Bucket) :
    (s.touch key time).2.reference = (s.reach time).reference := rfl

/-- A touch sets the sighting of its key, to the reference if that lies ahead. -/
theorem lastSeen_touch (s : Shard) (key other : SubKey) (time : Bucket) :
    (s.touch key time).2.lastSeen other =
      if other = key then some (max time.toNat (s.reach time).reference.toNat)
      else (s.reach time).lastSeen other := by
  have hage := between_reach s time
  simp only [touch, lastSeen, Std.ExtTreeMap.getElem?_insert, Std.LawfulEqCmp.compare_eq_iff_eq]
  by_cases h : other = key
  · rw [if_pos h, if_pos h.symm, Option.map_some, hage]
    congr 1; omega
  · rw [if_neg h, if_neg (Ne.symm h)]

theorem forget_fst (s : Shard) (key : SubKey) :
    (s.forget key).1 = (s.lastSeen key).isSome := contains_ages _ _

@[simp] theorem stale_forget (s : Shard) (key : SubKey) : (s.forget key).2.stale = s.stale := rfl

theorem lastSeen_forget (s : Shard) (key other : SubKey) :
    (s.forget key).2.lastSeen other = if other = key then none else s.lastSeen other := by
  simp only [forget, lastSeen, Std.ExtTreeMap.getElem?_erase, Std.LawfulEqCmp.compare_eq_iff_eq]
  by_cases h : other = key
  · rw [if_pos h, if_pos h.symm]; rfl
  · rw [if_neg h, if_neg (Ne.symm h)]

@[simp] theorem stale_prune (s : Shard) (now : Bucket) : (s.prune now).stale = s.stale :=
  stale_rebase _ _

theorem reference_prune (s : Shard) (now : Bucket) :
    (s.prune now).reference.toNat = max s.reference.toNat (now.toNat - s.stale.toNat) := by
  rw [prune, reference_rebase, Bucket.toNat_later, Bucket.toNat_back]; omega

/-- **A prune drops exactly what was last seen before the stale threshold.** -/
theorem lastSeen_prune (s : Shard) (now : Bucket) (key : SubKey) :
    (s.prune now).lastSeen key = (s.lastSeen key).filter (now.toNat - s.stale.toNat ≤ ·) := by
  rw [prune, lastSeen_rebase]
  cases h : s.lastSeen key with
  | none => rfl
  | some n =>
      have href := reference_le_of_lastSeen h
      rw [Option.filter_some, Option.filter_some, Bucket.toNat_later, Bucket.toNat_back]
      congr 1
      simp only [decide_eq_true_eq]
      exact propext (by omega)

/-- A shard is empty if it has seen no key. -/
theorem isEmpty_iff (s : Shard) : s.isEmpty = true ↔ ∀ key, s.lastSeen key = none := by
  have hempty : s.isEmpty = true ↔ s.ages = ∅ := by
    rw [← Std.ExtTreeMap.isEmpty_iff, Std.ExtTreeMap.isEmpty_eq_size_beq_zero]; rfl
  rw [hempty]
  constructor
  · intro h key
    rw [lastSeen, h, Std.ExtTreeMap.getElem?_empty]; rfl
  · intro h
    refine Std.ExtTreeMap.ext_getElem? fun key => ?_
    rw [Std.ExtTreeMap.getElem?_empty]
    exact Option.map_eq_none_iff.mp (h key)

end Shard

end MetricGateway.Novelty
