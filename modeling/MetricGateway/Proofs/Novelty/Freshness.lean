import MetricGateway.Proofs.Novelty.Moment

/-!
# Sightings that stay fresh

The window of the cache says what the last touch of a slot leads to. Where a slot
is touched again and again, by calls that nobody has chosen, it is enough to know
bounds for the sighting. From below: a slot that was seen since some bucket stays
so, whatever is touched or pruned within the threshold of that bucket. From above:
no sighting is later than the clock.
-/

namespace MetricGateway.Novelty

/-- A call that does not spare a slot names a series of it. -/
theorem Call.exists_key_of_not_spares {call : Call} {n : Nat} {slot : Slot}
    (h : ¬ call.Spares n slot) : ∃ key, call.key? = some key ∧ slot = slotOf n key := by
  obtain ⟨key, hkey⟩ := Classical.not_forall.mp h
  obtain ⟨hnamed, hslot⟩ := Classical.not_imp.mp hkey
  exact ⟨key, hnamed, (Classical.not_not.mp hslot).symm⟩

namespace KeyCache

/-- A series was seen in a bucket or later. -/
def SeenSince (c : KeyCache) (key : MetricKey) (first : Nat) : Prop :=
  ∃ n, c.lastSeen key = some n ∧ first ≤ n

/-! ## From below -/

theorem seenSince_touch {c : KeyCache} (hc : c.Uniform) {key other : MetricKey}
    (hslot : slotOf c.shardCount other = slotOf c.shardCount key) (now : Timestamp) :
    (c.touch key now).2.SeenSince other (Bucket.ofTimestamp now).toNat :=
  ⟨_, by rw [lastSeen_touch hc, if_pos hslot], Nat.le_max_left _ _⟩

/-- What was seen within the threshold of a touch is found by it. -/
theorem finds_of_seenSince {c : KeyCache} (hc : c.Uniform) {key : MetricKey} {first : Nat}
    {now : Timestamp} (h : c.SeenSince key first)
    (hnow : (Bucket.ofTimestamp now).toNat ≤ first + c.stale.toNat) : c.Finds now key := by
  obtain ⟨n, hn, hle⟩ := h
  exact touch_of_fresh hc hn (by omega)

/-- **Calls within the threshold keep a slot fresh**, unless they forget it. -/
theorem seenSince_apply {c : KeyCache} (hc : c.Uniform) {call : Call} {key : MetricKey}
    {first : Nat} (h : c.SeenSince key first)
    (htime : ∀ now, call.time? = some now → first ≤ (Bucket.ofTimestamp now).toNat
      ∧ (Bucket.ofTimestamp now).toNat ≤ first + c.stale.toNat)
    (hforget : ∀ k, call = .forget k → slotOf c.shardCount key ≠ slotOf c.shardCount k) :
    (call.apply c).SeenSince key first := by
  obtain ⟨n, hn, hle⟩ := h
  by_cases hspares : call.Spares c.shardCount (slotOf c.shardCount key)
  · -- the sighting is kept as it is
    refine ⟨n, lastSeen_apply hc hspares hn fun now hnow => ?_, hle⟩
    have := htime now hnow
    omega
  · -- the slot is named, and not by a forget, so it is seen again
    obtain ⟨other, hnamed, hslot⟩ := Call.exists_key_of_not_spares hspares
    cases call with
    | touch _ now =>
        cases hnamed
        obtain ⟨m, hm, hnow⟩ := seenSince_touch hc hslot now
        exact ⟨m, hm, Nat.le_trans (htime now rfl).1 hnow⟩
    | forget _ => cases hnamed; exact absurd hslot (hforget other rfl)
    | prune _ => cases hnamed

theorem seenSince_run {c : KeyCache} (hc : c.Uniform) {calls : List Call} {key : MetricKey}
    {first : Nat} (h : c.SeenSince key first)
    (htime : ∀ call ∈ calls, ∀ now, call.time? = some now → first ≤ (Bucket.ofTimestamp now).toNat
      ∧ (Bucket.ofTimestamp now).toNat ≤ first + c.stale.toNat)
    (hforget : ∀ k, .forget k ∈ calls → slotOf c.shardCount key ≠ slotOf c.shardCount k) :
    (c.run calls).SeenSince key first := by
  induction calls generalizing c with
  | nil => exact h
  | cons call rest ih =>
      have hcall := seenSince_apply hc h (htime call (List.mem_cons_self ..))
        fun k hk => hforget k (hk ▸ List.mem_cons_self ..)
      refine ih (uniform_apply hc call) hcall ?_ ?_
      · rw [stale_apply]
        exact fun other hmem => htime other (List.mem_cons_of_mem _ hmem)
      · rw [shardCount_apply]
        exact fun k hmem => hforget k (List.mem_cons_of_mem _ hmem)

/-- Whatever is touched at a time was seen then, after all touches of that time. -/
theorem seenSince_run_touches {c : KeyCache} (hc : c.Uniform) {now : Timestamp}
    {keys : List MetricKey} {key : MetricKey} (hkey : key ∈ keys) :
    (c.run (touches now keys)).SeenSince key (Bucket.ofTimestamp now).toNat := by
  obtain ⟨before, after, rfl⟩ := List.append_of_mem hkey
  have hrun := uniform_run hc (touches now before)
  have hsplit : c.run (touches now (before ++ key :: after)) =
      ((c.run (touches now before)).touch key now).2.run (touches now after) := by
    rw [touches, List.map_append, run_append]; rfl
  rw [hsplit]
  refine seenSince_run (uniform_touch hrun key now) (seenSince_touch hrun rfl now) ?_ ?_
  · intro call hmem other htime
    obtain ⟨k, -, rfl⟩ := List.mem_map.mp hmem
    cases htime
    exact ⟨Nat.le_refl _, Nat.le_add_right _ _⟩
  · intro k hmem
    obtain ⟨k', -, hne⟩ := List.mem_map.mp hmem
    cases hne

/-! ## From above -/

/-- Calls until some bucket leave no later sightings. -/
theorem lastSeen_apply_le {c : KeyCache} (hc : c.Uniform) {call : Call} {key : MetricKey}
    {last : Nat} (hwithin : c.Within last) (h : ∀ n, c.lastSeen key = some n → n ≤ last)
    (htime : ∀ now, call.time? = some now → (Bucket.ofTimestamp now).toNat ≤ last) :
    ∀ n, (call.apply c).lastSeen key = some n → n ≤ last := by
  intro n hn
  by_cases hspares : call.Spares c.shardCount (slotOf c.shardCount key)
  · exact h n (lastSeen_of_apply hc hspares hn)
  · obtain ⟨other, hnamed, hslot⟩ := Call.exists_key_of_not_spares hspares
    cases call with
    | touch _ now =>
        cases hnamed
        have hnow := htime now rfl
        have horigin : c.origin other (.ofTimestamp now) ≤ last :=
          origin_le_of_within hc hwithin hnow
        rw [Call.apply, lastSeen_touch hc, if_pos hslot, Option.some.injEq] at hn
        omega
    | forget _ =>
        cases hnamed
        rw [Call.apply, lastSeen_forget hc, if_pos hslot] at hn
        cases hn
    | prune _ => cases hnamed

/-- **No sighting is later than the clock.** -/
theorem lastSeen_run_le {c : KeyCache} (hc : c.Uniform) {calls : List Call} {key : MetricKey}
    {last : Nat} (hwithin : c.Within last) (h : ∀ n, c.lastSeen key = some n → n ≤ last)
    (htime : ∀ call ∈ calls, ∀ now, call.time? = some now →
      (Bucket.ofTimestamp now).toNat ≤ last) :
    ∀ n, (c.run calls).lastSeen key = some n → n ≤ last := by
  induction calls generalizing c with
  | nil => exact h
  | cons call rest ih =>
      have hcall := htime call (List.mem_cons_self ..)
      exact ih (uniform_apply hc call) (within_apply hwithin call hcall)
        (lastSeen_apply_le hc hwithin h hcall)
        fun other hmem => htime other (List.mem_cons_of_mem _ hmem)

/-- **A prune further away than the threshold of all sightings leaves none**, unless the slot is
named again. -/
theorem not_knows_run_of_prune {c : KeyCache} (hc : c.Uniform) {calls : List Call}
    {key : MetricKey} {last : Nat} {now : Timestamp}
    (h : ∀ n, c.lastSeen key = some n → n ≤ last)
    (hspares : ∀ call ∈ calls, call.Spares c.shardCount (slotOf c.shardCount key))
    (hprune : .prune now ∈ calls) (hfar : last + c.stale.toNat < (Bucket.ofTimestamp now).toNat) :
    ¬ (c.run calls).Knows key := by
  intro hknows
  obtain ⟨n, hn⟩ := Option.isSome_iff_exists.mp hknows
  have hold := lastSeen_of_run hc hspares hn
  have hgone := lastSeen_run_of_prune hc hspares hold hprune (by have := h n hold; omega)
  rw [hn] at hgone
  cases hgone

end KeyCache

end MetricGateway.Novelty
