import MetricGateway.Proofs.Novelty.Count

/-!
# Touches that come late

Whoever touches a key reads the clock first and waits for the shard afterwards, so
touches reach a shard out of order. As long as their times are within the largest
age of the reference, none of them moves it, and every touch writes its own bucket
under its key. What stands under a key in the end is the touch that was **applied
last**, which need not be the latest one.

A key is expected to stay as long as some sighting of it is fresh. It does unless
the touch that was applied last lies before the threshold: then this late touch has
taken the key back to before the threshold, and the next prune drops it although it
has been seen since. The order in which touches are applied matters for the same
reason, and only as far as it decides which touch of a key is the last.
-/

namespace MetricGateway.Novelty

/-- The buckets of the touches of a key, in the order in which they are applied. -/
def bucketsOf (key : SubKey) (touches : List (SubKey × Bucket)) : List Nat :=
  touches.filterMap fun touch => if touch.1 = key then some touch.2.toNat else none

/-- The last applied touch of a key, if there is one, lies before a threshold. -/
def AppliedLate (touches : List (SubKey × Bucket)) (key : SubKey) (threshold : Nat) : Prop :=
  ∃ n, (bucketsOf key touches).getLast? = some n ∧ n < threshold

namespace Shard

/-- What touches leave of a shard, one after the other. -/
def touchAll (s : Shard) (touches : List (SubKey × Bucket)) : Shard :=
  touches.foldl (fun s touch => (s.touch touch.1 touch.2).2) s

/-- A time that a shard can count from where its reference is. -/
structure InReach (s : Shard) (time : Bucket) : Prop where
  reference_le : s.reference.toNat ≤ time.toNat
  le_horizon : time.toNat ≤ s.reference.toNat + maxAge

/-- A key has been seen in a bucket, by one of the touches or before them. -/
def SeenIn (s : Shard) (touches : List (SubKey × Bucket)) (key : SubKey) (n : Nat) : Prop :=
  n ∈ bucketsOf key touches ∨ s.lastSeen key = some n

variable {s : Shard} {touches others : List (SubKey × Bucket)} {key : SubKey} {threshold : Nat}

/-! ## What touches leave -/

/-- A touch within reach moves no reference. -/
theorem reference_touch_of_inReach {time : Bucket} (h : s.InReach time) (key : SubKey) :
    (s.touch key time).2.reference = s.reference := by
  rw [reference_touch, reach_of_le h.le_horizon]

/-- A touch within reach writes its bucket under its key, and nothing else. -/
theorem lastSeen_touch_of_inReach {time : Bucket} (h : s.InReach time) (key other : SubKey) :
    (s.touch key time).2.lastSeen other =
      if other = key then some time.toNat else s.lastSeen other := by
  rw [lastSeen_touch, reach_of_le h.le_horizon, Nat.max_eq_left h.reference_le]

theorem inReach_touch {time later : Bucket} (h : s.InReach time) (hlater : s.InReach later)
    (key : SubKey) : (s.touch key time).2.InReach later := by
  have href := reference_touch_of_inReach h key
  exact ⟨by rw [href]; exact hlater.reference_le, by rw [href]; exact hlater.le_horizon⟩

@[simp] theorem stale_touchAll (s : Shard) (touches : List (SubKey × Bucket)) :
    (s.touchAll touches).stale = s.stale := by
  induction touches generalizing s with
  | nil => rfl
  | cons touch rest ih => exact (ih _).trans (stale_touch s touch.1 touch.2)

theorem reference_touchAll (h : ∀ touch ∈ touches, s.InReach touch.2) :
    (s.touchAll touches).reference = s.reference := by
  induction touches generalizing s with
  | nil => rfl
  | cons touch rest ih =>
      obtain ⟨hfirst, hrest⟩ := List.forall_mem_cons.mp h
      have hleft := ih fun later hlater => inReach_touch hfirst (hrest later hlater) touch.1
      exact hleft.trans (reference_touch_of_inReach hfirst touch.1)

/-- **What stands under a key is the touch that has been applied last**, or what was there if there
is none. -/
theorem lastSeen_touchAll (h : ∀ touch ∈ touches, s.InReach touch.2) (key : SubKey) :
    (s.touchAll touches).lastSeen key =
      (bucketsOf key touches).getLast?.or (s.lastSeen key) := by
  induction touches generalizing s with
  | nil => rfl
  | cons touch rest ih =>
      obtain ⟨hfirst, hrest⟩ := List.forall_mem_cons.mp h
      have hleft := ih fun later hlater => inReach_touch hfirst (hrest later hlater) touch.1
      refine hleft.trans ?_
      rw [lastSeen_touch_of_inReach hfirst]
      by_cases hkey : touch.1 = key
      · have hbuckets : bucketsOf key (touch :: rest) = touch.2.toNat :: bucketsOf key rest :=
          List.filterMap_cons_some (if_pos hkey)
        rw [if_pos hkey.symm, hbuckets, List.getLast?_cons]
        cases (bucketsOf key rest).getLast? <;> rfl
      · have hbuckets : bucketsOf key (touch :: rest) = bucketsOf key rest :=
          List.filterMap_cons_none (if_neg hkey)
        rw [if_neg (Ne.symm hkey), hbuckets]

/-! ## Which keys stay -/

/-- **A key stays if it has been seen at the threshold or since, and the last touch of it was not
late.** -/
theorem kept_iff :
    ((bucketsOf key touches).getLast?.or (s.lastSeen key)).filter (threshold ≤ ·) ≠ none ↔
      (∃ n, s.SeenIn touches key n ∧ threshold ≤ n) ∧ ¬ AppliedLate touches key threshold := by
  rw [Ne, Option.filter_eq_none_iff]
  cases hlast : (bucketsOf key touches).getLast? with
  | none =>
      have hnil : bucketsOf key touches = [] := List.getLast?_eq_none_iff.mp hlast
      simp [SeenIn, AppliedLate, hnil]
  | some n =>
      have hmem : n ∈ bucketsOf key touches := List.mem_of_getLast? hlast
      simp only [AppliedLate, hlast, Option.some_or, Option.some.injEq, forall_eq',
        exists_eq_left', decide_eq_true_eq, not_not, not_lt]
      exact ⟨fun hle => ⟨⟨n, Or.inl hmem, hle⟩, hle⟩, And.right⟩

/-- If no sighting is later than the touch that was applied last, that was not late. -/
theorem not_appliedLate_of_latest {m : Nat}
    (h : ∀ n, (bucketsOf key touches).getLast? = some n → ∀ m, s.SeenIn touches key m → m ≤ n)
    (hseen : s.SeenIn touches key m) (hm : threshold ≤ m) :
    ¬ AppliedLate touches key threshold := by
  rintro ⟨n, hlast, hn⟩
  have hle := h n hlast m hseen
  omega

/-! ## The order of touches -/

/-- Where either both or none of two answers are there, what stands behind them makes no difference
to whether they agree. -/
theorem or_agree_iff {α : Type} {a b : Option Nat} (h : a = none ↔ b = none) (rest : Option Nat)
    (f : Option Nat → α) : f (a.or rest) = f (b.or rest) ↔ f a = f b := by
  cases a with
  | none =>
      obtain rfl : b = none := h.mp rfl
      exact iff_of_true rfl rfl
  | some n =>
      cases b with
      | none => exact absurd (h.mpr rfl) (by simp)
      | some m => exact Iff.rfl

theorem getLast?_eq_none_iff_of_perm (h : touches.Perm others) (key : SubKey) :
    (bucketsOf key touches).getLast? = none ↔ (bucketsOf key others).getLast? = none := by
  have hperm : (bucketsOf key touches).Perm (bucketsOf key others) := h.filterMap _
  rw [List.getLast?_eq_none_iff, List.getLast?_eq_none_iff, ← List.length_eq_zero_iff,
    hperm.length_eq, List.length_eq_zero_iff]

theorem inReach_of_perm (h : ∀ touch ∈ touches, s.InReach touch.2) (hperm : touches.Perm others) :
    ∀ touch ∈ others, s.InReach touch.2 :=
  fun touch hmem => h touch (hperm.mem_iff.mpr hmem)

/-- Another order of the same touches says the same of a key as far as the last touches of it are the
same. -/
theorem lastSeen_agree_iff {α : Type} (h : ∀ touch ∈ touches, s.InReach touch.2)
    (hperm : touches.Perm others) (key : SubKey) (f : Option Nat → α) :
    f ((s.touchAll touches).lastSeen key) = f ((s.touchAll others).lastSeen key) ↔
      f (bucketsOf key touches).getLast? = f (bucketsOf key others).getLast? := by
  rw [lastSeen_touchAll h, lastSeen_touchAll (inReach_of_perm h hperm)]
  exact or_agree_iff (getLast?_eq_none_iff_of_perm hperm key) _ f

/-- **Another order of the same touches leaves the same shard if and only if every key has the same
last touch.** -/
theorem touchAll_eq_iff (h : ∀ touch ∈ touches, s.InReach touch.2) (hperm : touches.Perm others) :
    s.touchAll touches = s.touchAll others ↔
      ∀ key, (bucketsOf key touches).getLast? = (bucketsOf key others).getLast? := by
  have href : (s.touchAll touches).reference = (s.touchAll others).reference := by
    rw [reference_touchAll h, reference_touchAll (inReach_of_perm h hperm)]
  constructor
  · intro heq key
    exact (lastSeen_agree_iff h hperm key id).mp (by rw [heq])
  · intro hlast
    exact ext_lastSeen (by simp) (congrArg _ href)
      fun key => (lastSeen_agree_iff h hperm key id).mpr (hlast key)

/-- After a prune, touches before the threshold are all the same. -/
theorem prune_touchAll_eq_iff (h : ∀ touch ∈ touches, s.InReach touch.2)
    (hperm : touches.Perm others) (now : Bucket) :
    (s.touchAll touches).prune now = (s.touchAll others).prune now ↔
      ∀ key, (bucketsOf key touches).getLast?.filter (now.toNat - s.stale.toNat ≤ ·) =
        (bucketsOf key others).getLast?.filter (now.toNat - s.stale.toNat ≤ ·) := by
  have href : ((s.touchAll touches).prune now).reference.toNat =
      ((s.touchAll others).prune now).reference.toNat := by
    simp only [reference_prune, stale_touchAll, reference_touchAll h,
      reference_touchAll (inReach_of_perm h hperm)]
  have hseen : ∀ key, ((s.touchAll touches).prune now).lastSeen key =
      ((s.touchAll others).prune now).lastSeen key ↔
      (bucketsOf key touches).getLast?.filter (now.toNat - s.stale.toNat ≤ ·) =
        (bucketsOf key others).getLast?.filter (now.toNat - s.stale.toNat ≤ ·) := by
    intro key
    rw [lastSeen_prune, lastSeen_prune, stale_touchAll, stale_touchAll]
    exact lastSeen_agree_iff h hperm key (Option.filter (now.toNat - s.stale.toNat ≤ ·))
  constructor
  · intro heq key
    exact (hseen key).mp (by rw [heq])
  · intro hlast
    exact ext_lastSeen (by simp) href fun key => (hseen key).mpr (hlast key)

/-- **The touch that has been applied last decides about a key.**

Take any shard, any touches of it with times from its reference to the largest age behind that, in
any order, and a prune. A key stays if and only if it has been seen at the stale threshold or since,
by one of the touches or before them, and the last applied touch of it does not lie before the
threshold. So the latest sighting decides if it is the one that has been applied last, and need not
otherwise. Other orders of the touches leave the same shard exactly if every key has the same last
touch, and the same after the prune exactly if it has the same where that is fresh. -/
theorem last_applied_touch_decides (h : ∀ touch ∈ touches, s.InReach touch.2) (now : Bucket) :
    let threshold := now.toNat - s.stale.toNat
    (∀ key, ((s.touchAll touches).prune now).lastSeen key ≠ none ↔
        (∃ n, s.SeenIn touches key n ∧ threshold ≤ n) ∧ ¬ AppliedLate touches key threshold)
      ∧ (∀ key,
        (∀ n, (bucketsOf key touches).getLast? = some n → ∀ m, s.SeenIn touches key m → m ≤ n) →
        (((s.touchAll touches).prune now).lastSeen key ≠ none ↔
          ∃ n, s.SeenIn touches key n ∧ threshold ≤ n))
      ∧ ∀ others, touches.Perm others →
        (s.touchAll touches = s.touchAll others ↔
          ∀ key, (bucketsOf key touches).getLast? = (bucketsOf key others).getLast?)
        ∧ ((s.touchAll touches).prune now = (s.touchAll others).prune now ↔
          ∀ key, (bucketsOf key touches).getLast?.filter (threshold ≤ ·) =
            (bucketsOf key others).getLast?.filter (threshold ≤ ·)) := by
  intro threshold
  have hkept : ∀ key, ((s.touchAll touches).prune now).lastSeen key ≠ none ↔
      (∃ n, s.SeenIn touches key n ∧ threshold ≤ n) ∧ ¬ AppliedLate touches key threshold := by
    intro key
    rw [lastSeen_prune, lastSeen_touchAll h, stale_touchAll]
    exact kept_iff
  refine ⟨hkept, fun key hlatest => ?_, fun others hperm =>
    ⟨touchAll_eq_iff h hperm, prune_touchAll_eq_iff h hperm now⟩⟩
  rw [hkept key]
  refine and_iff_left_of_imp ?_
  rintro ⟨m, hseen, hm⟩
  exact not_appliedLate_of_latest hlatest hseen hm

/-- A key is touched in bucket 1001, and a touch that has read the clock a bucket earlier comes
behind. At 1037, with a threshold of 36 buckets, the key has been seen since the threshold, and the
prune drops it. Had the two touches come the other way round, it would stay. -/
theorem last_applied_touch_decides_of_late :
    let s : Shard := .empty ⟨1000⟩ (.clamp 36)
    let key : SubKey := .replicate 15 1
    let touches : List (SubKey × Bucket) := [(key, ⟨1001⟩), (key, ⟨1000⟩)]
    (∀ touch ∈ touches, s.InReach touch.2) ∧ s.SeenIn touches key 1001
      ∧ ((s.touchAll touches).prune ⟨1037⟩).lastSeen key = none
      ∧ ((s.touchAll touches.reverse).prune ⟨1037⟩).lastSeen key ≠ none
      ∧ s.touchAll touches ≠ s.touchAll touches.reverse := by
  intro s key touches
  have hreach : ∀ touch ∈ touches, s.InReach touch.2 := by
    intro touch hmem
    simp only [touches, List.mem_cons, List.not_mem_nil, or_false] at hmem
    rcases hmem with rfl | rfl <;> exact ⟨by decide, by decide⟩
  have hforward : bucketsOf key touches = [1001, 1000] := by decide
  have hbackward : bucketsOf key touches.reverse = [1000, 1001] := by decide
  obtain ⟨hkept, -, horder⟩ := last_applied_touch_decides hreach ⟨1037⟩
  obtain ⟨hsame, -⟩ := horder touches.reverse (List.reverse_perm _).symm
  obtain ⟨-, hlatest, -⟩ := last_applied_touch_decides
    (fun touch hmem => hreach touch (List.mem_reverse.mp hmem)) ⟨1037⟩
  refine ⟨hreach, Or.inl (by rw [hforward]; simp), ?_, ?_, fun heq => ?_⟩
  · by_contra hne
    refine ((hkept key).mp hne).2 ⟨1000, by rw [hforward]; rfl, by decide⟩
  · refine (hlatest key ?_).mpr ⟨1001, Or.inl (by rw [hbackward]; simp), by decide⟩
    rintro n hn m (hm | hm)
    · rw [hbackward] at hn hm
      obtain rfl : 1001 = n := Option.some.inj hn
      simp only [List.mem_cons, List.not_mem_nil, or_false] at hm
      omega
    · rw [lastSeen_empty] at hm
      cases hm
  · have hlast := hsame.mp heq key
    rw [hforward, hbackward] at hlast
    exact absurd hlast (by decide)

end Shard

end MetricGateway.Novelty
