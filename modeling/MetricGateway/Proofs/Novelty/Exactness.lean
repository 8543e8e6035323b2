import MetricGateway.Proofs.Novelty.Sighting

/-!
# The exact map behind a shard

A shard stores one byte per key, relative to a reference that moves on some
touches and on prunes. What it stands for is a plain map from keys to buckets,
without bytes, words and limits: a touch writes a bucket into it, a forget takes
one out, and whenever the reference moves, the buckets before it go. This module
defines that map with its three operations and shows that a shard answers every
call as the map does, whatever the times of the calls and in whatever order they
come.

Each operation of the shard is compared with its counterpart through the laws of
`lastSeen`. Nothing is lost to the limits of bytes and words for two reasons: a
touch that would not fit moves the reference to within the threshold first, and
no bucket of the map lies behind the last one that calls can name.
-/

namespace MetricGateway.Novelty

/-- When keys were last seen, in numbers without limits. -/
@[ext] structure Sightings where
  /-- Nothing seen before this bucket is kept. -/
  reference : Nat
  /-- The bucket in which every key was last seen. -/
  seen : Std.ExtTreeMap SubKey Nat

namespace Sightings

/-- The order of keys, named once for the maps of this module. -/
local instance keyOrder : Std.TransCmp (compare : SubKey → SubKey → Ordering) := inferInstance

/-- No sightings at all. -/
def empty (reference : Nat) : Sightings := ⟨reference, ∅⟩

/-- Sets the reference and drops what was seen before it. -/
def moveTo (a : Sightings) (reference : Nat) : Sightings :=
  ⟨reference, a.seen.filter fun _ n => reference ≤ n⟩

/-- Moves the reference to where keys grow stale, if a time is more than 255 buckets behind it. -/
def reach (stale : Nat) (a : Sightings) (time : Nat) : Sightings :=
  if 255 < time - a.reference then a.moveTo (time - stale) else a

/-- Records a sighting, at the reference if that lies ahead. Says whether the key was there. -/
def touch (stale : Nat) (a : Sightings) (key : SubKey) (time : Nat) : Bool × Sightings :=
  let a := a.reach stale time
  (a.seen.contains key, { a with seen := a.seen.insert key (max time a.reference) })

/-- Removes a key. Says whether it was there. -/
def forget (a : Sightings) (key : SubKey) : Bool × Sightings :=
  (a.seen.contains key, { a with seen := a.seen.erase key })

/-- Moves the reference forward to where keys grow stale. Says how many keys are left. -/
def prune (stale : Nat) (a : Sightings) (now : Nat) : Nat × Sightings :=
  let a := a.moveTo (max a.reference (now - stale))
  (a.seen.size, a)

/-- A reference in a word, and sightings that are a byte behind it and in a word too. -/
structure Fits (a : Sightings) : Prop where
  reference : a.reference ≤ 2 ^ 32 - 1
  ahead : ∀ (key : SubKey) (n : Nat), a.seen[key]? = some n → a.reference ≤ n
  age : ∀ (key : SubKey) (n : Nat), a.seen[key]? = some n → n - a.reference ≤ 255
  bucket : ∀ (key : SubKey) (n : Nat), a.seen[key]? = some n → n ≤ 2 ^ 32 - 1

theorem getElem?_moveTo (a : Sightings) (reference : Nat) (key : SubKey) :
    (a.moveTo reference).seen[key]? = a.seen[key]?.filter (reference ≤ ·) :=
  Std.ExtTreeMap.getElem?_filter'

end Sightings

/-- A call of a shard. -/
inductive ShardCall where
  | touch (key : SubKey) (time : Bucket)
  | forget (key : SubKey)
  | prune (now : Bucket)
  deriving DecidableEq, Repr

/-- What a call is answered. -/
inductive ShardAnswer where
  /-- Whether the key was there before. -/
  | known (before : Bool)
  /-- How many keys are left. -/
  | left (count : Nat)
  deriving DecidableEq, Repr

namespace ShardCall

/-- The key that a call names. -/
def key? : ShardCall → Option SubKey
  | touch key _ => some key
  | forget key => some key
  | prune _ => none

/-- A call of a shard. -/
def onShard (call : ShardCall) (s : Shard) : ShardAnswer × Shard :=
  match call with
  | touch key time => let (before, s) := s.touch key time; (.known before, s)
  | forget key => let (before, s) := s.forget key; (.known before, s)
  | prune now => let s := s.prune now; (.left s.size, s)

/-- The same call of an exact map. -/
def onSightings (stale : Nat) (call : ShardCall) (a : Sightings) : ShardAnswer × Sightings :=
  match call with
  | touch key time => let (before, a) := a.touch stale key time.toNat; (.known before, a)
  | forget key => let (before, a) := a.forget key; (.known before, a)
  | prune now => let (count, a) := a.prune stale now.toNat; (.left count, a)

/-- All answers to calls, and what they leave. -/
def run {α : Type} (op : ShardCall → α → ShardAnswer × α) :
    List ShardCall → α → List ShardAnswer × α
  | [], s => ([], s)
  | call :: rest, s =>
    let (answer, s) := op call s
    let (answers, s) := run op rest s
    (answer :: answers, s)

end ShardCall

namespace Shard

/-- The exact map that a shard stands for. -/
def sightings (s : Shard) : Sightings :=
  ⟨s.reference.toNat, s.ages.map fun _ age => s.reference.toNat + age.toNat⟩

theorem getElem?_sightings (s : Shard) (key : SubKey) : s.sightings.seen[key]? = s.lastSeen key :=
  Std.ExtTreeMap.getElem?_map

theorem contains_sightings (s : Shard) (key : SubKey) :
    s.sightings.seen.contains key = (s.lastSeen key).isSome := by
  rw [Std.ExtTreeMap.contains_eq_isSome_getElem?, getElem?_sightings]

theorem size_sightings (s : Shard) : s.sightings.seen.size = s.size := Std.ExtTreeMap.size_map

/-- Maps are told apart by their references and by what they say of every key. -/
theorem sightings_eq {s : Shard} {a : Sightings} (href : s.reference.toNat = a.reference)
    (hseen : ∀ key, s.lastSeen key = a.seen[key]?) : s.sightings = a := by
  refine Sightings.ext href (Std.ExtTreeMap.ext_getElem? fun key => ?_)
  rw [getElem?_sightings, hseen]

theorem sightings_empty (reference : Bucket) (stale : Age) :
    (empty reference stale).sightings = .empty reference.toNat :=
  sightings_eq rfl fun key => by
    rw [lastSeen_empty, Sightings.empty, Std.ExtTreeMap.getElem?_empty]

/-! ## Call by call -/

/-- What was seen is not before the reference, so dropping what is changes nothing. -/
theorem filter_reference_le (s : Shard) (key : SubKey) :
    (s.lastSeen key).filter (s.reference.toNat ≤ ·) = s.lastSeen key := by
  cases h : s.lastSeen key with
  | none => rfl
  | some n => rw [Option.filter_some, if_pos (by simpa using reference_le_of_lastSeen h)]

theorem sightings_reach (s : Shard) (time : Bucket) :
    (s.reach time).sightings = s.sightings.reach s.stale.toNat time.toNat := by
  have href := reference_reach s time
  by_cases hfar : maxAge < time.toNat - s.reference.toNat
  · rw [if_pos hfar] at href
    rw [Sightings.reach, if_pos (show 255 < time.toNat - s.sightings.reference from hfar)]
    refine sightings_eq href fun key => ?_
    rw [lastSeen_reach, href, Sightings.getElem?_moveTo, getElem?_sightings]
  · rw [if_neg hfar] at href
    rw [Sightings.reach, if_neg (show ¬ 255 < time.toNat - s.sightings.reference from hfar)]
    refine sightings_eq href fun key => ?_
    rw [lastSeen_reach, href, filter_reference_le, getElem?_sightings]

theorem sightings_touch (s : Shard) (key : SubKey) (time : Bucket) :
    (s.touch key time).1 = (s.sightings.touch s.stale.toNat key time.toNat).1
      ∧ (s.touch key time).2.sightings = (s.sightings.touch s.stale.toNat key time.toNat).2 := by
  rw [Sightings.touch, ← sightings_reach, touch_fst]
  refine ⟨(contains_sightings _ key).symm, sightings_eq rfl fun other => ?_⟩
  rw [lastSeen_touch, Std.ExtTreeMap.getElem?_insert, getElem?_sightings]
  simp only [Std.LawfulEqCmp.compare_eq_iff_eq, eq_comm (a := key)]
  rfl

theorem sightings_forget (s : Shard) (key : SubKey) :
    (s.forget key).1 = (s.sightings.forget key).1
      ∧ (s.forget key).2.sightings = (s.sightings.forget key).2 := by
  rw [Sightings.forget, forget_fst]
  refine ⟨(contains_sightings s key).symm, sightings_eq rfl fun other => ?_⟩
  rw [lastSeen_forget, Std.ExtTreeMap.getElem?_erase, getElem?_sightings]
  simp only [Std.LawfulEqCmp.compare_eq_iff_eq, eq_comm (a := key)]

/-- A prune drops what its new reference leaves behind. -/
theorem lastSeen_prune_reference (s : Shard) (now : Bucket) (key : SubKey) :
    (s.prune now).lastSeen key =
      (s.lastSeen key).filter ((s.prune now).reference.toNat ≤ ·) := by
  rw [lastSeen_prune, reference_prune]
  cases h : s.lastSeen key with
  | none => rfl
  | some n =>
      -- the sighting is not before the old reference, so the threshold alone decides
      have hle := reference_le_of_lastSeen h
      rw [Option.filter_some, Option.filter_some]
      congr 1
      simp only [decide_eq_true_eq]
      exact propext (by omega)

theorem sightings_prune (s : Shard) (now : Bucket) :
    (s.prune now).size = (s.sightings.prune s.stale.toNat now.toNat).1
      ∧ (s.prune now).sightings = (s.sightings.prune s.stale.toNat now.toNat).2 := by
  have hmap : (s.prune now).sightings = (s.sightings.prune s.stale.toNat now.toNat).2 := by
    refine sightings_eq (reference_prune s now) fun key => ?_
    rw [lastSeen_prune_reference, reference_prune, Sightings.prune, Sightings.getElem?_moveTo,
      getElem?_sightings]
    rfl
  exact ⟨by rw [← size_sightings, hmap]; rfl, hmap⟩

/-- **A shard answers a call as its exact map does, and stands for what the call leaves of it.** -/
theorem refines (s : Shard) (call : ShardCall) :
    (call.onShard s).1 = (call.onSightings s.stale.toNat s.sightings).1
      ∧ (call.onShard s).2.sightings = (call.onSightings s.stale.toNat s.sightings).2 := by
  cases call with
  | touch key time =>
      obtain ⟨hanswer, hmap⟩ := sightings_touch s key time
      exact ⟨congrArg ShardAnswer.known hanswer, hmap⟩
  | forget key =>
      obtain ⟨hanswer, hmap⟩ := sightings_forget s key
      exact ⟨congrArg ShardAnswer.known hanswer, hmap⟩
  | prune now =>
      obtain ⟨hanswer, hmap⟩ := sightings_prune s now
      exact ⟨congrArg ShardAnswer.left hanswer, hmap⟩

@[simp] theorem stale_onShard (s : Shard) (call : ShardCall) :
    (call.onShard s).2.stale = s.stale := by
  cases call with
  | touch key time => exact stale_touch s key time
  | forget key => rfl
  | prune now => exact stale_prune s now

/-- What no call does to a shard: take the reference back, change what it does not name, or cut a
number off at a limit. -/
structure Exact (s : Shard) (call : ShardCall) : Prop where
  /-- The reference does not go back. -/
  forward : s.reference.toNat ≤ (call.onShard s).2.reference.toNat
  /-- Other keys keep their sightings, unless these lie before the new reference. -/
  others : ∀ key, call.key? ≠ some key → (call.onShard s).2.lastSeen key =
    (s.lastSeen key).filter ((call.onShard s).2.reference.toNat ≤ ·)
  /-- Where a touch moves the reference, the threshold does not reach beyond the first bucket. -/
  moved : ∀ key time, call = .touch key time → maxAge < time.toNat - s.reference.toNat →
    (time.back s.stale).toNat + s.stale.toNat = time.toNat
  /-- The age of a new sighting fits a byte. -/
  age : ∀ key time, call = .touch key time →
    (Age.between (s.reach time).reference time).toNat =
      time.toNat - (s.reach time).reference.toNat
  /-- Reference and age add up without passing the last bucket. -/
  sum : ∀ (key : SubKey) (age : Age), s.ages[key]? = some age →
    (s.reference.forth age).toNat = s.reference.toNat + age.toNat

theorem reference_le_reach (s : Shard) (time : Bucket) :
    s.reference.toNat ≤ (s.reach time).reference.toNat := by
  have hstale := s.stale.toNat_le
  rw [reference_reach]
  split <;> omega

theorem forward_onShard (s : Shard) (call : ShardCall) :
    s.reference.toNat ≤ (call.onShard s).2.reference.toNat := by
  cases call with
  | touch key time => exact reference_le_reach s time
  | forget key => exact Nat.le_refl _
  | prune now =>
      have href := reference_prune s now
      simp only [ShardCall.onShard]
      omega

theorem others_onShard (s : Shard) {call : ShardCall} {key : SubKey} (h : call.key? ≠ some key) :
    (call.onShard s).2.lastSeen key =
      (s.lastSeen key).filter ((call.onShard s).2.reference.toNat ≤ ·) := by
  cases call with
  | touch named time =>
      have hne : key ≠ named := fun heq => h (congrArg some heq.symm)
      have htouch := lastSeen_touch s named key time
      rw [if_neg hne, lastSeen_reach] at htouch
      exact htouch
  | forget named =>
      have hne : key ≠ named := fun heq => h (congrArg some heq.symm)
      have hforget := lastSeen_forget s named key
      rw [if_neg hne] at hforget
      exact hforget.trans (filter_reference_le s key).symm
  | prune now => exact lastSeen_prune_reference s now key

/-! ## Run by run -/

/-- No sighting lies behind the last bucket. -/
def Within (s : Shard) : Prop := ∀ key n, s.lastSeen key = some n → n ≤ lastBucket

theorem within_empty (reference : Bucket) (stale : Age) : (empty reference stale).Within := by
  intro key n h
  rw [lastSeen_empty] at h
  cases h

theorem within_onShard {s : Shard} (hs : s.Within) (call : ShardCall) :
    (call.onShard s).2.Within := by
  intro key n hn
  by_cases hnamed : call.key? = some key
  · cases call with
    | touch named time =>
        cases hnamed
        have htime := time.toNat_le
        have href := (s.reach time).reference.toNat_le
        simp only [ShardCall.onShard] at hn
        rw [lastSeen_touch, if_pos rfl, Option.some.injEq] at hn
        omega
    | forget named =>
        cases hnamed
        simp only [ShardCall.onShard] at hn
        rw [lastSeen_forget, if_pos rfl] at hn
        cases hn
    | prune now => cases hnamed
  · rw [others_onShard s hnamed] at hn
    exact hs key n (Option.filter_eq_some_iff.mp hn).1

/-- As long as no sighting lies behind the last bucket, limits have no influence on calls. -/
theorem exact_of_within {s : Shard} (hs : s.Within) (call : ShardCall) : s.Exact call where
  forward := forward_onShard s call
  others := fun _ h => others_onShard s h
  moved := by
    rintro key time - hfar
    have hstale := s.stale.toNat_le
    rw [Bucket.toNat_back]
    omega
  age := fun _ time _ => between_reach s time
  sum := by
    intro key age hage
    have hseen : s.lastSeen key = some (s.reference.toNat + age.toNat) := by
      rw [lastSeen, hage]; rfl
    have hle := hs key _ hseen
    rw [Bucket.forth, Bucket.toNat_clamp, Nat.min_eq_left hle]

theorem fits_of_within {s : Shard} (hs : s.Within) : s.sightings.Fits where
  reference := s.reference.toNat_le
  ahead := by
    intro key n hn
    rw [getElem?_sightings] at hn
    exact reference_le_of_lastSeen hn
  age := by
    intro key n hn
    rw [getElem?_sightings] at hn
    obtain ⟨age, -, rfl⟩ := Option.map_eq_some_iff.mp hn
    have hage : age.toNat ≤ 255 := age.toNat_le
    simp only [sightings]
    omega
  bucket := by
    intro key n hn
    rw [getElem?_sightings] at hn
    exact hs key n hn

/-- What every run keeps: the shard stands for the map that the same run leaves. -/
theorem run_refines {s : Shard} (hs : s.Within) (calls : List ShardCall) :
    let shard := ShardCall.run ShardCall.onShard calls s
    let exact := ShardCall.run (ShardCall.onSightings s.stale.toNat) calls s.sightings
    shard.1 = exact.1 ∧ shard.2.sightings = exact.2 ∧ shard.2.Within := by
  induction calls generalizing s with
  | nil => exact ⟨rfl, rfl, hs⟩
  | cons call rest ih =>
      obtain ⟨hanswer, hmap⟩ := refines s call
      obtain ⟨hanswers, hleft, hwithin⟩ := ih (within_onShard hs call)
      rw [stale_onShard, hmap] at hanswers hleft
      exact ⟨congr (congrArg List.cons hanswer) hanswers, hleft, hwithin⟩

/--
**A shard is an exact map of sightings**, for calls with any times in any order.

Take a shard that is set up anywhere, with any threshold, and any calls. All answers are
those of the exact map, and the shard stands for what the calls leave of that map, whose
reference, sightings and ages have room in words and bytes. No further call takes the
reference back, changes a key that it does not name other than by leaving it behind the
reference, or comes to a limit at which numbers are cut off.
-/
theorem run_as_exact_map (reference : Bucket) (stale : Age) (calls : List ShardCall) :
    let shard := ShardCall.run ShardCall.onShard calls (.empty reference stale)
    let exact := ShardCall.run (ShardCall.onSightings stale.toNat) calls (.empty reference.toNat)
    shard.1 = exact.1 ∧ shard.2.sightings = exact.2 ∧ exact.2.Fits
      ∧ ∀ call, shard.2.Exact call := by
  intro shard exact
  obtain ⟨hanswers, hmap, hwithin⟩ := run_refines (within_empty reference stale) calls
  rw [sightings_empty] at hanswers hmap
  have hfits : exact.2.Fits := hmap ▸ fits_of_within hwithin
  exact ⟨hanswers, hmap, hfits, exact_of_within hwithin⟩

end Shard

end MetricGateway.Novelty
