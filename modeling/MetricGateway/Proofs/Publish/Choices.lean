import MetricGateway.Proofs.Novelty.Moment
import MetricGateway.Proofs.Publish.Encoding

/-!
# What a batch chooses

A batch makes all its touches at one time, so what it chooses for its metrics is
decided by what a touch at that time would find in the cache it begins with. A
series that would be found gets points only. One that would not be found is put
on the list at its first sample and gets full messages only, unless another
series has taken its slot in the same batch.

Two caches that answer alike at that time therefore lead to the same messages,
whatever else is in them.
-/

namespace MetricGateway.Publish

open Novelty (KeyCache slotOf touches)
open Wire (PointFormat)

/-! ## From one cache -/

/-- Encoding has touched these series, and began with this cache. On the list are those of them that
would not have been found at first, one for each slot. -/
structure Touched (c : KeyCache) (now : Timestamp) (keys : List MetricKey) (s : EncodingState) :
    Prop where
  cache : s.cache = some (c.run (touches now keys))
  unseen : ∀ k ∈ s.described, k ∈ keys ∧ ¬ c.Finds now k
  listed : ∀ k ∈ keys, ¬ c.Finds now k →
    ∃ d ∈ s.described, slotOf c.shardCount k = slotOf c.shardCount d

theorem touched_start {c : KeyCache} {now : Timestamp} {s : EncodingState}
    (hcache : s.cache = some c) (hdescribed : s.described = []) : Touched c now [] s where
  cache := hcache
  unseen := by rw [hdescribed]; nofun
  listed := nofun

theorem run_touches_concat (c : KeyCache) (now : Timestamp) (keys : List MetricKey)
    (key : MetricKey) :
    c.run (touches now (keys ++ [key])) = ((c.run (touches now keys)).touch key now).2 := by
  rw [touches, List.map_append, KeyCache.run_append]; rfl

section Choice

variable {c : KeyCache} {now : Timestamp} {keys : List MetricKey} {s : EncodingState}

/-- A series that has been touched on the way and would not have been found at first shares its slot
with one on the list. -/
theorem Touched.exists_listed (h : Touched c now keys s) (hc : c.Uniform) {key : MetricKey}
    (hfinds : (c.run (touches now keys)).Finds now key) (hnew : ¬ c.Finds now key) :
    ∃ d ∈ s.described, slotOf c.shardCount key = slotOf c.shardCount d := by
  rcases (KeyCache.finds_run_touches_iff hc).mp hfinds with ⟨k, hk, hslot⟩ | hold
  · have hnew' : ¬ c.Finds now k := fun hk => hnew ((KeyCache.finds_congr hc hslot).mpr hk)
    obtain ⟨d, hd, hslot'⟩ := h.listed k hk hnew'
    exact ⟨d, hd, hslot.trans hslot'⟩
  · exact absurd hold hnew

/-- One more touch is on record if the list has got its series, in case that was not found. -/
theorem Touched.touch (h : Touched c now keys s) (key : MetricKey) {s' : EncodingState}
    (hcache : s'.cache = some ((c.run (touches now keys)).touch key now).2)
    (hgrows : ∀ k ∈ s.described, k ∈ s'.described)
    (hnew : ∀ k ∈ s'.described, k ∈ s.described ∨ k = key ∧ ¬ c.Finds now key)
    (hkey : ¬ c.Finds now key →
      ∃ d ∈ s'.described, slotOf c.shardCount key = slotOf c.shardCount d) :
    Touched c now (keys ++ [key]) s' where
  cache := by rw [hcache, run_touches_concat]
  unseen := by
    intro k hk
    rcases hnew k hk with hold | ⟨rfl, hunseen⟩
    · exact ⟨List.mem_append_left _ (h.unseen k hold).1, (h.unseen k hold).2⟩
    · exact ⟨List.mem_append_right _ (List.mem_singleton_self k), hunseen⟩
  listed := by
    intro k hk hunseen
    rcases List.mem_append.mp hk with hold | hlast
    · obtain ⟨d, hd, hslot⟩ := h.listed k hold hunseen
      exact ⟨d, hgrows d hd, hslot⟩
    · rw [List.mem_singleton.mp hlast] at hunseen ⊢
      exact hkey hunseen

/-- **What is chosen for a metric**: a point if a touch would have found its series at first, and
else the full message, unless another series has taken the slot. -/
theorem touched_chooseEncoding (h : Touched c now keys s) (hc : c.Uniform) (format : PointFormat)
    (key : MetricKey) :
    Touched c now (keys ++ [key]) (chooseEncoding format now key s).2
      ∧ (c.Finds now key → (chooseEncoding format now key s).1 = .compact format)
      ∧ (¬ c.Finds now key → (∀ k ∈ keys, slotOf c.shardCount key = slotOf c.shardCount k → k = key)
        → (chooseEncoding format now key s).1 = .full) := by
  have hrun := KeyCache.uniform_run hc (touches now keys)
  rcases chooseEncoding_cases format now key s with ⟨hnone, -⟩ | ⟨c', hc', ⟨hseen, hnew, heq⟩ |
    ⟨hmem, heq⟩ | ⟨hunseen, hnew, heq⟩⟩
  · rw [h.cache] at hnone; cases hnone
  all_goals
    rw [h.cache, Option.some.injEq] at hc'
    subst hc'
    rw [heq]
  · -- found and not on the list: it was found at first, or its slot has been taken
    refine ⟨h.touch key rfl (fun _ => id) (fun k => Or.inl) (h.exists_listed hc hseen),
      fun _ => rfl, fun hfirst halone => ?_⟩
    obtain ⟨d, hd, hslot⟩ := h.exists_listed hc hseen hfirst
    exact absurd (halone d (h.unseen d hd).1 hslot ▸ hd) hnew
  · -- on the list, so it was not found at first
    refine ⟨h.touch key rfl (fun _ => id) (fun k => Or.inl) fun _ => ⟨key, hmem, rfl⟩,
      fun hfirst => absurd hfirst (h.unseen key hmem).2, fun _ _ => rfl⟩
  · -- not found now, and so not at first either
    have hfirst : ¬ c.Finds now key := by
      intro hfound
      have hstill : (c.run (touches now keys)).Finds now key :=
        (KeyCache.finds_run_touches_iff hc).mpr (Or.inr hfound)
      rw [KeyCache.Finds, hunseen] at hstill
      cases hstill
    refine ⟨h.touch key rfl (fun k => List.mem_cons_of_mem key) (fun k hk => ?_)
      fun _ => ⟨key, List.mem_cons_self .., rfl⟩, fun hfound => absurd hfound hfirst,
      fun _ _ => rfl⟩
    rcases List.mem_cons.mp hk with rfl | hold
    · exact Or.inr ⟨rfl, hfirst⟩
    · exact Or.inl hold

theorem touched_encodeOne (h : Touched c now keys s) (hc : c.Uniform) (format : PointFormat)
    (m : Metric) (key : MetricKey) :
    Touched c now (keys ++ [key]) (encodeOne format now m key s).2 := by
  obtain ⟨hcache, hunseen, hlisted⟩ := (touched_chooseEncoding h hc format key).1
  exact ⟨hcache, hunseen, hlisted⟩

theorem touched_encode (h : Touched c now keys s) (hc : c.Uniform) (format : PointFormat)
    (pairs : List (Metric × MetricKey)) :
    Touched c now (keys ++ pairs.map (·.2)) (encode format now pairs s).2 := by
  induction pairs generalizing keys s with
  | nil => rw [List.map_nil, List.append_nil]; exact h
  | cons pair rest ih =>
      have hrest := ih (touched_encodeOne h hc format pair.1 pair.2)
      rwa [List.append_assoc] at hrest

/-- **What a batch chooses**, at each of its places. -/
theorem encoding_encode (h : Touched c now keys s) (hc : c.Uniform) {format : PointFormat}
    {pairs : List (Metric × MetricKey)} {i : Nat} {m : Metric} {key : MetricKey}
    {encoding : Encoding} {message : Message} (hpair : pairs[i]? = some (m, key))
    (hmessage : (encode format now pairs s).1[i]? = some (encoding, message)) :
    (c.Finds now key → encoding = .compact format)
      ∧ (¬ c.Finds now key →
        (∀ k ∈ keys ++ pairs.map (·.2), slotOf c.shardCount key = slotOf c.shardCount k → k = key)
        → encoding = .full) := by
  induction pairs generalizing keys s i with
  | nil => cases hpair
  | cons pair rest ih =>
      cases i with
      | zero =>
          cases hpair
          obtain ⟨-, hpoint, hfull⟩ := touched_chooseEncoding h hc format key
          cases hmessage
          exact ⟨hpoint, fun hnew halone =>
            hfull hnew fun k hk => halone k (List.mem_append_left _ hk)⟩
      | succ i =>
          have hrest := ih (touched_encodeOne h hc format pair.1 pair.2) hpair hmessage
          rwa [List.append_assoc] at hrest

end Choice

/-! ## From two caches -/

/-- Two caches answer alike to touches at one time. -/
structure AnswerAlike (now : Timestamp) (c c' : KeyCache) : Prop where
  left : c.Uniform
  right : c'.Uniform
  shardCount : c.shardCount = c'.shardCount
  finds : ∀ key, c.Finds now key ↔ c'.Finds now key

theorem AnswerAlike.touch {now : Timestamp} {c c' : KeyCache} (h : AnswerAlike now c c')
    (key : MetricKey) : AnswerAlike now (c.touch key now).2 (c'.touch key now).2 where
  left := KeyCache.uniform_touch h.left key now
  right := KeyCache.uniform_touch h.right key now
  shardCount := h.shardCount
  finds other := by
    rw [KeyCache.finds_touch_iff h.left, KeyCache.finds_touch_iff h.right, h.shardCount,
      h.finds other]

/-- Two states of encoding lead to the same messages. -/
structure EncodeAlike (now : Timestamp) (s s' : EncodingState) : Prop where
  left : s.pools.Clean
  right : s'.pools.Clean
  described : s.described = s'.described
  cache : Option.Rel (AnswerAlike now) s.cache s'.cache

theorem encodeAlike_chooseEncoding {now : Timestamp} {s s' : EncodingState}
    (h : EncodeAlike now s s') (format : PointFormat) (key : MetricKey) :
    (chooseEncoding format now key s).1 = (chooseEncoding format now key s').1
      ∧ EncodeAlike now (chooseEncoding format now key s).2
        (chooseEncoding format now key s').2 := by
  obtain ⟨hleft, hright, hdescribed, hcache⟩ := h
  obtain ⟨cache, described, pools⟩ := s
  obtain ⟨cache', described', pools'⟩ := s'
  cases hdescribed
  cases hcache with
  | none => exact ⟨rfl, hleft, hright, rfl, .none⟩
  | @some c c' halike =>
      -- the answers to the touch are the same, and so are the lists
      have hanswer : (c.touch key now).1 = (c'.touch key now).1 :=
        Bool.eq_iff_iff.mpr (halike.finds key)
      simp only [chooseEncoding, hanswer]
      split
      · exact ⟨rfl, hleft, hright, rfl, .some (halike.touch key)⟩
      · exact ⟨rfl, hleft, hright, rfl, .some (halike.touch key)⟩

theorem encodeAlike_encodeOne {now : Timestamp} {s s' : EncodingState}
    (h : EncodeAlike now s s') (format : PointFormat) (m : Metric) (key : MetricKey) :
    (encodeOne format now m key s).1 = (encodeOne format now m key s').1
      ∧ EncodeAlike now (encodeOne format now m key s).2 (encodeOne format now m key s').2 := by
  obtain ⟨hchosen, -, -, hdescribed, hcache⟩ := encodeAlike_chooseEncoding h format key
  -- buffers are empty on arrival, so the message depends on the choice only
  obtain ⟨hone, hleft⟩ := encodeOne_spec h.left format now m key
  obtain ⟨hone', hright⟩ := encodeOne_spec h.right format now m key
  refine ⟨?_, hleft, hright, hdescribed, hcache⟩
  rw [hone, hone', hchosen]

/-- **Caches that answer alike lead to the same messages.** -/
theorem encode_congr {now : Timestamp} {s s' : EncodingState} (h : EncodeAlike now s s')
    (format : PointFormat) (pairs : List (Metric × MetricKey)) :
    (encode format now pairs s).1 = (encode format now pairs s').1 := by
  induction pairs generalizing s s' with
  | nil => rfl
  | cons pair rest ih =>
      obtain ⟨hfirst, halike⟩ := encodeAlike_encodeOne h format pair.1 pair.2
      rw [encode, encode]
      dsimp only
      rw [hfirst, ih halike]

end MetricGateway.Publish
