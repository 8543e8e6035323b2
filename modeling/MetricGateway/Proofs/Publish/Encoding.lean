import MetricGateway.Proofs.Novelty.Known
import MetricGateway.Proofs.Wire.Message

/-!
# How a batch is encoded

A batch touches the series of its metrics one after the other and keeps a list of
those that it is the first to describe. While it does so, the cache knows series
for two reasons only: they were known before the batch, or their slot is that of
a series on the list. A compact point is written for a series that is known and
not on the list, so if no other series shares its slot it was known before.

The list is what a batch takes back when it fails. Whatever is on it has been
written in full at some place of the batch.
-/

namespace MetricGateway.Publish

open Novelty (KeyCache slotOf)
open Wire (PointFormat)

/-! ## Buffers -/

namespace BufferPool

variable {p : BufferPool}

/-- A buffer that is taken from empty ones is empty, and leaves empty ones. -/
theorem acquire_of_empty (h : ∀ buffer ∈ p.idle, buffer = []) :
    p.acquire.1 = [] ∧ ∀ buffer ∈ p.acquire.2.idle, buffer = [] := by
  -- it is a new buffer, or an idle one
  rw [acquire]
  cases hidle : p.idle with
  | nil => exact ⟨rfl, h⟩
  | cons buffer idle =>
      rw [hidle] at h
      exact ⟨h buffer (List.mem_cons_self ..), fun other hmem => h other (List.mem_cons_of_mem _ hmem)⟩

/-- All that a buffer holds is dropped when it comes back. -/
theorem release_of_empty (h : ∀ buffer ∈ p.idle, buffer = []) (buffer : Bytes) :
    ∀ other ∈ (p.release buffer).idle, other = [] := by
  intro other hmem
  rw [release] at hmem
  split at hmem
  · rcases List.mem_cons.mp hmem with rfl | hold
    · exact List.drop_length
    · exact h other hold
  · exact h other hmem

end BufferPool

/-- Idle buffers hold nothing. -/
def BufferPools.Clean (p : BufferPools) : Prop :=
  ∀ kind, ∀ buffer ∈ (p.get kind).idle, buffer = []

namespace BufferPools

theorem get_set (p : BufferPools) (kind other : BufferKind) (pool : BufferPool) :
    (p.set kind pool).get other = if other = kind then pool else p.get other := by
  cases kind <;> cases other <;> rfl

theorem clean_ofMaxIdle (maxIdle : Nat) : (ofMaxIdle maxIdle).Clean := by
  intro kind buffer hmem
  cases kind <;> cases hmem

/-- Replacing a pool by one whose buffers are empty keeps all buffers empty. -/
theorem clean_set {p : BufferPools} (hp : p.Clean) (kind : BufferKind) {pool : BufferPool}
    (hpool : ∀ buffer ∈ pool.idle, buffer = []) : (p.set kind pool).Clean := by
  intro other buffer hmem
  rw [get_set] at hmem
  split at hmem
  · exact hpool buffer hmem
  · exact hp other buffer hmem

/-- A message is written into an empty buffer if the pools are clean, and leaves them clean. -/
theorem push_spec {p : BufferPools} (hp : p.Clean) (kind : BufferKind) (write : Bytes → Bytes) :
    (p.push kind write).1 = ⟨kind, write []⟩ ∧ (p.push kind write).2.Clean := by
  obtain ⟨hbuffer, hpool⟩ := BufferPool.acquire_of_empty (hp kind)
  refine ⟨?_, clean_set hp kind hpool⟩
  rw [push]
  dsimp only
  rw [hbuffer]

/-- Buffers come back empty. -/
theorem clean_releaseAll {p : BufferPools} (hp : p.Clean) (messages : List Message) :
    (p.releaseAll messages).Clean := by
  induction messages generalizing p with
  | nil => exact hp
  | cons m rest ih =>
      exact ih (clean_set hp m.kind (BufferPool.release_of_empty (hp m.kind) m.payload))

end BufferPools

/-! ## Knowledge -/

/-- A publisher knows a series if it has a cache that does. -/
def Known (cache : Option KeyCache) (key : MetricKey) : Prop :=
  ∃ c, cache = some c ∧ c.Knows key

/-- The cache of a publisher has so many shards for every organization, if there is a cache. -/
def Sharded (n : Nat) (cache : Option KeyCache) : Prop :=
  ∀ c, cache = some c → c.Uniform ∧ c.shardCount = n

theorem known_some {c : KeyCache} {key : MetricKey} : Known (some c) key ↔ c.Knows key := by
  simp [Known]

theorem sharded_touch {n : Nat} {c : KeyCache} (h : Sharded n (some c)) (key : MetricKey)
    (now : Timestamp) : Sharded n (some (c.touch key now).2) := by
  obtain ⟨hc, hn⟩ := h c rfl
  rintro _ ⟨⟩
  exact ⟨KeyCache.uniform_touch hc key now, hn⟩

/-- What is forgotten is not known, and nothing else is lost or won. -/
theorem forgetAll_spec {n : Nat} {cache : Option KeyCache} (h : Sharded n cache)
    (keys : List MetricKey) :
    Sharded n (forgetAll cache keys)
      ∧ ∀ key, Known (forgetAll cache keys) key ↔
        Known cache key ∧ ∀ k ∈ keys, slotOf n key ≠ slotOf n k := by
  cases cache with
  | none =>
      refine ⟨h, fun key => ⟨?_, And.left⟩⟩
      rintro ⟨_, ⟨⟩, _⟩
  | some c =>
      rw [forgetAll, Option.map_some]
      induction keys generalizing c with
      | nil => exact ⟨h, fun key => ⟨fun hkey => ⟨hkey, nofun⟩, And.left⟩⟩
      | cons k rest ih =>
          -- one series is forgotten, and the rest in the cache that this leaves
          obtain ⟨hc, hn⟩ := h c rfl
          have hforget : Sharded n (some (c.forget k).2) := by
            rintro _ ⟨⟩
            exact ⟨KeyCache.uniform_forget hc k, by rw [KeyCache.shardCount_forget, hn]⟩
          obtain ⟨hsharded, hknown⟩ := ih _ hforget
          refine ⟨hsharded, fun key => ?_⟩
          rw [List.foldl_cons, hknown, known_some, KeyCache.knows_forget_iff hc, known_some,
            List.forall_mem_cons, hn]
          constructor
          · rintro ⟨⟨hk, hkey⟩, hrest⟩; exact ⟨hkey, hk, hrest⟩
          · rintro ⟨hkey, hk, hrest⟩; exact ⟨⟨hk, hkey⟩, hrest⟩

/-! ## Messages -/

/-- The format of points that an encoding stands for, if it does. -/
def Encoding.format? : Encoding → Option PointFormat
  | .full => none
  | .compact format => some format

/-- No full message looks like a point: it starts as a map of nine entries. -/
theorem detect_encodeFull (m : Metric) : PointFormat.detect (Wire.encodeFull m) = none := by
  obtain ⟨body, hbody⟩ := Wire.exists_encodeFull_eq m
  rw [hbody]; rfl

/-- A message shows how it was encoded. -/
theorem detect_writeMessage (encoding : Encoding) (m : Metric) (key : MetricKey) :
    PointFormat.detect (writeMessage encoding m key []) = encoding.format? := by
  cases encoding with
  | full => exact detect_encodeFull m
  | compact format => exact Wire.Point.detect_encode format (m.pointOf key)

/-! ## One metric -/

/-- Without a cache the encoding is full and nothing is touched. -/
theorem chooseEncoding_of_none (format : PointFormat) (now : Timestamp) (key : MetricKey)
    {s : EncodingState} (h : s.cache = none) : chooseEncoding format now key s = (.full, s) := by
  obtain ⟨cache, described, pools⟩ := s
  obtain rfl : cache = none := h
  rfl

/-- What is chosen does not depend on the buffers at hand. -/
theorem chooseEncoding_pools (format : PointFormat) (now : Timestamp) (key : MetricKey)
    (s : EncodingState) (pools : BufferPools) :
    chooseEncoding format now key { s with pools } =
      ((chooseEncoding format now key s).1,
        { (chooseEncoding format now key s).2 with pools }) := by
  obtain ⟨cache, described, _⟩ := s
  cases cache with
  | none => rfl
  | some c => simp only [chooseEncoding]; split <;> rfl

theorem pools_chooseEncoding (format : PointFormat) (now : Timestamp) (key : MetricKey)
    (s : EncodingState) : (chooseEncoding format now key s).2.pools = s.pools :=
  congrArg (·.2.pools) (chooseEncoding_pools format now key s s.pools)

/-- What choosing an encoding can do: without a cache nothing happens, and with one the series is
touched. It is put on the list if the touch does not find it, unless it is on it already. -/
theorem chooseEncoding_cases (format : PointFormat) (now : Timestamp) (key : MetricKey)
    (s : EncodingState) :
    (s.cache = none ∧ chooseEncoding format now key s = (.full, s))
      ∨ ∃ c, s.cache = some c ∧
        (((c.touch key now).1 = true ∧ key ∉ s.described ∧ chooseEncoding format now key s =
            (.compact format, { s with cache := some (c.touch key now).2 }))
          ∨ (key ∈ s.described ∧ chooseEncoding format now key s =
            (.full, { s with cache := some (c.touch key now).2 }))
          ∨ ((c.touch key now).1 = false ∧ key ∉ s.described ∧ chooseEncoding format now key s =
            (.full, { s with
              cache := some (c.touch key now).2, described := key :: s.described }))) := by
  obtain ⟨cache, described, pools⟩ := s
  cases cache with
  | none => exact Or.inl ⟨rfl, chooseEncoding_of_none format now key rfl⟩
  | some c =>
      refine Or.inr ⟨c, rfl, ?_⟩
      rw [chooseEncoding]
      dsimp only
      by_cases hmem : key ∈ described
      · exact Or.inr (Or.inl ⟨hmem, by simp [hmem]⟩)
      · cases hseen : (c.touch key now).1 with
        | true => exact Or.inl ⟨rfl, hmem, by simp [hmem]⟩
        | false => exact Or.inr (Or.inr ⟨rfl, hmem, by simp [hmem]⟩)

/-- What is always true while a batch is encoded, seen from the cache that it has begun with. -/
structure Tracks (n : Nat) (before : Option KeyCache) (s : EncodingState) : Prop where
  clean : s.pools.Clean
  sharded : Sharded n s.cache
  /-- Series are known from before, or because of one on the list. -/
  known : ∀ key, Known s.cache key →
    Known before key ∨ ∃ k ∈ s.described, slotOf n key = slotOf n k

/-- A touch is tracked by a list that has got the key, and by one that has not if the key was known
before the touch. -/
theorem Tracks.touch {n : Nat} {before : Option KeyCache} {s : EncodingState} {c : KeyCache}
    {key : MetricKey} {now : Timestamp} {described : List MetricKey} (h : Tracks n before s)
    (hc : s.cache = some c) (hgrows : ∀ k ∈ s.described, k ∈ described)
    (hkey : c.Knows key ∨ key ∈ described) :
    Tracks n before { s with cache := some (c.touch key now).2, described } := by
  have hsharded := h.sharded
  rw [hc] at hsharded
  have hbefore : ∀ other, c.Knows other →
      Known before other ∨ ∃ k ∈ described, slotOf n other = slotOf n k := by
    intro other hother
    rcases h.known other ⟨c, hc, hother⟩ with hknown | ⟨k, hk, hslot⟩
    · exact Or.inl hknown
    · exact Or.inr ⟨k, hgrows k hk, hslot⟩
  refine ⟨h.clean, sharded_touch hsharded key now, fun other hother => ?_⟩
  obtain ⟨hc', rfl⟩ := hsharded c rfl
  -- what the touch adds shares its slot with the key
  rcases KeyCache.knows_of_knows_touch hc' (known_some.mp hother) with hslot | hother
  · rcases hkey with hknown | hmem
    · exact hbefore other ((KeyCache.knows_congr hc' hslot).mpr hknown)
    · exact Or.inr ⟨key, hmem, hslot⟩
  · exact hbefore other hother

/-- **What is chosen for a metric.** The batch stays tracked. A point is chosen for series that were
known before the batch, or whose slot is that of another series. A series that gets on the list is
the one at hand, and gets its full message now. -/
theorem chooseEncoding_spec {n : Nat} {before : Option KeyCache} {s : EncodingState}
    (h : Tracks n before s) (format : PointFormat) (now : Timestamp) (key : MetricKey) :
    Tracks n before (chooseEncoding format now key s).2
      ∧ ((chooseEncoding format now key s).1 = .full
        ∨ (chooseEncoding format now key s).1 = .compact format
          ∧ (Known before key ∨ ∃ k, k ≠ key ∧ slotOf n key = slotOf n k))
      ∧ ∀ k ∈ (chooseEncoding format now key s).2.described,
        k ∈ s.described ∨ k = key ∧ (chooseEncoding format now key s).1 = .full := by
  rcases chooseEncoding_cases format now key s with ⟨-, heq⟩ | ⟨c, hc, ⟨hseen, hnew, heq⟩ |
    ⟨hmem, heq⟩ | ⟨-, hnew, heq⟩⟩
  · rw [heq]
    exact ⟨h, Or.inl rfl, fun k => Or.inl⟩
  · -- the key is known and not on the list, so it is known for another reason
    have hknows := KeyCache.knows_of_touch_fst hseen
    rw [heq]
    refine ⟨h.touch hc (fun _ => id) (Or.inl hknows), Or.inr ⟨rfl, ?_⟩, fun k => Or.inl⟩
    rcases h.known key ⟨c, hc, hknows⟩ with hbefore | ⟨k, hk, hslot⟩
    · exact Or.inl hbefore
    · exact Or.inr ⟨k, fun heq => hnew (heq ▸ hk), hslot⟩
  · rw [heq]
    exact ⟨h.touch hc (fun _ => id) (Or.inr hmem), Or.inl rfl, fun k => Or.inl⟩
  · rw [heq]
    refine ⟨h.touch hc (fun k => List.mem_cons_of_mem _) (Or.inr (List.mem_cons_self ..)),
      Or.inl rfl, fun k hk => ?_⟩
    rcases List.mem_cons.mp hk with rfl | hold
    · exact Or.inr ⟨rfl, rfl⟩
    · exact Or.inl hold

/-! ## All metrics -/

/-- A metric is written as it was chosen, into an empty buffer of that kind. -/
theorem encodeOne_spec {s : EncodingState} (h : s.pools.Clean) (format : PointFormat)
    (now : Timestamp) (m : Metric) (key : MetricKey) :
    (encodeOne format now m key s).1 = ((chooseEncoding format now key s).1,
        ⟨(chooseEncoding format now key s).1.bufferKind,
          writeMessage (chooseEncoding format now key s).1 m key []⟩)
      ∧ (encodeOne format now m key s).2.pools.Clean := by
  rw [← pools_chooseEncoding format now key s] at h
  obtain ⟨hpush, hclean⟩ := BufferPools.push_spec h (chooseEncoding format now key s).1.bufferKind
    (writeMessage (chooseEncoding format now key s).1 m key)
  exact ⟨congrArg (Prod.mk _) hpush, hclean⟩

theorem tracks_encodeOne {n : Nat} {before : Option KeyCache} {s : EncodingState}
    (h : Tracks n before s) (format : PointFormat) (now : Timestamp) (m : Metric)
    (key : MetricKey) : Tracks n before (encodeOne format now m key s).2 := by
  obtain ⟨-, hsharded, hknown⟩ := (chooseEncoding_spec h format now key).1
  exact ⟨(encodeOne_spec h.clean format now m key).2, hsharded, hknown⟩

theorem tracks_encode {n : Nat} {before : Option KeyCache} {s : EncodingState}
    (h : Tracks n before s) (format : PointFormat) (now : Timestamp)
    (pairs : List (Metric × MetricKey)) : Tracks n before (encode format now pairs s).2 := by
  induction pairs generalizing s with
  | nil => exact h
  | cons pair rest ih => exact ih (tracks_encodeOne h format now pair.1 pair.2)

/-- **A message holds what is written for its metric, and nothing else.** -/
theorem message_encode {s : EncodingState} (h : s.pools.Clean) {format : PointFormat}
    {now : Timestamp} {pairs : List (Metric × MetricKey)} {i : Nat} {m : Metric} {key : MetricKey}
    {encoding : Encoding} {message : Message} (hpair : pairs[i]? = some (m, key))
    (hmessage : (encode format now pairs s).1[i]? = some (encoding, message)) :
    message = ⟨encoding.bufferKind, writeMessage encoding m key []⟩ := by
  induction pairs generalizing s i with
  | nil => cases hpair
  | cons pair rest ih =>
      obtain ⟨hone, hclean⟩ := encodeOne_spec h format now pair.1 pair.2
      cases i with
      | zero =>
          cases hpair
          obtain ⟨rfl, rfl⟩ := Prod.mk.inj (hone.symm.trans (Option.some.inj hmessage))
          rfl
      | succ i => exact ih hclean hpair hmessage

/-- **What is written for a metric.** Its message and nothing else, and a point only if its series
was known before the batch or shares the slot of another. -/
theorem written_encode {n : Nat} {before : Option KeyCache} {s : EncodingState}
    (h : Tracks n before s) {format : PointFormat} {now : Timestamp}
    {pairs : List (Metric × MetricKey)} {i : Nat} {m : Metric} {key : MetricKey}
    {encoding : Encoding} {message : Message} (hpair : pairs[i]? = some (m, key))
    (hmessage : (encode format now pairs s).1[i]? = some (encoding, message)) :
    message.payload = writeMessage encoding m key []
      ∧ (encoding = .full ∨ encoding = .compact format
        ∧ (Known before key ∨ ∃ k, k ≠ key ∧ slotOf n key = slotOf n k)) := by
  refine ⟨congrArg Message.payload (message_encode h.clean hpair hmessage), ?_⟩
  induction pairs generalizing s i with
  | nil => cases hpair
  | cons pair rest ih =>
      cases i with
      | zero =>
          cases hpair
          obtain ⟨-, hchosen, -⟩ := chooseEncoding_spec h format now key
          cases hmessage
          exact hchosen
      | succ i => exact ih (tracks_encodeOne h format now pair.1 pair.2) hpair hmessage

/-- **What is on the list has been written in full.** -/
theorem described_encode {n : Nat} {before : Option KeyCache} {s : EncodingState}
    (h : Tracks n before s) {format : PointFormat} {now : Timestamp}
    {pairs : List (Metric × MetricKey)} {key : MetricKey}
    (hkey : key ∈ (encode format now pairs s).2.described) :
    key ∈ s.described ∨ ∃ (i : Nat) (m : Metric) (message : Message),
      pairs[i]? = some (m, key) ∧ (encode format now pairs s).1[i]? = some (.full, message) := by
  induction pairs generalizing s with
  | nil => exact Or.inl hkey
  | cons pair rest ih =>
      obtain ⟨m, other⟩ := pair
      rcases ih (tracks_encodeOne h format now m other) hkey with hmem | ⟨i, m', message, hi⟩
      · -- it was on the list before the rest was encoded
        obtain ⟨-, -, hlisted⟩ := chooseEncoding_spec h format now other
        rcases hlisted key hmem with hold | ⟨rfl, hfull⟩
        · exact Or.inl hold
        · refine Or.inr ⟨0, m, (encodeOne format now m key s).1.2, rfl, ?_⟩
          rw [← hfull]; rfl
      · exact Or.inr ⟨i + 1, m', message, hi⟩

end MetricGateway.Publish
