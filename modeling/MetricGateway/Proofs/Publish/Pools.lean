import MetricGateway.Proofs.Publish.Encoding
import MetricGateway.Proofs.Publish.Validity

/-!
# Buffers that come back

Buffers leave their pool when they are acquired or when a message is pushed, and
come back when they are released or when a batch is dropped, in any order and
whatever has been written into them. What never changes is the limit of a pool,
and that its idle buffers are at most that many and all empty.

Seen from the pools, a batch that is published takes a buffer for every message
and drops all its messages in the end, however it ends. So a pool can only have
more idle buffers than before if the batch has needed more than there were.
-/

namespace MetricGateway.Publish

open Routing (Broker)

variable {σ : Type}

/-! ## One pool -/

namespace BufferPool

/-- A pool keeps at most so many buffers, and these are empty. -/
structure Kept (maxIdle : Nat) (p : BufferPool) : Prop where
  limit : p.maxIdle = maxIdle
  bounded : p.idleCount ≤ maxIdle
  empty : ∀ buffer ∈ p.idle, buffer = []

variable {maxIdle : Nat} {p : BufferPool}

/-- There is one buffer less when one is taken, if there was one. -/
theorem idleCount_acquire (p : BufferPool) : p.acquire.2.idleCount = p.idleCount - 1 := by
  rw [acquire, idleCount, idleCount]
  cases hidle : p.idle with
  | nil => simp [hidle]
  | cons buffer idle => simp

theorem maxIdle_acquire (p : BufferPool) : p.acquire.2.maxIdle = p.maxIdle := by
  rw [acquire]
  split <;> rfl

/-- There is one buffer more when one comes back, unless there are enough. -/
theorem idleCount_release (p : BufferPool) (buffer : Bytes) :
    (p.release buffer).idleCount =
      if p.idleCount < p.maxIdle then p.idleCount + 1 else p.idleCount := by
  rw [release, idleCount, idleCount]
  split <;> rfl

theorem maxIdle_release (p : BufferPool) (buffer : Bytes) :
    (p.release buffer).maxIdle = p.maxIdle := by
  rw [release]
  split <;> rfl

theorem kept_acquire (h : p.Kept maxIdle) : p.acquire.2.Kept maxIdle := by
  refine ⟨(maxIdle_acquire p).trans h.limit, ?_, (acquire_of_empty h.empty).2⟩
  have hbounded := h.bounded
  rw [idleCount_acquire]
  omega

theorem kept_release (h : p.Kept maxIdle) (buffer : Bytes) : (p.release buffer).Kept maxIdle := by
  refine ⟨(maxIdle_release p buffer).trans h.limit, ?_, release_of_empty h.empty buffer⟩
  have hbounded := h.bounded
  rw [idleCount_release, h.limit]
  split <;> omega

end BufferPool

/-! ## Both pools -/

namespace BufferPools

/-- Both pools keep at most so many buffers, and these are empty. -/
def Kept (maxIdle : Nat) (p : BufferPools) : Prop := ∀ kind, (p.get kind).Kept maxIdle

variable {maxIdle : Nat} {p : BufferPools}

theorem Kept.clean (h : p.Kept maxIdle) : p.Clean := fun kind => (h kind).empty

theorem kept_ofMaxIdle (maxIdle : Nat) : (ofMaxIdle maxIdle).Kept maxIdle := by
  intro kind
  cases kind <;> exact ⟨rfl, Nat.zero_le _, nofun⟩

theorem kept_set (h : p.Kept maxIdle) (kind : BufferKind) {pool : BufferPool}
    (hpool : pool.Kept maxIdle) : (p.set kind pool).Kept maxIdle := by
  intro other
  rw [get_set]
  split
  · exact hpool
  · exact h other

theorem kept_releaseAll (h : p.Kept maxIdle) (messages : List Message) :
    (p.releaseAll messages).Kept maxIdle := by
  induction messages generalizing p with
  | nil => exact h
  | cons m rest ih => exact ih (kept_set h m.kind (BufferPool.kept_release (h m.kind) m.payload))

/-- Messages that are dropped fill the pools of their kinds. -/
theorem idleCount_releaseAll (h : p.Kept maxIdle) (messages : List Message) (kind : BufferKind) :
    ((p.releaseAll messages).get kind).idleCount =
      min maxIdle ((p.get kind).idleCount + messages.countP (·.kind = kind)) := by
  induction messages generalizing p with
  | nil =>
      have hbounded := (h kind).bounded
      rw [releaseAll, List.foldl_nil, List.countP_nil]
      omega
  | cons m rest ih =>
      have hbounded := (h kind).bounded
      have hrest := ih (kept_set h m.kind (BufferPool.kept_release (h m.kind) m.payload))
      rw [get_set] at hrest
      rw [releaseAll, List.foldl_cons, ← releaseAll, hrest]
      by_cases hkind : kind = m.kind
      · subst hkind
        rw [if_pos rfl, BufferPool.idleCount_release, (h m.kind).limit,
          List.countP_cons_of_pos (by simp)]
        split <;> omega
      · rw [if_neg hkind, List.countP_cons_of_neg (by simpa using Ne.symm hkind)]

end BufferPools

/-! ## Calls -/

/-- What can be done with buffers. -/
inductive PoolCall where
  /-- A buffer is taken. -/
  | acquire (kind : BufferKind)
  /-- Any buffer comes back to any pool, whatever it holds. -/
  | release (kind : BufferKind) (buffer : Bytes)
  /-- A message is written into a buffer that is taken. -/
  | push (kind : BufferKind) (write : Bytes → Bytes)
  /-- A batch is dropped with its messages. -/
  | drop (messages : List Message)

namespace BufferPools

/-- What a call leaves. -/
def apply (p : BufferPools) : PoolCall → BufferPools
  | .acquire kind => p.set kind (p.get kind).acquire.2
  | .release kind buffer => p.set kind ((p.get kind).release buffer)
  | .push kind write => (p.push kind write).2
  | .drop messages => p.releaseAll messages

/-- What calls leave that are made one after the other. -/
def run (p : BufferPools) (calls : List PoolCall) : BufferPools := calls.foldl apply p

variable {maxIdle : Nat} {p : BufferPools}

theorem kept_apply (h : p.Kept maxIdle) (call : PoolCall) : (p.apply call).Kept maxIdle := by
  cases call with
  | acquire kind => exact kept_set h kind (BufferPool.kept_acquire (h kind))
  | release kind buffer => exact kept_set h kind (BufferPool.kept_release (h kind) buffer)
  | push kind write => exact kept_set h kind (BufferPool.kept_acquire (h kind))
  | drop messages => exact kept_releaseAll h messages

/-- **Whatever is done with buffers, the pools keep to their limit and are clean.** -/
theorem kept_run (h : p.Kept maxIdle) (calls : List PoolCall) : (p.run calls).Kept maxIdle := by
  induction calls generalizing p with
  | nil => exact h
  | cons call rest ih => exact ih (kept_apply h call)

theorem run_append (p : BufferPools) (calls others : List PoolCall) :
    p.run (calls ++ others) = (p.run calls).run others := List.foldl_append

/-- Buffers that are taken are missing, as far as there were any. -/
theorem idleCount_run_acquire (p : BufferPools) (kinds : List BufferKind) (kind : BufferKind) :
    ((p.run (kinds.map .acquire)).get kind).idleCount =
      (p.get kind).idleCount - kinds.countP (· = kind) := by
  induction kinds generalizing p with
  | nil => rfl
  | cons first rest ih =>
      have hrest := ih (p.apply (.acquire first))
      rw [apply, get_set] at hrest
      rw [List.map_cons, run, List.foldl_cons, ← run, apply, hrest]
      by_cases hkind : kind = first
      · subst hkind
        rw [if_pos rfl, BufferPool.idleCount_acquire, List.countP_cons_of_pos (by simp)]
        omega
      · rw [if_neg hkind, List.countP_cons_of_neg (by simpa using Ne.symm hkind)]

end BufferPools

/-! ## Batches -/

/-- The bytes that a sample is encoded to. -/
def Encoding.payload (encoding : Encoding) (m : Metric) (key : MetricKey) : Bytes :=
  match encoding with
  | .full => Wire.encodeFull m
  | .compact format => (m.pointOf key).encode format

/-- Writing adds what a sample is encoded to. -/
theorem writeMessage_eq (encoding : Encoding) (m : Metric) (key : MetricKey) (buffer : Bytes) :
    writeMessage encoding m key buffer = buffer ++ encoding.payload m key := by
  cases encoding <;> rfl

/-- The messages that a batch encodes. A batch that cannot be normalized has none. -/
def messagesOf (p : Publisher) (now : Timestamp) (batch : List Metric) (s : State σ) :
    List (Encoding × Message) :=
  match normalize p.schemas batch with
  | (_, .error _) => []
  | (metrics, .ok keys) => (encodeBatch p now metrics keys s).1

/-- What a batch does with buffers: it takes one for each message, and drops them all. -/
def batchCalls (messages : List Message) : List PoolCall :=
  (messages.map (·.kind)).map .acquire ++ [.drop messages]

/-- **What a batch leaves.** Buffers that it has needed beyond those that were idle are kept, up to
the limit. -/
theorem idleCount_batchCalls {maxIdle : Nat} {pools : BufferPools} (h : pools.Kept maxIdle)
    (messages : List Message) (kind : BufferKind) :
    ((pools.run (batchCalls messages)).get kind).idleCount =
      max (pools.get kind).idleCount (min maxIdle (messages.countP (·.kind = kind))) := by
  have hbounded := (h kind).bounded
  have htaken := BufferPools.idleCount_run_acquire pools (messages.map (·.kind)) kind
  have hcount : (messages.map (·.kind)).countP (· = kind) = messages.countP (·.kind = kind) :=
    List.countP_map
  have hdropped := BufferPools.idleCount_releaseAll
    (BufferPools.kept_run h ((messages.map (·.kind)).map .acquire)) messages kind
  rw [htaken, hcount] at hdropped
  rw [batchCalls, BufferPools.run_append]
  refine hdropped.trans ?_
  omega

/-- Two of three full buffers are kept, and the only compact one. -/
example : ((BufferPools.ofMaxIdle 2).run
    (batchCalls [⟨.full, [1]⟩, ⟨.full, [2]⟩, ⟨.compact, [3]⟩, ⟨.full, [4]⟩])).idleCounts = (1, 2) := by
  decide

/-- Encoding takes a buffer for each message. -/
theorem pools_encode (format : Wire.PointFormat) (now : Timestamp)
    (pairs : List (Metric × MetricKey)) (s : EncodingState) :
    (encode format now pairs s).2.pools =
      s.pools.run ((((encode format now pairs s).1.map (·.2)).map (·.kind)).map .acquire) := by
  induction pairs generalizing s with
  | nil => rfl
  | cons pair rest ih =>
      have hone : (encodeOne format now pair.1 pair.2 s).2.pools =
          s.pools.apply (.acquire (encodeOne format now pair.1 pair.2 s).1.2.kind) := by
        rw [← pools_chooseEncoding format now pair.2 s]
        rfl
      have hrest := ih (encodeOne format now pair.1 pair.2 s).2
      rw [hone] at hrest
      exact hrest

/-- What a batch has done with buffers when it is over, if these are its messages. -/
structure Returned (maxIdle : Nat) (pools pools' : BufferPools)
    (messages : List (Encoding × Message)) (o : Outcome) : Prop where
  /-- Nothing is encoded for an invalid batch, and a message for each metric otherwise. -/
  complete : ((∃ e, o.result = .error (.invalidMetric e)) ∧ messages = [])
    ∨ ((∀ e, o.result ≠ .error (.invalidMetric e)) ∧ messages.length = o.metrics.length)
  encodings : o.encodings = messages.map (·.1)
  /-- A message is of the kind of its encoding, and holds what its own metric is encoded to. -/
  own : ∀ (i : Nat) (encoding : Encoding) (message : Message),
    messages[i]? = some (encoding, message) → ∃ (m : Metric) (key : MetricKey),
      o.metrics[i]? = some m ∧ m.key = .ok key
        ∧ message = ⟨encoding.bufferKind, encoding.payload m key⟩
  /-- What is submitted are the first of these messages. -/
  submitted : ∃ n, o.submission.records.map (·.payload) = (messages.take n).map (·.2.payload)
  /-- Nothing else has been done with the pools, so that more calls and batches can follow. -/
  reached : pools' = pools.run (batchCalls (messages.map (·.2)))
  /-- Each pool has as many idle buffers as before, or as many as were needed of its kind and may
  be kept. -/
  idle : ∀ kind, (pools'.get kind).idleCount =
    max (pools.get kind).idleCount (min maxIdle (messages.countP (·.2.kind = kind)))

/-- A batch without messages leaves the pools as they are. -/
theorem returned_nil {maxIdle : Nat} {pools : BufferPools} {o : Outcome}
    (hresult : (∃ e, o.result = .error (.invalidMetric e))
      ∨ (∀ e, o.result ≠ .error (.invalidMetric e)) ∧ o.metrics = [])
    (hencodings : o.encodings = []) (hrecords : o.submission.records = []) :
    Returned maxIdle pools pools [] o where
  complete := by
    rcases hresult with hinvalid | ⟨hvalid, hmetrics⟩
    · exact Or.inl ⟨hinvalid, rfl⟩
    · exact Or.inr ⟨hvalid, (congrArg List.length hmetrics).symm⟩
  encodings := hencodings
  own := by
    intro i encoding message h
    rw [List.getElem?_nil] at h
    cases h
  submitted := ⟨0, by rw [hrecords]; rfl⟩
  reached := rfl
  idle := by
    intro kind
    rw [List.countP_nil]
    omega

/-- The payloads of a batch are those of its messages. -/
theorem payloads_recordsOf (p : Publisher) {metrics : List Metric}
    {messages : List (Encoding × Message)} (h : messages.length ≤ metrics.length) :
    (recordsOf p metrics messages).map (·.payload) = messages.map (·.2.payload) := by
  have hzip : (metrics.zip messages).map (·.2) = messages := List.map_snd_zip h
  calc (recordsOf p metrics messages).map (·.payload)
      = ((metrics.zip messages).map (·.2)).map (·.2.payload) := by
        rw [recordsOf, List.map_map, List.map_map]
        rfl
    _ = messages.map (·.2.payload) := by rw [hzip]

/-- **A batch that is sent gives its buffers back, however it ends.** -/
theorem returned_send {maxIdle : Nat} {p : Publisher} {b : Broker σ} {now : Timestamp}
    {batch metrics : List Metric} {keys : List MetricKey} {s : State σ}
    (h : s.pools.Kept maxIdle) (hnormal : normalize p.schemas batch = (metrics, .ok keys)) :
    Returned maxIdle s.pools (send p b now metrics keys s).2.pools
      (encodeBatch p now metrics keys s).1 (send p b now metrics keys s).1 := by
  obtain ⟨hmetrics, hkeys⟩ := length_normalize hnormal
  have hlength : (encodeBatch p now metrics keys s).1.length = metrics.length := by
    rw [encodeBatch, length_encode, List.length_zip]
    omega
  have hpools : (send p b now metrics keys s).2.pools =
      s.pools.run (batchCalls ((encodeBatch p now metrics keys s).1.map (·.2))) := by
    rw [batchCalls, BufferPools.run_append]
    exact congrArg (BufferPools.releaseAll · _) (pools_encode ..)
  refine ⟨Or.inr ⟨result_send_ne_invalidMetric p b now metrics keys s, hlength⟩, rfl, ?_, ?_, hpools,
    ?_⟩
  · intro i encoding message hmessage
    -- there is a sample at the place of the message
    obtain ⟨hi, -⟩ := List.getElem?_eq_some_iff.mp hmessage
    obtain ⟨m, hm⟩ : ∃ m, metrics[i]? = some m := ⟨_, List.getElem?_eq_getElem (by omega)⟩
    obtain ⟨key, hkey⟩ : ∃ key, keys[i]? = some key := ⟨_, List.getElem?_eq_getElem (by omega)⟩
    have hpair : (metrics.zip keys)[i]? = some (m, key) :=
      List.getElem?_zip_eq_some.mpr ⟨hm, hkey⟩
    refine ⟨m, key, hm, (key_of_normalize hnormal hm).mp hkey, ?_⟩
    rw [message_encode h.clean hpair hmessage, writeMessage_eq, List.nil_append]
  · refine ⟨acceptedCount (answersOf b metrics.length
      (batchRecords p now metrics keys s) s.broker) + 1, ?_⟩
    rw [records_send, List.map_take, batchRecords, payloads_recordsOf p hlength.le, List.map_take]
  · intro kind
    rw [hpools, idleCount_batchCalls h, List.countP_map]
    rfl

/-- **Buffers come back and never carry what they held.**

Take any calls on the two pools of a publisher, whatever the limit and whatever has been written into
the buffers. No pool has more idle buffers than the limit allows, all of them are empty, and so is
every buffer that is acquired or that a message is pushed into.

Take any batch then. However it ends, each of its messages is what its own metric is encoded to, and
each pool has as many idle buffers as it had, or, if this is more, as many as the batch has encoded
messages of this kind, up to the limit. -/
theorem buffers_come_back (maxIdle : Nat) (calls : List PoolCall) :
    let pools := (BufferPools.ofMaxIdle maxIdle).run calls
    (∀ kind, (pools.get kind).idleCount ≤ maxIdle
        ∧ (∀ buffer ∈ (pools.get kind).idle, buffer = [])
        ∧ (pools.get kind).acquire.1 = []
        ∧ ∀ write, (pools.push kind write).1 = ⟨kind, write []⟩)
      ∧ ∀ (p : Publisher) (b : Broker σ) (now : Timestamp) (batch : List Metric)
          (cache : Option Novelty.KeyCache) (broker : σ),
        let s : State σ := ⟨cache, pools, broker⟩
        Returned maxIdle pools (publishAt p b now batch s).2.pools (messagesOf p now batch s)
          (publishAt p b now batch s).1 := by
  intro pools
  have hkept : pools.Kept maxIdle :=
    BufferPools.kept_run (BufferPools.kept_ofMaxIdle maxIdle) calls
  refine ⟨fun kind => ⟨(hkept kind).bounded, (hkept kind).empty,
    (BufferPool.acquire_of_empty (hkept kind).empty).1,
    fun write => (BufferPools.push_spec hkept.clean kind write).1⟩, ?_⟩
  intro p b now batch cache broker s
  rcases hnormal : normalize p.schemas batch with ⟨metrics, result⟩
  cases result with
  | error e =>
      rw [publishAt_of_invalid b now s hnormal, messagesOf, hnormal]
      exact returned_nil (Or.inl ⟨e, rfl⟩) rfl rfl
  | ok keys =>
      by_cases hbatch : batch = []
      · subst hbatch
        refine returned_nil (Or.inr ⟨?_, rfl⟩) rfl rfl
        intro e h
        cases h
      · rw [publishAt_of_normalize hbatch hnormal, messagesOf, hnormal]
        exact returned_send (s := s) hkept hnormal

end MetricGateway.Publish
