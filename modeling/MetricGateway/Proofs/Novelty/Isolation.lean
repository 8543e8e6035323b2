import MetricGateway.Proofs.Novelty.Window

/-!
# Organizations of the novelty cache keep to themselves

All organizations share one cache, its clock and its prunes. What one of them can
notice are the answers to its own calls and what the cache keeps of it: whether
it has shards at all, and which keys and ages are in them. None of this depends
on the calls that other organizations make.

The argument compares two caches that agree on one organization. A call that
concerns it, its own or a prune, is answered alike by both and leaves them
alike. Any other call leaves the organization as it is, so one cache may skip it.
-/

namespace MetricGateway.Novelty

namespace Call

/-- Whether a call concerns an organization: it names a series of it, or it is a prune. -/
def concerns (org : OrgId) (call : Call) : Bool :=
  match call.key? with
  | some key => key.org = org
  | none => true

/-- What a call of a series is answered. The report of a prune is not for organizations. -/
def answer? (c : KeyCache) : Call → Option Bool
  | touch key now => some (c.touch key now).1
  | forget key => some (c.forget key).1
  | prune _ => none

end Call

/-- What an organization notices of a call. -/
structure Notice where
  call : Call
  answer : Option Bool
  /-- The shards of the organization afterwards, if it has any. -/
  shards : Option OrgCache

namespace KeyCache

/-- What an organization notices of calls, in order. -/
def noticed (c : KeyCache) (org : OrgId) : List Call → List Notice
  | [] => []
  | call :: rest =>
    let after := call.apply c
    if call.concerns org then ⟨call, call.answer? c, after.orgs[org]?⟩ :: after.noticed org rest
    else after.noticed org rest

/-- Two caches with the same limits keep the same of an organization. -/
structure AlikeFor (org : OrgId) (c d : KeyCache) : Prop where
  shardCount : c.shardCount = d.shardCount
  stale : c.stale = d.stale
  shards : c.orgs[org]? = d.orgs[org]?

namespace AlikeFor

variable {org : OrgId} {c d : KeyCache}

theorem refl (org : OrgId) (c : KeyCache) : AlikeFor org c c := ⟨rfl, rfl, rfl⟩

/-- Caches that are alike set up the same shards. -/
theorem orgCache (h : AlikeFor org c d) (time : Bucket) :
    c.orgCache org time = d.orgCache org time := by
  rw [KeyCache.orgCache, KeyCache.orgCache, h.shards, h.shardCount, h.stale]

/-- A call that concerns the organization is answered alike. -/
theorem answer (h : AlikeFor org c d) {call : Call} (hcall : call.concerns org) :
    call.answer? c = call.answer? d := by
  cases call with
  | touch key now =>
      have horg : key.org = org := of_decide_eq_true hcall
      subst horg
      have hcache := h.orgCache (.ofTimestamp now)
      exact congrArg (fun cache => some (OrgCache.touch cache key.key (.ofTimestamp now)).1) hcache
  | forget key =>
      have horg : key.org = org := of_decide_eq_true hcall
      subst horg
      rw [Call.answer?, Call.answer?, forget_fst, forget_fst, lastSeen, lastSeen, h.shards]
  | prune now => rfl

/-- A call that concerns the organization leaves it alike. -/
theorem apply (h : AlikeFor org c d) {call : Call} (hcall : call.concerns org) :
    AlikeFor org (call.apply c) (call.apply d) where
  shardCount := by rw [shardCount_apply, shardCount_apply, h.shardCount]
  stale := by rw [stale_apply, stale_apply, h.stale]
  shards := by
    cases call with
    | touch key now =>
        have horg : key.org = org := of_decide_eq_true hcall
        subst horg
        rw [Call.apply, Call.apply, orgs_touch, orgs_touch, if_pos rfl, if_pos rfl, h.orgCache]
    | forget key => rw [Call.apply, Call.apply, orgs_forget, orgs_forget, h.shards]
    | prune now => rw [Call.apply, Call.apply, orgs_prune, orgs_prune, h.shards]

/-- A call that does not concern the organization may be skipped. -/
theorem skip (h : AlikeFor org c d) {call : Call} (hcall : ¬ call.concerns org) :
    AlikeFor org (call.apply c) d where
  shardCount := by rw [shardCount_apply, h.shardCount]
  stale := by rw [stale_apply, h.stale]
  shards := by
    cases call with
    | touch key now =>
        have horg : org ≠ key.org := fun heq => hcall (decide_eq_true heq.symm)
        rw [Call.apply, orgs_touch, if_neg horg, h.shards]
    | forget key =>
        have horg : org ≠ key.org := fun heq => hcall (decide_eq_true heq.symm)
        rw [Call.apply, orgs_forget, if_neg horg, h.shards]
    | prune now => exact absurd rfl hcall

/-- Calls of other organizations may be skipped in every run. -/
theorem run (h : AlikeFor org c d) (calls : List Call) :
    AlikeFor org (c.run calls) (d.run (calls.filter (·.concerns org))) := by
  induction calls generalizing c d with
  | nil => exact h
  | cons call rest ih =>
      by_cases hcall : call.concerns org
      · rw [List.filter_cons_of_pos hcall]
        exact ih (h.apply hcall)
      · rw [List.filter_cons_of_neg hcall]
        exact ih (h.skip hcall)

/-- Without the calls of other organizations, an organization notices the same. -/
theorem noticed (h : AlikeFor org c d) (calls : List Call) :
    c.noticed org calls = d.noticed org (calls.filter (·.concerns org)) := by
  induction calls generalizing c d with
  | nil => rfl
  | cons call rest ih =>
      by_cases hcall : call.concerns org
      · have hafter := h.apply hcall
        rw [List.filter_cons_of_pos hcall, KeyCache.noticed, KeyCache.noticed, if_pos hcall,
          if_pos hcall, h.answer hcall, hafter.shards, ih hafter]
      · rw [List.filter_cons_of_neg hcall, KeyCache.noticed, if_neg hcall, ih (h.skip hcall)]

end AlikeFor

/--
**Organizations do not interfere.**

Take any cache that the configuration allows, any calls with any times, and an
organization. Deleting all calls that name series of other organizations changes
nothing for this one: its touches and forgets are answered as before, and after
each of them, after each prune and at the end it has the same shards, with the
same keys and ages in them, or has none as before.
-/
theorem organizations_isolated (config : CacheConfig) (hvalid : config.validate = .ok ())
    (org : OrgId) (calls : List Call) :
    ∃ fresh, ofConfig config = .ok fresh
      ∧ fresh.noticed org calls = fresh.noticed org (calls.filter (·.concerns org))
      ∧ (fresh.run calls).orgs[org]? =
          (fresh.run (calls.filter (·.concerns org))).orgs[org]? := by
  obtain ⟨stale, -, -, hfresh⟩ := ofConfig_of_validate hvalid
  have halike := AlikeFor.refl org ⟨stale, config.pruneInterval, config.shardCount, ∅⟩
  exact ⟨_, hfresh, halike.noticed calls, (halike.run calls).shards⟩

/-- An organization whose only series is pruned away between two touches, beside another one that has
a series of the same key, touches it far ahead and forgets it. -/
theorem organizations_isolated_of_shared_key :
    ∃ fresh, ofConfig {} = .ok fresh ∧
      fresh.noticed ⟨7⟩ [.touch ⟨⟨7⟩, ⟨.replicate 16 1⟩⟩ ⟨0⟩,
          .touch ⟨⟨8⟩, ⟨.replicate 16 1⟩⟩ ⟨600⟩, .touch ⟨⟨8⟩, ⟨.replicate 16 1⟩⟩ ⟨200000⟩,
          .prune ⟨20000⟩, .forget ⟨⟨8⟩, ⟨.replicate 16 1⟩⟩, .prune ⟨30000⟩,
          .touch ⟨⟨7⟩, ⟨.replicate 16 1⟩⟩ ⟨30600⟩] =
        fresh.noticed ⟨7⟩ [.touch ⟨⟨7⟩, ⟨.replicate 16 1⟩⟩ ⟨0⟩, .prune ⟨20000⟩, .prune ⟨30000⟩,
          .touch ⟨⟨7⟩, ⟨.replicate 16 1⟩⟩ ⟨30600⟩] := by
  obtain ⟨fresh, hfresh, hnoticed, -⟩ := organizations_isolated {} rfl ⟨7⟩
    [.touch ⟨⟨7⟩, ⟨.replicate 16 1⟩⟩ ⟨0⟩, .touch ⟨⟨8⟩, ⟨.replicate 16 1⟩⟩ ⟨600⟩,
      .touch ⟨⟨8⟩, ⟨.replicate 16 1⟩⟩ ⟨200000⟩, .prune ⟨20000⟩,
      .forget ⟨⟨8⟩, ⟨.replicate 16 1⟩⟩, .prune ⟨30000⟩,
      .touch ⟨⟨7⟩, ⟨.replicate 16 1⟩⟩ ⟨30600⟩]
  exact ⟨fresh, hfresh, hnoticed⟩

end KeyCache

end MetricGateway.Novelty
