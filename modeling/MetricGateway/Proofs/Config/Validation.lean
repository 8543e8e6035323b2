import Mathlib
import MetricGateway.Config.Basic
import MetricGateway.Pattern.Regular
import MetricGateway.Stats.Measurement
import MetricGateway.Proofs.Novelty.Cache
import MetricGateway.Proofs.Number.Order
import MetricGateway.Proofs.Storage.Schema

/-!
# Configurations that pass

Settings are checked once, before anything is done with them, and what is set up
from them afterwards checks some of them again in its own terms. The threshold of
the novelty cache is a span of time in the check and a number of buckets in the
cache; the sample rate is compared in the check and moved into its interval by
the client of the measurements.

What passes is said here in plain terms, and nothing that passes is refused or
changed later.
-/

namespace MetricGateway.Config

open Novelty (KeyCache)
open Number (Binary64)
open Result (check_eq_ok_iff check_if_eq_ok_iff mapError_eq_ok_iff throw_if_eq_ok_iff)
open Stats (SampleRate)
open Storage (IsCatchAll Schemas)

variable {language : PatternLanguage}

/-- Settings that the gateway can run with, where patterns are written in some language. -/
structure Admissible (language : PatternLanguage) (s : Settings) : Prop where
  /-- Both spans of the novelty cache are at most forty hours. -/
  staleThreshold : s.publish.staleThreshold ≤ 40 * 60 * 60
  pruneInterval : s.publish.pruneInterval ≤ 40 * 60 * 60
  pruneInterval_ne_zero : s.publish.pruneInterval ≠ 0
  shardCount : 1 ≤ s.publish.shardCount ∧ s.publish.shardCount ≤ 256
  /-- All schemas can be used, and the last one is meant to match every name. -/
  schemas : ∀ c ∈ s.schemas, c.Usable language
  catchAll : ∃ last, s.schemas.getLast? = some last ∧ IsCatchAll last.pattern
  /-- There is somewhere to publish to. -/
  broker : s.publish.enabled = true →
    ∃ broker ∈ s.producer.brokers, ∃ c ∈ broker.toList, Text.isBlank c = false
  topic : s.publish.enabled = true → s.producer.topic ≠ ""
  /-- Points without organization go to partitions that tell it. -/
  scheme : s.publish.compact = true → s.publish.compactWithOrg = false →
    s.producer.scheme = .byOrg
  /-- The sample rate is a number from zero to one. -/
  sampleRate : ∃ q, s.metrics.sampleRate.toRat? = some q ∧ 0 ≤ q ∧ q ≤ 1

/-! ## The checks one by one -/

/-- Spans of seconds are compared as their seconds are. -/
theorem cacheConfig_validate_eq_ok_iff {p : PublishSettings} :
    p.cacheConfig.validate = .ok () ↔ p.staleThreshold ≤ 40 * 60 * 60
      ∧ p.pruneInterval ≤ 40 * 60 * 60 ∧ p.pruneInterval ≠ 0
      ∧ 1 ≤ p.shardCount ∧ p.shardCount ≤ 256 := by
  rw [Novelty.CacheConfig.validate_eq_ok_iff]
  simp only [PublishSettings.cacheConfig, Novelty.longestSpan, Novelty.maxShards,
    Duration.ofSeconds, Duration.ofParts]
  omega

theorem producer_validate_eq_ok_iff {p : ProducerSettings} :
    p.validate = .ok () ↔
      (∃ broker ∈ p.brokers, ∃ c ∈ broker.toList, Text.isBlank c = false) ∧ p.topic ≠ "" := by
  have hblank : (p.brokers.all fun b => Text.isBlankText b.toList) = false ↔
      ∃ broker ∈ p.brokers, ∃ c ∈ broker.toList, Text.isBlank c = false := by
    simp [Text.isBlankText]
  rw [← hblank, ProducerSettings.validate]
  split
  case isTrue hnone => exact iff_of_false nofun fun h => absurd (hnone.symm.trans h.1) nofun
  case isFalse hsome =>
    split
    case isTrue hempty => exact iff_of_false nofun fun h => h.2 (String.isEmpty_iff.mp hempty)
    case isFalse htopic =>
      exact iff_of_true rfl ⟨Bool.eq_false_iff.mpr hsome, fun h => htopic (String.isEmpty_iff.mpr h)⟩

theorem hidesOrg_eq_false_iff {s : Settings} :
    hidesOrg s = false ↔ (s.publish.compact = true → s.publish.compactWithOrg = false →
      s.producer.scheme = .byOrg) := by
  simp [hidesOrg]

theorem isShare_iff {x : Binary64} :
    isShare x = true ↔ ∃ q, x.toRat? = some q ∧ 0 ≤ q ∧ q ≤ 1 := by
  rw [isShare, Bool.and_eq_true]
  exact Binary64.between_iff Binary64.toRat?_zero Binary64.toRat?_one

theorem schemas_eq_ok_iff {c : Config} {schemas : Schemas} :
    c.schemas language = .ok schemas ↔
      Schemas.ofConfigs language c.settings.schemas = .ok schemas :=
  mapError_eq_ok_iff

/-- A configuration passes if every check does that is made of it. -/
theorem validate_eq_ok_iff_checks {c : Config} :
    c.validate language = .ok () ↔ c.cacheConfig.validate = .ok ()
      ∧ (∃ schemas, c.schemas language = .ok schemas)
      ∧ (c.settings.publish.enabled = true → c.settings.producer.validate = .ok ())
      ∧ hidesOrg c.settings = false ∧ isShare c.settings.metrics.sampleRate = true := by
  have hthrow : ∀ e : ConfigError, (throw e : Except ConfigError Unit) ≠ .ok () := nofun
  have hlimits : (∃ u, c.cacheConfig.validate = .ok u) ↔ c.cacheConfig.validate = .ok () :=
    ⟨fun ⟨_, h⟩ => h, fun h => ⟨(), h⟩⟩
  rw [validate]
  simp only [check_eq_ok_iff, check_if_eq_ok_iff, throw_if_eq_ok_iff, mapError_eq_ok_iff, hlimits,
    hthrow, imp_false, Bool.not_eq_true, Bool.not_eq_false']

/-- **What passes.** -/
theorem validate_eq_ok_iff {c : Config} :
    c.validate language = .ok () ↔ Admissible language c.settings := by
  have hschemas : (∃ schemas, c.schemas language = .ok schemas) ↔
      (∀ s ∈ c.settings.schemas, s.Usable language)
      ∧ ∃ last, c.settings.schemas.getLast? = some last ∧ IsCatchAll last.pattern := by
    rw [← Schemas.exists_ofConfigs_iff]
    exact exists_congr fun _ => schemas_eq_ok_iff
  rw [validate_eq_ok_iff_checks, hschemas, cacheConfig, cacheConfig_validate_eq_ok_iff,
    producer_validate_eq_ok_iff, hidesOrg_eq_false_iff, isShare_iff]
  constructor
  · rintro ⟨⟨hstale, hprune, hpos, hcount⟩, ⟨hall, hlast⟩, hproducer, hscheme, hrate⟩
    exact ⟨hstale, hprune, hpos, hcount, hall, hlast, fun h => (hproducer h).1,
      fun h => (hproducer h).2, hscheme, hrate⟩
  · rintro ⟨hstale, hprune, hpos, hcount, hall, hlast, hbroker, htopic, hscheme, hrate⟩
    exact ⟨⟨hstale, hprune, hpos, hcount⟩, ⟨hall, hlast⟩, fun h => ⟨hbroker h, htopic h⟩, hscheme,
      hrate⟩

/-! ## What is set up afterwards -/

/-- The novelty cache counts its threshold in buckets, and forty hours are 240 of them. -/
theorem exists_cache_of_validate {c : Config} (h : c.validate language = .ok ()) :
    ∃ cache, KeyCache.ofConfig c.cacheConfig = .ok cache
      ∧ cache.stale.toNat = c.settings.publish.staleThreshold / 600 ∧ cache.stale.toNat ≤ 240 := by
  obtain ⟨hlimits, -⟩ := validate_eq_ok_iff_checks.mp h
  obtain ⟨stale, hstale, -, hcache⟩ := KeyCache.ofConfig_of_validate hlimits
  have hspan := (validate_eq_ok_iff.mp h).staleThreshold
  have hbuckets : stale.toNat = c.settings.publish.staleThreshold / 600 := by
    rw [hstale, cacheConfig, PublishSettings.cacheConfig, Duration.seconds_ofSeconds]
    rfl
  exact ⟨_, hcache, hbuckets, by dsimp only; omega⟩

/-- The client of the measurements leaves a sample rate alone that passes. -/
theorem rate_of_validate {c : Config} (h : c.validate language = .ok ()) :
    (SampleRate.ofDouble c.settings.metrics.sampleRate).rate = c.settings.metrics.sampleRate := by
  obtain ⟨-, -, -, -, hrate⟩ := validate_eq_ok_iff_checks.mp h
  obtain ⟨hlower, hupper⟩ := Bool.and_eq_true_iff.mp hrate
  exact Binary64.clamp_of_le hlower hupper

/-- **A configuration that passes cannot fail later.** Whatever language patterns are written in, it
passes if and only if its settings are admissible. If they are, the novelty cache is set up with at
most 240 buckets, the schemas are made ready and the sample rate stays what it is. -/
theorem admissible_settings_serve (language : PatternLanguage) (c : Config) :
    (c.validate language = .ok () ↔ Admissible language c.settings)
      ∧ (Admissible language c.settings →
        (∃ cache, KeyCache.ofConfig c.cacheConfig = .ok cache
            ∧ cache.stale.toNat = c.settings.publish.staleThreshold / 600
            ∧ cache.stale.toNat ≤ 240)
          ∧ (∃ schemas, Schemas.ofConfigs language c.settings.schemas = .ok schemas)
          ∧ (SampleRate.ofDouble c.settings.metrics.sampleRate).rate =
            c.settings.metrics.sampleRate) := by
  refine ⟨validate_eq_ok_iff, fun hadmissible => ?_⟩
  have h := validate_eq_ok_iff.mpr hadmissible
  obtain ⟨-, ⟨schemas, hschemas⟩, -⟩ := validate_eq_ok_iff_checks.mp h
  exact ⟨exists_cache_of_validate h, ⟨schemas, schemas_eq_ok_iff.mp hschemas⟩, rate_of_validate h⟩

/-- Spans of forty hours, one shard, points without organization to partitions by organization, and a
blank broker beside one that is none: this passes, and the cache counts 240 buckets. One second more
does not pass. -/
theorem admissible_settings_serve_at_limits :
    let publish : PublishSettings :=
      { enabled := true, compactWithOrg := false, staleThreshold := 144000, pruneInterval := 144000
        shardCount := 1 }
    let producer : ProducerSettings := { brokers := [" ", "kafka:9092"], scheme := .byOrg }
    let c : Config := { settings := { publish, producer } }
    let longer : Config :=
      { settings := { publish := { publish with staleThreshold := 144001 }, producer } }
    let regular : PatternLanguage := .regular
    c.validate regular = .ok () ∧ longer.validate regular ≠ .ok ()
      ∧ ∃ cache, KeyCache.ofConfig c.cacheConfig = .ok cache ∧ cache.stale.toNat = 240 := by
  intro publish producer c longer regular
  have hprogram : ∃ program, regular.compile ".*" = .ok program := ⟨_, by cbv⟩
  have hparts : Storage.retentionParts "1m:30d" = ["1m:30d".toList] := by cbv
  have hretention : ∃ r, Storage.Retention.parse "1m:30d" = .ok r := ⟨_, by cbv⟩
  have husable : Storage.SchemaConfig.default.Usable regular :=
    ⟨hprogram, by
      rw [Storage.SchemaConfig.default, hparts]
      exact List.cons_ne_nil _ _, by
      rw [Storage.SchemaConfig.default, hparts]
      intro part hmem
      rw [List.mem_singleton.mp hmem, String.ofList_toList]
      exact hretention⟩
  have hadmissible : Admissible regular c.settings :=
    { staleThreshold := Nat.le_refl _
      pruneInterval := Nat.le_refl _
      pruneInterval_ne_zero := by decide
      shardCount := by decide
      schemas := fun s hmem => List.mem_singleton.mp hmem ▸ husable
      catchAll := ⟨.default, rfl, Or.inr (Or.inl rfl)⟩
      broker := fun _ => ⟨"kafka:9092", by decide, 'k', by decide, by decide⟩
      topic := fun _ => by decide
      scheme := fun _ _ => rfl
      sampleRate := ⟨1, Binary64.toRat?_one, by decide, by decide⟩ }
  obtain ⟨⟨cache, hcache, hstale, -⟩, -⟩ := (admissible_settings_serve regular c).2 hadmissible
  refine ⟨(admissible_settings_serve regular c).1.mpr hadmissible, fun h => ?_, cache, hcache,
    hstale.trans (by decide)⟩
  exact absurd ((admissible_settings_serve regular longer).1.mp h).staleThreshold (by decide)

end MetricGateway.Config
