import MetricGateway.Proofs.Result
import MetricGateway.Storage.Schema

/-!
# Which schemas can be used

Schemas are made ready one after the other, and the first that is wrong is what
is complained about. So they can all be used if and only if each of them can, and
the last one is meant to match every name. What they are made ready for keeps
their names, their patterns and their retentions.

This holds for patterns of any language. Which patterns are meant to match every
name depends on how they are written only, and a compiled pattern keeps that.
-/

namespace MetricGateway.Storage

open Result (exists_mapM_eq_ok_iff mapM_eq_ok_iff)

variable {language : PatternLanguage}

/-! ## Schemas -/

/-- The parts of a text in which retentions are looked for. -/
def retentionParts (s : String) : List (List Char) :=
  (Text.split ',' s.toList).filter fun part => !Text.isBlankText part

/-- A schema can be used: its pattern is one, it has a retention, and all its retentions can be
read. -/
structure SchemaConfig.Usable (language : PatternLanguage) (c : SchemaConfig) : Prop where
  pattern : ∃ program, language.compile c.pattern = .ok program
  nonempty : retentionParts c.retentions ≠ []
  retentions : ∀ part ∈ retentionParts c.retentions, ∃ r, Retention.parse (String.ofList part) = .ok r

/-- The patterns that are meant to match every name. -/
def IsCatchAll (pattern : String) : Prop := pattern = "" ∨ pattern = ".*" ∨ pattern = "^.*$"

namespace Schema

/-- What a schema that can be used is made ready for. -/
theorem ofConfig_eq_ok {c : SchemaConfig} {s : Schema} (h : ofConfig language c = .ok s) :
    s.name = c.name
      ∧ (∃ program, language.compile c.pattern = .ok program
        ∧ s.pattern = language.pattern program)
      ∧ readRetentions c.retentions = .ok s.retentions := by
  rw [ofConfig] at h
  split at h
  · cases h
  · rename_i program hprogram
    split at h
    · cases h
    · cases h
    · rename_i finest coarser hretentions
      cases h
      exact ⟨rfl, ⟨program, hprogram, rfl⟩, hretentions⟩

theorem isCatchAll_iff {c : SchemaConfig} {s : Schema} (h : ofConfig language c = .ok s) :
    s.isCatchAll = true ↔ IsCatchAll c.pattern := by
  obtain ⟨-, ⟨program, hprogram, hpattern⟩, -⟩ := ofConfig_eq_ok h
  have hsource : s.pattern.source = c.pattern := by
    rw [hpattern]
    exact language.source_of_compile hprogram
  rw [isCatchAll, hsource]
  simp [IsCatchAll]

/-- **A schema is made ready if and only if it can be used.** -/
theorem exists_ofConfig_iff {c : SchemaConfig} :
    (∃ s, ofConfig language c = .ok s) ↔ c.Usable language := by
  constructor
  · rintro ⟨s, h⟩
    obtain ⟨-, ⟨program, hprogram, -⟩, hretentions⟩ := ofConfig_eq_ok h
    have hread := mapM_eq_ok_iff.mp hretentions
    refine ⟨⟨program, hprogram⟩, fun hnone => ?_, exists_mapM_eq_ok_iff.mp ⟨_, hretentions⟩⟩
    rw [retentionParts] at hnone
    rw [hnone, retentions] at hread
    cases hread
  · rintro ⟨⟨program, hprogram⟩, hnonempty, hretentions⟩
    obtain ⟨rs, hrs⟩ := exists_mapM_eq_ok_iff.mpr hretentions
    have hread : readRetentions c.retentions = .ok rs := hrs
    cases rs with
    | nil => exact absurd (List.map_eq_nil_iff.mp (mapM_eq_ok_iff.mp hrs)) hnonempty
    | cons finest coarser =>
        exact ⟨⟨c.name, language.pattern program, finest, coarser⟩, by
          rw [ofConfig, hprogram]
          dsimp only
          rw [hread]⟩

end Schema

namespace Schemas

/-- The schemas that are ready are those that were configured, in order. -/
theorem ofConfigs_eq_ok_iff {configs : List SchemaConfig} {s : Schemas} :
    ofConfigs language configs = .ok s ↔
      configs.mapM (Schema.ofConfig language) = .ok s.toList ∧ s.catchAll.isCatchAll = true := by
  rw [ofConfigs]
  cases hread : configs.mapM (Schema.ofConfig language) with
  | error e => exact iff_of_false nofun fun h => nomatch h.1
  | ok schemas =>
      rw [Except.ok.injEq]
      dsimp only [bind, Except.bind]
      constructor
      · intro h
        split at h
        case h_1 last hlast =>
          obtain ⟨specific, rfl⟩ := List.getLast?_eq_some_iff.mp hlast
          split at h
          case isTrue hall =>
            rw [List.dropLast_concat] at h
            cases h
            exact ⟨rfl, hall⟩
          case isFalse => cases h
        case h_2 => cases h
      · rintro ⟨rfl, hall⟩
        rw [toList, List.getLast?_concat]
        simp [hall]

/-- **Schemas are made ready if and only if each can be used and the last is meant to match every
name.** -/
theorem exists_ofConfigs_iff {configs : List SchemaConfig} :
    (∃ s, ofConfigs language configs = .ok s) ↔ (∀ c ∈ configs, c.Usable language)
      ∧ ∃ last, configs.getLast? = some last ∧ IsCatchAll last.pattern := by
  have husable : (∃ schemas, configs.mapM (Schema.ofConfig language) = .ok schemas) ↔
      ∀ c ∈ configs, c.Usable language := by
    rw [exists_mapM_eq_ok_iff]
    exact forall₂_congr fun c _ => Schema.exists_ofConfig_iff
  -- the last schema is made from the last configured one
  have hends : ∀ {s : Schemas} {c : SchemaConfig},
      configs.mapM (Schema.ofConfig language) = .ok s.toList → configs.getLast? = some c →
      Schema.ofConfig language c = .ok s.catchAll := by
    intro s c hread hlast
    have h := congrArg List.getLast? (mapM_eq_ok_iff.mp hread)
    rw [List.getLast?_map, hlast, toList, List.map_append, List.map_singleton,
      List.getLast?_concat] at h
    exact Option.some.inj h
  constructor
  · rintro ⟨s, hs⟩
    obtain ⟨hread, hall⟩ := ofConfigs_eq_ok_iff.mp hs
    refine ⟨husable.mp ⟨_, hread⟩, ?_⟩
    cases hlast : configs.getLast? with
    | none =>
        rw [List.getLast?_eq_none_iff.mp hlast, List.mapM_nil, toList] at hread
        exact absurd (Except.ok.inj hread).symm (by simp)
    | some last => exact ⟨last, rfl, (Schema.isCatchAll_iff (hends hread hlast)).mp hall⟩
  · rintro ⟨hall, last, hlast, hpattern⟩
    obtain ⟨schemas, hread⟩ := husable.mpr hall
    have hlast' := congrArg List.getLast? (mapM_eq_ok_iff.mp hread)
    rw [List.getLast?_map, List.getLast?_map, hlast] at hlast'
    obtain ⟨catchAll, hcatchAll, -⟩ := Option.map_eq_some_iff.mp hlast'.symm
    obtain ⟨specific, rfl⟩ := List.getLast?_eq_some_iff.mp hcatchAll
    have hready : configs.mapM (Schema.ofConfig language) = .ok (toList ⟨specific, catchAll⟩) :=
      hread
    exact ⟨⟨specific, catchAll⟩, ofConfigs_eq_ok_iff.mpr
      ⟨hready, (Schema.isCatchAll_iff (hends hready hlast)).mpr hpattern⟩⟩

end Schemas

end MetricGateway.Storage
