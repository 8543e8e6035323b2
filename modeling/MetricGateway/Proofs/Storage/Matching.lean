import Mathlib
import MetricGateway.Pattern.Regular
import MetricGateway.Proofs.Storage.Retention
import MetricGateway.Proofs.Storage.Schema

/-!
# Which schema a name gets

Schemas are made ready in the order in which they are configured, each with its
pattern before its retentions. So the complaint is that of the first schema with a
fault, and a catch-all is missed only where no schema has one (`SchemaConfig.Fault`).

A name gets the first schema whose pattern matches it. That the last schema is
meant to match every name does not make it so: `^.*$` matches no name with a line
break. It is taken for such a name nevertheless, so every name gets a schema, and
with it an interval that is not zero.
-/

namespace MetricGateway.Storage

open Result (exists_mapM_eq_ok_iff mapM_eq_error_iff mapM_eq_ok_iff)

variable {language : PatternLanguage}

namespace SchemaConfig

/-- What is wrong with a schema in the first place. -/
inductive Fault (language : PatternLanguage) (c : SchemaConfig) : SchemaError → Prop
  /-- Why the pattern is none. -/
  | pattern {cause : String} : language.compile c.pattern = .error cause →
      Fault language c (.invalidPattern c.name cause)
  /-- The first retention that cannot be read. -/
  | retention {program : language.Program} {before behind : List (List Char)} {part : List Char} :
      language.compile c.pattern = .ok program →
      retentionParts c.retentions = before ++ part :: behind →
      (∀ p ∈ before, ∃ r, Retention.parse (String.ofList p) = .ok r) →
      (∀ r, Retention.parse (String.ofList part) ≠ .ok r) →
      Fault language c (.invalidRetention (String.ofList part))
  | empty {program : language.Program} : language.compile c.pattern = .ok program →
      retentionParts c.retentions = [] → Fault language c (.emptyRetentions c.name)

/-- The pattern of a schema matches a name. -/
def Matches (language : PatternLanguage) (c : SchemaConfig) (name : String) : Prop :=
  ∃ program, language.compile c.pattern = .ok program ∧ language.isMatch program name = true

end SchemaConfig

/-! ## Complaints -/

namespace Schema

/-- **The complaint about a schema is about what is wrong with it.** -/
theorem ofConfig_eq_error_iff {c : SchemaConfig} {e : SchemaError} :
    ofConfig language c = .error e ↔ c.Fault language e := by
  constructor
  · intro h
    rw [ofConfig] at h
    split at h
    case h_1 cause hprogram =>
      cases h
      exact .pattern hprogram
    case h_2 program hprogram =>
      split at h
      case h_1 err hread =>
        cases h
        obtain ⟨before, part, behind, hparts, hbefore, hpart⟩ := mapM_eq_error_iff.mp hread
        rcases Retention.parse_cases (String.ofList part) with ⟨r, hr⟩ | herror
        · rw [hr] at hpart; cases hpart
        · obtain rfl := Except.error.inj (hpart.symm.trans herror)
          exact .retention hprogram hparts hbefore fun r hr => by rw [hr] at hpart; cases hpart
      case h_2 hread =>
        cases h
        exact .empty hprogram (List.map_eq_nil_iff.mp (mapM_eq_ok_iff.mp hread))
      case h_3 => cases h
  · intro h
    cases h with
    | pattern hprogram => rw [ofConfig, hprogram]
    | @retention _ _ _ part hprogram hparts hbefore hpart =>
        have herror := (Retention.parse_cases (String.ofList part)).resolve_left
          (not_exists.mpr hpart)
        have hread : readRetentions c.retentions = .error ⟨String.ofList part⟩ :=
          mapM_eq_error_iff.mpr ⟨_, part, _, hparts, hbefore, herror⟩
        rw [ofConfig, hprogram]
        dsimp only
        rw [hread]
    | empty hprogram hparts =>
        have hread : readRetentions c.retentions = .ok [] :=
          mapM_eq_ok_iff.mpr (congrArg (List.map _) hparts)
        rw [ofConfig, hprogram]
        dsimp only
        rw [hread]

theorem isMatch_iff {c : SchemaConfig} {s : Schema} (h : ofConfig language c = .ok s)
    (name : String) : s.isMatch name = true ↔ c.Matches language name := by
  obtain ⟨-, ⟨program, hprogram, hpattern⟩, -⟩ := ofConfig_eq_ok h
  rw [isMatch, hpattern, SchemaConfig.Matches, hprogram]
  constructor
  · exact fun hmatch => ⟨program, rfl, hmatch⟩
  · rintro ⟨_, ⟨⟩, hmatch⟩
    exact hmatch

/-- The interval of a schema is the resolution of the first of its retentions. -/
theorem interval_of_ofConfig {c : SchemaConfig} {s : Schema} (h : ofConfig language c = .ok s) :
    ∃ part parts r, retentionParts c.retentions = part :: parts
      ∧ Retention.parse (String.ofList part) = .ok r ∧ s.interval = r.secondsPerPoint := by
  obtain ⟨-, -, hread⟩ := ofConfig_eq_ok h
  have hparts := mapM_eq_ok_iff.mp hread
  rw [retentions, List.map_cons] at hparts
  obtain ⟨part, parts, heq, hfinest, -⟩ := List.map_eq_cons_iff.mp hparts
  exact ⟨part, parts, s.finest, heq, hfinest, rfl⟩

end Schema

namespace Schemas

/-- **Schemas cannot be used for the fault of the first that has one**, or because the last is not
meant to match every name. -/
theorem ofConfigs_eq_error_iff {configs : List SchemaConfig} {e : SchemaError} :
    ofConfigs language configs = .error e ↔
      (∃ before c behind, configs = before ++ c :: behind
        ∧ (∀ d ∈ before, d.Usable language) ∧ c.Fault language e)
      ∨ ((∀ c ∈ configs, c.Usable language)
        ∧ (∀ last, configs.getLast? = some last → ¬ IsCatchAll last.pattern)
        ∧ e = .missingCatchAll) := by
  have hfault : configs.mapM (Schema.ofConfig language) = .error e ↔
      ∃ before c behind, configs = before ++ c :: behind
        ∧ (∀ d ∈ before, d.Usable language) ∧ c.Fault language e := by
    simp only [mapM_eq_error_iff, Schema.exists_ofConfig_iff, Schema.ofConfig_eq_error_iff]
  rw [← hfault]
  cases hread : configs.mapM (Schema.ofConfig language) with
  | error e' =>
      have herror : ofConfigs language configs = .error e' := by rw [ofConfigs, hread]; rfl
      rw [herror]
      constructor
      · rintro ⟨⟩
        exact Or.inl rfl
      · rintro (⟨⟨⟩⟩ | ⟨hall, -⟩)
        · rfl
        · obtain ⟨schemas, hok⟩ := exists_mapM_eq_ok_iff.mpr fun c hc =>
            Schema.exists_ofConfig_iff.mpr (hall c hc)
          rw [hread] at hok
          cases hok
  | ok schemas =>
      have hall : ∀ c ∈ configs, c.Usable language := fun c hc =>
        Schema.exists_ofConfig_iff.mp (exists_mapM_eq_ok_iff.mp ⟨schemas, hread⟩ c hc)
      have hcases : (∃ s, ofConfigs language configs = .ok s)
          ∨ ofConfigs language configs = .error .missingCatchAll := by
        rw [ofConfigs, hread]
        dsimp only [bind, Except.bind]
        split
        case h_1 =>
          split
          case isTrue => exact Or.inl ⟨_, rfl⟩
          case isFalse => exact Or.inr rfl
        case h_2 => exact Or.inr rfl
      constructor
      · intro herror
        refine Or.inr ⟨hall, fun last hlast hpattern => ?_, ?_⟩
        · obtain ⟨s, hs⟩ := exists_ofConfigs_iff.mpr ⟨hall, last, hlast, hpattern⟩
          rw [herror] at hs
          cases hs
        · rcases hcases with ⟨s, hs⟩ | hmissing
          · rw [herror] at hs; cases hs
          · exact Except.error.inj (herror.symm.trans hmissing)
      · rintro (⟨⟨⟩⟩ | ⟨-, hlast, rfl⟩)
        refine hcases.resolve_left fun hok => ?_
        obtain ⟨-, last, hends, hpattern⟩ := exists_ofConfigs_iff.mp hok
        exact hlast last hends hpattern

/-! ## Names -/

/-- A name gets the first schema that matches it, or else the last. -/
theorem find_cases (s : Schemas) (name : String) : ∃ before behind,
    s.toList = before ++ s.find name :: behind ∧ (∀ d ∈ before, d.isMatch name = false)
      ∧ ((s.find name).isMatch name = true ∨ behind = []) := by
  rw [find]
  cases hfind : s.toList.find? (·.isMatch name) with
  | none =>
      have hnone := List.find?_eq_none.mp hfind
      refine ⟨s.specific, [], rfl, fun d hd => ?_, Or.inr rfl⟩
      simpa using hnone d (List.mem_append_left _ hd)
  | some schema =>
      obtain ⟨hmatch, before, behind, hlist, hbefore⟩ := List.find?_eq_some_iff_append.mp hfind
      exact ⟨before, behind, hlist, fun d hd => by simpa using hbefore d hd, Or.inl hmatch⟩

/-- **The schema of a name is made of the first configuration that matches it**, or else of the
last. -/
theorem find_of_ofConfigs {configs : List SchemaConfig} {s : Schemas}
    (h : ofConfigs language configs = .ok s) (name : String) :
    ∃ before c behind, configs = before ++ c :: behind
      ∧ (∀ d ∈ before, ¬ d.Matches language name) ∧ (c.Matches language name ∨ behind = [])
      ∧ Schema.ofConfig language c = .ok (s.find name) := by
  obtain ⟨hread, -⟩ := ofConfigs_eq_ok_iff.mp h
  obtain ⟨before, behind, hlist, hbefore, hfind⟩ := s.find_cases name
  have hmap := mapM_eq_ok_iff.mp hread
  rw [hlist, List.map_append, List.map_cons] at hmap
  -- every schema is made of the configuration at its place
  obtain ⟨front, rest, rfl, hfront, hrest⟩ := List.map_eq_append_iff.mp hmap
  obtain ⟨c, back, rfl, hc, hback⟩ := List.map_eq_cons_iff.mp hrest
  refine ⟨front, c, back, rfl, fun d hd hmatches => ?_, ?_, hc⟩
  · have hmem : Schema.ofConfig language d ∈ before.map Except.ok := hfront ▸ List.mem_map_of_mem hd
    obtain ⟨schema, hschema, hok⟩ := List.mem_map.mp hmem
    have hmatch := (Schema.isMatch_iff hok.symm name).mpr hmatches
    rw [hbefore schema hschema] at hmatch
    cases hmatch
  · rcases hfind with hmatch | rfl
    · exact Or.inl ((Schema.isMatch_iff hc name).mp hmatch)
    · exact Or.inr (List.map_eq_nil_iff.mp hback)

/-- **Every name has an interval, and the first match decides it.**

Take patterns of any language: which texts can be compiled and what they match then may be as it
likes. Schemas are made ready if and only if each of them can be used and the last one is meant to
match every name. If they are not, the complaint is about what is wrong with the first that cannot
be used, or about the last one where all can. Once they are ready, a name gets the schema of the
first configuration that matches it, or else of the last one, whatever characters the name has;
its interval is the resolution of the first of the retentions, and it is at least one second. -/
theorem first_match_decides (language : PatternLanguage) (configs : List SchemaConfig) :
    ((∃ s, ofConfigs language configs = .ok s) ↔ (∀ c ∈ configs, c.Usable language)
        ∧ ∃ last, configs.getLast? = some last ∧ IsCatchAll last.pattern)
      ∧ (∀ e, ofConfigs language configs = .error e ↔
        (∃ before c behind, configs = before ++ c :: behind
          ∧ (∀ d ∈ before, d.Usable language) ∧ c.Fault language e)
        ∨ ((∀ c ∈ configs, c.Usable language)
          ∧ (∀ last, configs.getLast? = some last → ¬ IsCatchAll last.pattern)
          ∧ e = .missingCatchAll))
      ∧ ∀ s, ofConfigs language configs = .ok s → ∀ name,
        ∃ before c behind part parts r, configs = before ++ c :: behind
          ∧ (∀ d ∈ before, ¬ d.Matches language name) ∧ (c.Matches language name ∨ behind = [])
          ∧ Schema.ofConfig language c = .ok (s.find name)
          ∧ retentionParts c.retentions = part :: parts
          ∧ Retention.parse (String.ofList part) = .ok r
          ∧ (s.find name).interval = r.secondsPerPoint ∧ 1 ≤ (s.find name).interval.toNat := by
  refine ⟨exists_ofConfigs_iff, fun e => ofConfigs_eq_error_iff, fun s hs name => ?_⟩
  obtain ⟨before, c, behind, hconfigs, hbefore, hmatch, hc⟩ := find_of_ofConfigs hs name
  obtain ⟨part, parts, r, hparts, hr, hinterval⟩ := Schema.interval_of_ofConfig hc
  have hpositive : 1 ≤ (s.find name).interval.toNat :=
    UInt32.lt_iff_toNat_lt.mp (s.find name).interval_pos
  exact ⟨before, c, behind, part, parts, r, hconfigs, hbefore, hmatch, hc, hparts, hr, hinterval,
    hpositive⟩

/-- No pattern of these two schemas matches a name with a line break. It is stored under the last of
them, and so it is not without an interval. -/
theorem first_match_decides_of_line_break :
    let fast : SchemaConfig := ⟨"fast", "^fast\\.", "1s:1h,10s:1d"⟩
    let other : SchemaConfig := ⟨"default", "^.*$", " ,1m:30d"⟩
    let regular : PatternLanguage := .regular
    ¬ fast.Matches regular "a\nb" ∧ ¬ other.Matches regular "a\nb"
      ∧ ∃ s, ofConfigs regular [fast, other] = .ok s
        ∧ Schema.ofConfig regular other = .ok (s.find "a\nb")
        ∧ (s.find "a\nb").interval = 60 := by
  intro fast other regular
  have hnot : ∀ c : SchemaConfig,
      (regular.compile c.pattern).map (regular.isMatch · "a\nb") = .ok false →
        ¬ c.Matches regular "a\nb" := by
    rintro c hc ⟨program, hprogram, hmatch⟩
    rw [hprogram, Except.map, hmatch] at hc
    cases hc
  have hfast : ¬ fast.Matches regular "a\nb" := hnot fast (by cbv)
  have hother : ¬ other.Matches regular "a\nb" := hnot other (by cbv)
  have hready : ∃ s, ofConfigs regular [fast, other] = .ok s := ⟨_, by cbv⟩
  obtain ⟨s, hs⟩ := hready
  obtain ⟨before, c, behind, part, parts, r, hconfigs, -, hmatch, hc, hparts, hr, hinterval, -⟩ :=
    (first_match_decides regular [fast, other]).2.2 s hs "a\nb"
  obtain rfl : behind = [] := by
    refine hmatch.resolve_left fun h => ?_
    have hmem : c ∈ [fast, other] := by rw [hconfigs]; simp
    rcases List.mem_cons.mp hmem with rfl | hmem
    · exact hfast h
    · exact hother (List.mem_singleton.mp hmem ▸ h)
  have hends : [fast] ++ [other] = before ++ [c] := hconfigs
  obtain rfl : other = c := List.singleton_inj.mp (List.append_inj' hends rfl).2
  have hfirst : retentionParts other.retentions = ["1m:30d".toList] := by cbv
  rw [hfirst] at hparts
  obtain ⟨rfl, -⟩ := List.cons.inj hparts
  have hread : ∃ r, Retention.parse (String.ofList "1m:30d".toList) = .ok r
      ∧ r.secondsPerPoint = 60 := ⟨_, by cbv, by decide⟩
  obtain ⟨r', hr', hresolution⟩ := hread
  rw [hr'] at hr
  obtain rfl := Except.ok.inj hr
  exact ⟨hfast, hother, s, hs, hc, hinterval.trans hresolution⟩

end Schemas

end MetricGateway.Storage
