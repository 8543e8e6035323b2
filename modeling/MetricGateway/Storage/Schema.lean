import MetricGateway.Pattern.Basic
import MetricGateway.Storage.Retention

/-!
# Storage schemas

A storage schema gives the retentions of the metrics whose names match its pattern, and with the first
of them their interval. Schemas are tried in order and the first match wins. The last one has a pattern
that is meant to match every name, and it is taken for the names that it does not match as well: a point
in a pattern stands for no line break.
-/

namespace MetricGateway.Storage

/-- A storage schema as it is configured. -/
structure SchemaConfig where
  name : String
  /-- The pattern of the names of metrics. -/
  pattern : String
  /-- Retentions with commas between them, the finest resolution first. -/
  retentions : String
  deriving DecidableEq, Repr, Inhabited

/-- The schema that is used if none is configured: a point per minute for thirty days. -/
def SchemaConfig.default : SchemaConfig :=
  { name := "default", pattern := ".*", retentions := "1m:30d" }

/-- A storage schema that is ready for use. -/
structure Schema where
  name : String
  pattern : Pattern
  /-- The retention of the finest resolution. -/
  finest : Retention
  /-- The other retentions. -/
  coarser : List Retention

/-- Why schemas cannot be used. -/
inductive SchemaError where
  /-- The pattern of a schema is none. -/
  | invalidPattern (name cause : String)
  /-- A retention of a schema is none. -/
  | invalidRetention (text : String)
  /-- A schema has no retentions. -/
  | emptyRetentions (name : String)
  /-- The last schema does not match every name. -/
  | missingCatchAll
  deriving DecidableEq, Repr

namespace SchemaError

/-- The wording shown to users. -/
def message : SchemaError → String
  | .invalidPattern name _ => "storage schema " ++ Text.quoted name ++ " has an invalid pattern"
  | .invalidRetention text => InvalidRetention.message ⟨text⟩
  | .emptyRetentions name => "storage schema " ++ Text.quoted name ++ " has no retentions"
  | .missingCatchAll => "the last storage schema must be a catch-all pattern like '.*'"

/-- The messages of the error and of what has caused it. -/
def chain (e : SchemaError) : List String :=
  match e with
  | .invalidPattern _ cause => [e.message, cause]
  | .invalidRetention _ | .emptyRetentions _ | .missingCatchAll => [e.message]

end SchemaError

/-- Reads retentions with commas between them. Blank parts are passed over. -/
def readRetentions (s : String) : Except InvalidRetention (List Retention) :=
  ((Text.split ',' s.toList).filter fun part => !Text.isBlankText part).mapM fun part =>
    Retention.parse (String.ofList part)

namespace Schema

/-- Makes a configured schema ready for use. -/
def ofConfig (language : PatternLanguage) (c : SchemaConfig) : Except SchemaError Schema :=
  match language.compile c.pattern with
  | .error cause => .error (.invalidPattern c.name cause)
  | .ok program =>
    match readRetentions c.retentions with
    | .error e => .error (.invalidRetention e.text)
    | .ok [] => .error (.emptyRetentions c.name)
    | .ok (finest :: coarser) => .ok ⟨c.name, language.pattern program, finest, coarser⟩

/-- All retentions, the finest resolution first. -/
def retentions (s : Schema) : List Retention := s.finest :: s.coarser

/-- Seconds between two samples of the metrics that are stored under the schema. -/
def interval (s : Schema) : UInt32 := s.finest.secondsPerPoint

/-- Whether the pattern is one of those that are meant to match every name. -/
def isCatchAll (s : Schema) : Bool := ["", ".*", "^.*$"].contains s.pattern.source

/-- Whether a name matches. -/
def isMatch (s : Schema) (name : String) : Bool := s.pattern.isMatch name

/-- Metrics are never stored without an interval. -/
theorem interval_pos (s : Schema) : 0 < s.interval := s.finest.positive

end Schema

/-- Schemas in the order in which they are tried. -/
structure Schemas where
  /-- All schemas but the last. -/
  specific : List Schema
  /-- The last schema, which is taken if nothing else matches. -/
  catchAll : Schema

namespace Schemas

/-- Makes configured schemas ready for use. -/
def ofConfigs (language : PatternLanguage) (configs : List SchemaConfig) :
    Except SchemaError Schemas := do
  let schemas ← configs.mapM (Schema.ofConfig language)
  match schemas.getLast? with
  | some last => if last.isCatchAll then .ok ⟨schemas.dropLast, last⟩ else .error .missingCatchAll
  | none => .error .missingCatchAll

/-- All schemas in order. -/
def toList (s : Schemas) : List Schema := s.specific ++ [s.catchAll]

/-- The schema of a name: the first that matches, or else the last. -/
def find (s : Schemas) (name : String) : Schema :=
  (s.toList.find? (·.isMatch name)).getD s.catchAll

end Schemas

end MetricGateway.Storage
