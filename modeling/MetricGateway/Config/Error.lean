import MetricGateway.Config.Producer
import MetricGateway.Novelty.CacheConfig
import MetricGateway.Stats.Address
import MetricGateway.Storage.Schema
import MetricGateway.Yaml.Error

/-!
# What can be wrong with a configuration

A complaint says what is wrong, then which file or which setting it is about, and what has caused it.
-/

namespace MetricGateway.Config

/-- Why a configuration cannot be used. `place` is the file or the folder of the configuration. -/
inductive ConfigError where
  /-- The file cannot be opened. -/
  | unreadable (place cause : String)
  /-- The text is no configuration. A text by itself has no place. -/
  | malformed (place : Option String) (cause : Yaml.Error)
  /-- The limits of the novelty cache are not kept. -/
  | cacheLimits (place : String) (cause : Novelty.CacheConfigError)
  /-- The producer cannot be set up. -/
  | producer (place : String) (cause : ProducerError)
  /-- The storage schemas cannot be used. -/
  | schemas (place : String) (cause : Storage.SchemaError)
  /-- The server for measurements is given by no address. -/
  | metricsServer (place : String) (cause : Stats.AddressError)
  /-- Publishing is enabled although there is no client for it. -/
  | noClient (place : String)
  /-- The switch of publishing is neither on nor off. -/
  | publishSwitch
  /-- Points without organization are sent to partitions that do not tell it. -/
  | compactWithoutOrg
  /-- The sample rate is no number from zero to one. -/
  | sampleRate
  deriving DecidableEq, Repr

namespace ConfigError

/-- What is wrong. -/
def heading : ConfigError → String
  | .unreadable .. => "could not open config file"
  | .malformed .. => "could not parse yaml config file"
  | .schemas .. => "invalid storage schemas"
  | .noClient _ => "was not compiled with kafka, cannot enable publishing"
  | .cacheLimits .. | .producer .. | .metricsServer .. | .publishSwitch | .compactWithoutOrg
  | .sampleRate => "invalid config value"

/-- A file or folder that a complaint is about. -/
def inFile (place : String) : String := " (file " ++ place ++ ")"

/-- A setting that a complaint is about. -/
def atField (name : String) : String := " (field " ++ name ++ ")"

/-- What the complaint is about. -/
def origin : ConfigError → String
  | .malformed none _ => ""
  | .unreadable place _ | .malformed (some place) _ | .cacheLimits place _ | .producer place _
  | .schemas place _ | .metricsServer place _ | .noClient place => inFile place
  | .publishSwitch => atField "publish"
  | .compactWithoutOrg => atField "publish.compact_with_org"
  | .sampleRate => atField "metrics.sample_rate"

/-- What has caused the complaint. -/
def cause : ConfigError → Option String
  | .unreadable _ cause => some cause
  | .malformed _ cause => some cause.message
  | .cacheLimits _ cause => some cause.message
  | .producer _ cause => some cause.message
  | .schemas _ cause => some cause.message
  | .metricsServer _ cause => some cause.message
  | .noClient _ | .publishSwitch | .compactWithoutOrg | .sampleRate => none

/-- The wording shown to users. -/
def message (e : ConfigError) : String := e.heading ++ e.origin

/-- The messages of the error and of what has caused it. -/
def chain (e : ConfigError) : List String :=
  e.message :: match e with
    | .schemas _ cause => cause.chain
    | _ => e.cause.toList

end ConfigError

end MetricGateway.Config
