import MetricGateway.Config.Error
import MetricGateway.Config.Reading
import MetricGateway.Config.Rendering

/-!
# Configurations

A configuration is what a folder holds in its file of settings, changed by what the command line says.
Publishing cannot be enabled, because there is no client for brokers.

Settings are checked in a fixed order, and the first that is wrong is the one that is complained about.
-/

namespace MetricGateway

open Config (ConfigError Settings)
open Number (Binary64)

/-- Settings and the folder that they come from. -/
structure Config where
  settings : Settings := {}
  /-- The folder, empty if there is none. -/
  folder : String := ""
  deriving DecidableEq, Repr, Inhabited

namespace Config

/-- What the command line or the environment says. -/
structure Overrides where
  /-- Brokers with commas between them. -/
  brokers : Option String := none
  topic : Option String := none
  /-- Whether to publish. -/
  publish : Option String := none
  /-- The server for measurements. -/
  server : Option String := none
  deriving DecidableEq, Repr, Inhabited

/-! ## Loading -/

/-- The name of the file of settings in a folder. -/
def fileName : String := "config.yml"

/-- A path below a folder. An absolute path stays as it is. -/
def joinPath (folder path : String) : String :=
  if path.toList.head? = some '/' then path
  else if folder.isEmpty || folder.toList.getLast? = some '/' then folder ++ path
  else folder ++ "/" ++ path

/-- What is found where a file is looked for. -/
inductive FileContents where
  | text (s : String)
  /-- There is nothing. -/
  | missing
  /-- There is something that cannot be read. -/
  | unreadable (cause : String)
  deriving DecidableEq, Repr, Inhabited

/-- Reads a configuration from a text by itself. -/
def ofText (text : String) : Except ConfigError Config :=
  match Settings.read text with
  | .ok settings => .ok { settings }
  | .error e => .error (.malformed none e)

/-- Checks that publishing is not enabled. -/
def checkClient (c : Config) : Except ConfigError Unit :=
  if c.settings.publish.enabled then .error (.noClient c.folder) else .ok ()

/-- The file of settings in a folder. -/
def filePath (folder : String) : String := joinPath folder fileName

/-- Reads the settings of a folder. -/
def settingsOf (folder : String) : FileContents → Except ConfigError Settings
  | .missing => .ok {}
  | .unreadable cause => .error (.unreadable (filePath folder) cause)
  | .text s => (Settings.read s).mapError (.malformed (some (filePath folder)))

/-- The configuration of a folder whose file of settings has the given contents. -/
def ofFolder (folder : String) (contents : FileContents) : Except ConfigError Config := do
  let settings ← settingsOf folder contents
  let c : Config := { settings, folder }
  c.checkClient
  return c

/-! ## Changing settings -/

/-- The brokers in a list with commas. -/
def readBrokers (s : String) : List String :=
  (((Text.split ',' s.toList).map Text.trim).filter fun b => !b.isEmpty).map String.ofList

/-- Whether a text switches something on. -/
def readSwitch? (s : String) : Option Bool :=
  let s := String.ofList (s.toList.map Char.toLower)
  if s = "true" ∨ s = "1" then some true
  else if s = "false" ∨ s = "0" ∨ s = "" then some false
  else none

/-- Sets the brokers, which then win over a parameter that lists them. -/
def setBrokers (c : Config) (brokers : String) : Config :=
  let p := c.settings.producer
  let params := p.params.filter fun param => param.name ≠ ProducerSettings.brokersParam
  { c with settings.producer := { p with brokers := readBrokers brokers, params } }

/-- Sets the topic. -/
def setTopic (c : Config) (topic : String) : Config := { c with settings.producer.topic := topic }

/-- Sets the server for measurements. -/
def setServer (c : Config) (server : String) : Config :=
  { c with settings.metrics.server := some server }

/-- Switches publishing on or off. It is switched even if that is complained about. -/
def setPublish (c : Config) (word : String) : Except ConfigError Unit × Config :=
  match readSwitch? word with
  | none => (.error .publishSwitch, c)
  | some enabled =>
    let c := { c with settings.publish.enabled := enabled }
    (c.checkClient, c)

/-- Changes settings one after the other, up to the first that is wrong. -/
def override (c : Config) (o : Overrides) : Except ConfigError Unit × Config :=
  let c := o.brokers.elim c c.setBrokers
  let c := o.topic.elim c c.setTopic
  let (result, c) := o.publish.elim (.ok (), c) c.setPublish
  match result with
  | .error e => (.error e, c)
  | .ok () => (.ok (), o.server.elim c c.setServer)

/-! ## Checks -/

/-- The limits of the novelty cache. -/
def cacheConfig (c : Config) : Novelty.CacheConfig := c.settings.publish.cacheConfig

/-- The storage schemas, ready for use. -/
def schemas (c : Config) (language : PatternLanguage) : Except ConfigError Storage.Schemas :=
  (Storage.Schemas.ofConfigs language c.settings.schemas).mapError (.schemas c.folder)

/-- Whether points without organization would be sent to partitions that do not tell it. -/
def hidesOrg (s : Settings) : Bool :=
  s.publish.compact && !s.publish.compactWithOrg && s.producer.scheme ≠ .byOrg

/-- Whether a number is a share. -/
def isShare (x : Binary64) : Bool := Binary64.zero.le x && x.le .one

/-- Checks all settings before anything is done with them. -/
def validate (c : Config) (language : PatternLanguage) : Except ConfigError Unit := do
  c.cacheConfig.validate.mapError (.cacheLimits c.folder)
  let _ ← c.schemas language
  if c.settings.publish.enabled then
    c.settings.producer.validate.mapError (.producer c.folder)
  if hidesOrg c.settings then throw .compactWithoutOrg
  if !isShare c.settings.metrics.sampleRate then throw .sampleRate

/-- The address of the server for measurements, if there is one. -/
def serverAddress (c : Config) : Except ConfigError (Option Stats.Address) :=
  match c.settings.metrics.server with
  | none => .ok none
  | some server =>
    match Stats.Address.parse server with
    | .ok a => .ok (some a)
    | .error e => .error (.metricsServer c.folder e)

/-! ## Showing -/

/-- The settings as a document. -/
def yaml (c : Config) : String := c.settings.yaml

/-- The configuration for people who debug. -/
def outline (c : Config) : Text.Outline :=
  .record "Config" [("path", .atom (Text.quotedPath c.folder)), ("values", c.settings.outline)]

end Config

end MetricGateway
