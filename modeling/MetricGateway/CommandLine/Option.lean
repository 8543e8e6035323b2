import MetricGateway.Number.Natural

/-!
# Commands and their options

A command has options and perhaps commands below it. An option that takes a value may also be set by a
variable of the environment. The folder of the configuration can be given to every command.
-/

namespace MetricGateway.CommandLine

/-- Why arguments are not followed, or are answered without doing anything. -/
inductive UsageError where
  /-- Help has been asked for. -/
  | help
  /-- The version of a command has been asked for. -/
  | version (command : String)
  /-- There are no arguments at all. -/
  | nothingGiven
  /-- A command that is only a group of commands stands alone. -/
  | missingCommand
  /-- An option that has to be given is not. -/
  | missingOption
  /-- A word is no command. -/
  | unknownCommand
  /-- A value is missing, empty or none of those to choose from. -/
  | invalidValue
  /-- A value cannot be read. -/
  | unreadableValue
  /-- An argument is no option and nobody waits for it. -/
  | unknownArgument
  /-- An option is given twice. -/
  | repeatedOption
  /-- A switch is given a value. -/
  | unwantedValue
  deriving DecidableEq, Repr

/-- Something that a command can be told. -/
inductive Name where
  | config
  | org
  | batchSize
  | brokers
  | topic
  | publish
  | statsd
  | format
  | quiet
  | help
  | version
  deriving DecidableEq, Repr, Inhabited

namespace Name

/-- The name behind two dashes. -/
def long : Name → String
  | .config => "config"
  | .org => "org"
  | .batchSize => "batch-size"
  | .brokers => "kafka-broker-url"
  | .topic => "metrics-topic"
  | .publish => "publish"
  | .statsd => "statsd"
  | .format => "format"
  | .quiet => "quiet"
  | .help => "help"
  | .version => "version"

/-- The letter behind one dash. -/
def short? : Name → Option Char
  | .config => some 'c'
  | .format => some 'f'
  | .quiet => some 'q'
  | .help => some 'h'
  | .version => some 'V'
  | _ => none

/-- The variable of the environment that stands in for an option. -/
def standIn? : Name → Option String
  | .config => some "TSGW_CONFIG"
  | .org => some "TSGW_ORG"
  | .batchSize => some "TSGW_BATCH_SIZE"
  | .brokers => some "TSGW_KAFKA_BROKER_URL"
  | .topic => some "TSGW_METRICS_TOPIC"
  | .publish => some "TSGW_PUBLISH"
  | .statsd => some "TSGW_STATSD"
  | _ => none

/-- Whether an option takes a value. -/
def takesValue : Name → Bool
  | .quiet | .help | .version => false
  | _ => true

end Name

/-! ## Values -/

/-- Reads an organization: an integer, with a sign if need be. -/
def readOrg? (s : String) : Option UInt32 :=
  match Number.readInteger (2 ^ 63 - 1) s.toList with
  | .ok n => if 0 ≤ n ∧ n < 2 ^ 32 then some (UInt32.ofNat n.toNat) else none
  | .error _ => none

/-- Reads the size of batches, which is not zero. -/
def readBatchSize? (s : String) : Option Nat :=
  match Number.readNatural (2 ^ 64 - 1) s.toList with
  | .ok n => if 0 < n then some n else none
  | .error _ => none

/-- How a configuration is shown. -/
inductive ShowFormat where
  | debug
  | yaml
  deriving DecidableEq, Repr, Inhabited

namespace ShowFormat

/-- The name of a format. -/
def display : ShowFormat → String
  | .debug => "debug"
  | .yaml => "yaml"

/-- The format with a name. -/
def ofName? (s : String) : Option ShowFormat := [ShowFormat.debug, .yaml].find? fun f => f.display = s

end ShowFormat

/-- Checks the value of an option. -/
def Name.check (name : Name) (value : String) : Except UsageError Unit :=
  match name with
  | .config => if value.isEmpty then .error .invalidValue else .ok ()
  | .org => if (readOrg? value).isSome then .ok () else .error .unreadableValue
  | .batchSize => if (readBatchSize? value).isSome then .ok () else .error .unreadableValue
  | .format => if (ShowFormat.ofName? value).isSome then .ok () else .error .invalidValue
  | _ => .ok ()

/-! ## Commands -/

/-- A command, or the program by itself. -/
inductive Command where
  | top
  | run
  | config
  | show
  | check
  deriving DecidableEq, Repr, Inhabited

namespace Command

/-- The commands below a command. -/
def below : Command → List (String × Command)
  | .top => [("run", .run), ("config", .config)]
  | .config => [("show", .show), ("check", .check)]
  | _ => []

/-- The name with which a command shows its version. -/
def fullName : Command → String
  | .top => "tsgw"
  | .run => "tsgw-run"
  | .config => "tsgw-config"
  | .show => "tsgw-config-show"
  | .check => "tsgw-config-check"

/-- The options of a command, in the order in which the environment is asked for them. -/
def options : Command → List Name
  | .run => [.org, .batchSize, .brokers, .topic, .publish, .statsd, .config, .help, .version]
  | .show => [.format, .config, .help, .version]
  | .check => [.quiet, .config, .help, .version]
  | .top | .config => [.config, .help, .version]

/-- The option with a name. -/
def ofLong? (c : Command) (long : List Char) : Option Name :=
  c.options.find? fun name => name.long.toList = long

/-- The option with a letter. -/
def ofShort? (c : Command) (letter : Char) : Option Name :=
  c.options.find? fun name => name.short? = some letter

/-- Whether an option has to be given. -/
def requires (c : Command) (name : Name) : Bool := c = .run && name = .org

end Command

end MetricGateway.CommandLine
