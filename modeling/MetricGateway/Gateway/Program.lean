import MetricGateway.CommandLine.Reading
import MetricGateway.Gateway.Announcement
import MetricGateway.Log.Filter
import MetricGateway.Log.Format

/-!
# The program

A run of the program is a function of its arguments and of what it finds around it: files, variables of the
environment and the input. It ends with a status, what it has printed, and notices: lines of the log, whose
times are left to whoever writes them, and other lines.

An error that ends the program is a line of the log if the log is open for it, and a plain line otherwise.
-/

namespace MetricGateway.Gateway

open CommandLine (Invocation Task UsageError)
open Config (ConfigError FileContents Overrides)
open Log (Event Filter Layout)
open Publish (PublishError)

/-- What the program finds around it. -/
structure Surroundings where
  /-- The folder in which it runs. -/
  folder : String
  /-- What is found at a path. -/
  fileAt : String → FileContents
  /-- The variables of the environment. -/
  environment : String → Option String
  /-- The whole input. -/
  input : Bytes
  /-- Whether somebody is watching the output. -/
  attended : Bool

/-- A line that is not part of the output proper. -/
inductive Notice where
  | plain (text : String)
  | logged (event : Event)
  deriving DecidableEq, Repr

/-- How the program ends. -/
structure Ending where
  status : Nat
  output : String := ""
  notices : List Notice := []
  /-- How lines of the log look. -/
  layout : Layout := .plain
  deriving DecidableEq, Repr

/-! ## The log -/

/-- An open log. -/
structure Logger where
  filter : Filter
  layout : Layout
  deriving DecidableEq, Repr

namespace Logger

/-- The messages that are let through. -/
def notices (l : Logger) (events : List Event) : List Notice :=
  (events.filter l.filter.enables).map .logged

/-- Opens the log. A filter in the environment wins over the configured level; what it says wrongly is
complained about. -/
def start (w : Surroundings) (c : Config) : Logger × List Notice :=
  let logging := c.settings.logging
  let coloured := ((w.environment "NO_COLOR").getD "").isEmpty
  let layout := logging.format.layout w.attended coloured
  match w.environment "RUST_LOG" with
  | none => (⟨.ofLevel logging.level, layout⟩, [])
  | some text =>
    let (filter, complaints) := Filter.read text
    (⟨filter, layout⟩, complaints.map .plain)

end Logger

/-- What is noticed of the error that ends the program. -/
def errorNotices (log : Option Logger) (chain : List String) : List Notice :=
  let text := Log.chainText chain
  match log with
  | some l =>
    if l.filter.opens errorTarget .error then l.notices [⟨.error, errorTarget, text, []⟩]
    else [.plain ("error: " ++ text)]
  | none => [.plain ("error: " ++ text)]

/-- The end of a run that has failed before the log was opened. -/
def failed (chain : List String) : Ending := { status := 1, notices := errorNotices none chain }

/-! ## Publishing lines -/

/-- The complaint about publishing that is enabled. -/
def noClient : String := "tsgw was not compiled with kafka, cannot enable publishing"

/-- The kind of the publisher, which discards batches as long as there is no client for brokers. -/
def publisherKind (c : Config) : Except String String :=
  if c.settings.publish.enabled then .error noClient else .ok Publish.discardKind

/-- What is said about the server for measurements, if there is one. -/
def startMeasuring (c : Config) : Except ConfigError (List Event) :=
  match c.serverAddress with
  | .error e => .error e
  | .ok none => .ok []
  | .ok (some address) => .ok (measuring address c.settings.metrics.sampleRate)

/-- Takes in the input. Says what has happened, and why the input ended if it did not end by itself. -/
def takeInput (org : OrgId) (batchSize : Nat) (input : Bytes) : List Event × Except (List String) Unit :=
  let discard (metrics : List Metric) (s : Unit) : Except PublishError Unit × Unit :=
    ((Publish.discard metrics).result, s)
  let (whole, intake) := Plaintext.publishLines discard org batchSize input ()
  let events := intake.events.reverse.map intakeEvent
  if whole then (events ++ [inputClosed intake.stats], .ok ())
  else (events, .error [Plaintext.readFailure, Plaintext.readFailureCause])

/-- Everything that is said while lines are published, up to the error that ends it. -/
def publishing (c : Config) (org : OrgId) (batchSize : Nat) (input : Bytes) :
    List Event × Except (List String) Unit :=
  match startMeasuring c with
  | .error e => (launch c, .error e.chain)
  | .ok measured =>
    match publisherKind c with
    | .error complaint => (launch c ++ measured, .error [complaint])
    | .ok kind =>
      let (events, result) := takeInput org batchSize input
      (launch c ++ measured ++ publisherChosen kind :: events, result)

/-- Publishes the lines of the input. -/
def runGateway (language : PatternLanguage) (w : Surroundings) (c : Config) (org : OrgId)
    (batchSize : Nat) (overrides : Overrides) : Ending :=
  match c.override overrides with
  | (.error e, _) => failed e.chain
  | (.ok (), c) =>
    match c.validate language with
    | .error e => failed e.chain
    | .ok () =>
      let (log, complaints) := Logger.start w c
      let (events, result) := publishing c org batchSize w.input
      let notices := complaints ++ log.notices events
      match result with
      | .ok () => { status := 0, notices, layout := log.layout }
      | .error chain =>
        { status := 1, notices := notices ++ errorNotices (some log) chain, layout := log.layout }

/-! ## Commands -/

/-- Shows a configuration. -/
def showConfig (c : Config) : CommandLine.ShowFormat → Ending
  | .debug => { status := 0, output := c.outline.indented ++ "\n" }
  | .yaml => { status := 0, output := c.yaml }

/-- Checks a configuration. -/
def checkConfig (language : PatternLanguage) (c : Config) (quiet : Bool) : Ending :=
  match c.validate language with
  | .error e => failed e.chain
  | .ok () => { status := 0, output := if quiet then "" else "config is valid\n" }

/-- Does what the command line says. -/
def perform (language : PatternLanguage) (w : Surroundings) (i : Invocation) : Ending :=
  let folder := Config.joinPath w.folder (i.folder.getD ".")
  match Config.ofFolder folder (w.fileAt (Config.filePath folder)) with
  | .error e => failed e.chain
  | .ok c =>
    match i.task with
    | .run org batchSize overrides => runGateway language w c org batchSize overrides
    | .showConfig format => showConfig c format
    | .checkConfig quiet => checkConfig language c quiet

/-- The version of the program. -/
def version : String := "25.10.0"

/-- How the program is used. -/
def usage : String :=
  "tsgw is a multi-tenant metrics gateway that publishes to Kafka.\n\n" ++
  "Usage: tsgw [-c <CONFIG>] run --org <ORG_ID> [--batch-size <COUNT>]\n" ++
  "            [--kafka-broker-url <BROKERS>] [--metrics-topic <TOPIC>]\n" ++
  "            [--publish <BOOL>] [--statsd <HOST_PORT>]\n" ++
  "       tsgw [-c <CONFIG>] config show [-f debug|yaml]\n" ++
  "       tsgw [-c <CONFIG>] config check [-q]\n"

/-- What is wrong with the command line. -/
def complaint : UsageError → String
  | .help | .version _ | .nothingGiven => ""
  | .missingCommand => "error: a subcommand is required but one was not provided\n\n"
  | .missingOption => "error: a required argument was not provided\n\n"
  | .unknownCommand => "error: unrecognized subcommand\n\n"
  | .invalidValue | .unreadableValue => "error: invalid value for an argument\n\n"
  | .unknownArgument => "error: unexpected argument found\n\n"
  | .repeatedOption => "error: an argument cannot be used multiple times\n\n"
  | .unwantedValue => "error: unexpected value for an argument\n\n"

/-- The end of a run whose command line is not followed. -/
def refuse : UsageError → Ending
  | .help => { status := 0, output := usage }
  | .version command => { status := 0, output := command ++ " " ++ version ++ "\n" }
  | e => { status := 2, notices := [.plain (complaint e ++ usage)] }

/-- Runs the program, with patterns in some language. -/
def run (language : PatternLanguage) (w : Surroundings) (args : List String) : Ending :=
  match CommandLine.read w.environment args with
  | .ok i => perform language w i
  | .error e => refuse e

end MetricGateway.Gateway
