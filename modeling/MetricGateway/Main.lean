import MetricGateway.Gateway.Program
import MetricGateway.Pattern.Regular
import Std.Time

/-!
# The executable

Gathers what the program finds around it, runs it, and prints how it ends.
-/

open MetricGateway
open MetricGateway.Gateway (Ending Notice Surroundings)

/-- How much of the input is read at once. -/
def chunkSize : USize := 65536

/-- Reads a stream to its end. -/
partial def readToEnd (stream : IO.FS.Stream) (before : ByteArray) : IO ByteArray := do
  let chunk ← stream.read chunkSize
  if chunk.isEmpty then return before else readToEnd stream (before ++ chunk)

/-- What is found at a path. -/
def lookUp (path : String) : IO Config.FileContents := do
  try
    let bytes ← IO.FS.readBinFile path
    match String.fromUTF8? bytes with
    | some s => return .text s
    | none => return .unreadable Plaintext.readFailureCause
  catch e =>
    match e with
    | .noFileOrDirectory .. => return .missing
    | .inappropriateType _ _ details | .permissionDenied _ _ details => return .unreadable details
    | e => return .unreadable (toString e)

/-- The variables of the environment that the program asks for. -/
def namesAsked : List String :=
  ["RUST_LOG", "NO_COLOR", "TSGW_CONFIG", "TSGW_ORG", "TSGW_BATCH_SIZE", "TSGW_KAFKA_BROKER_URL",
   "TSGW_METRICS_TOPIC", "TSGW_PUBLISH", "TSGW_STATSD"]

/-- The variables that are set. -/
def readEnvironment : IO (List (String × String)) :=
  namesAsked.filterMapM fun name => do
    return (← IO.getEnv name).map fun value => (name, value)

/-- The time of the clock, as it stands in the log. -/
def currentTime : IO String := do
  let now := Std.Time.DateTime.ofTimestamp (← Std.Time.Timestamp.now) Std.Time.TimeZone.ZoneRules.UTC
  return now.format "uuuu-MM-dd'T'HH:mm:ss.SSSSSS'Z'"

/-- Prints a notice. -/
def printNotice (layout : Log.Layout) : Notice → IO Unit
  | .plain text => IO.eprintln text
  | .logged event => do IO.eprintln (layout.render (← currentTime) event)

/-- Whether a command line starts the gateway, which alone reads the input. -/
def readsInput (environment : String → Option String) (args : List String) : Bool :=
  match CommandLine.read environment args with
  | .ok ⟨_, .run ..⟩ => true
  | _ => false

/-- Runs the program on what is around it. -/
def main (args : List String) : IO UInt32 := do
  let set ← readEnvironment
  let environment (name : String) : Option String := set.lookup name
  let folder := (← IO.currentDir).toString
  let found ← match CommandLine.read environment args with
    | .ok i => lookUp (Config.filePath (Config.joinPath folder (i.folder.getD ".")))
    | .error _ => pure .missing
  let input ← if readsInput environment args then readToEnd (← IO.getStdin) .empty else pure .empty
  let attended ← (← IO.getStdout).isTty
  let ending := Gateway.run .regular
    { folder, fileAt := fun _ => found, environment, input := input.toList, attended } args
  IO.print ending.output
  for notice in ending.notices do
    printNotice ending.layout notice
  return UInt32.ofNat ending.status
