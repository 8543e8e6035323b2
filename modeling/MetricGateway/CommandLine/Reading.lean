import MetricGateway.CommandLine.Option
import MetricGateway.Config.Basic
import MetricGateway.Organization

/-!
# Reading the command line

Arguments are read from the left. An option with a value takes it from behind an equals sign, or from the
next argument if that does not start with a dash. The value is not checked before it is certain that it is
the only one: at the next option or when the arguments of all commands have been read. So an argument that
nobody knows is complained about before a bad value in front of it.

Every command asks the environment for the options that it was not given. What a command further down was
given counts, and the environment only if no command was given anything.
-/

namespace MetricGateway.CommandLine

/-! ## The arguments of one command -/

/-- What the arguments of a command have said so far. -/
structure Scan where
  /-- The option at the end, with its value once that has come. -/
  waiting : Option (Name × Option String) := none
  /-- The options before it, each with its value. -/
  given : List (Name × String) := []

namespace Scan

/-- Whether the next argument may be the value of an option. -/
def wantsValue (s : Scan) : Bool :=
  match s.waiting with
  | some (_, none) => true
  | _ => false

/-- Adds an option with its value. -/
def accept (s : Scan) (name : Name) (value : String) : Except UsageError Scan :=
  if s.given.any fun g => g.1 = name then .error .repeatedOption
  else match name.check value with
    | .ok () => .ok { s with given := (name, value) :: s.given }
    | .error e => .error e

/-- Adds the option at the end. -/
def settle (s : Scan) : Except UsageError Scan :=
  match s.waiting with
  | none => .ok s
  | some (_, none) => .error .invalidValue
  | some (name, some value) => { s with waiting := none }.accept name value

/-- Adds an option with a value that belongs to the same argument. -/
def attach (s : Scan) (name : Name) (value : String) : Except UsageError Scan :=
  s.settle >>= fun s => s.accept name value

/-- Starts an option whose value is to follow. -/
def await (s : Scan) (name : Name) : Except UsageError Scan :=
  s.settle >>= fun s => .ok { s with waiting := some (name, none) }

/-- Adds a switch. -/
def raise (c : Command) (s : Scan) (name : Name) : Except UsageError Scan :=
  s.settle >>= fun s =>
    match name with
    | .help => .error .help
    | .version => .error (.version c.fullName)
    | name => s.accept name ""

end Scan

/-- Reads an argument behind two dashes, with the value behind its equals sign. -/
def readLong (c : Command) (s : Scan) (long : List Char) (value : Option (List Char)) :
    Except UsageError Scan :=
  match c.ofLong? long with
  | none => .error .unknownArgument
  | some name =>
    match name.takesValue, value with
    | true, some value => s.attach name (String.ofList value)
    | true, none => s.await name
    | false, none => s.raise c name
    | false, some _ => .error .unwantedValue

/-- Reads the letters behind one dash. What follows the letter of an option with a value is its value. -/
def readLetters (c : Command) (s : Scan) : List Char → Except UsageError Scan
  | [] => .ok s
  | letter :: rest =>
    match c.ofShort? letter with
    | none => .error .unknownArgument
    | some name =>
      if name.takesValue then
        match rest with
        | [] => s.await name
        | '=' :: value => s.attach name (String.ofList value)
        | value => s.attach name (String.ofList value)
      else s.raise c name >>= fun s => readLetters c s rest

/-- What an argument looks like. -/
inductive Shape where
  /-- Two dashes, behind which there are no options. -/
  | divider
  | long (name : List Char) (value : Option (List Char))
  | letters (s : List Char)
  | word

/-- The shape of an argument. -/
def shapeOf (arg : String) : Shape :=
  match arg.toList with
  | ['-', '-'] => .divider
  | '-' :: '-' :: rest => match Text.splitOnce '=' rest with
    | some (name, value) => .long name (some value)
    | none => .long rest none
  | '-' :: c :: rest => .letters (c :: rest)
  | _ => .word

/-- The complaint about a word that no command waits for. Behind the divider, commands are no commands. -/
def strayWord (c : Command) (divided : Bool) (arg : String) : UsageError :=
  if c.below.isEmpty || (divided && (c.below.lookup arg).isSome) then .unknownArgument
  else .unknownCommand

/-! ## All arguments -/

/-- Where the value of an option comes from. -/
inductive Source where
  | environment
  | arguments
  deriving DecidableEq, Repr

/-- What a command was told in the end. -/
structure Told where
  command : Command
  values : List (Name × Source × String)

/-- The options of a command that the environment gives, if each of them can be read. -/
def fromEnvironment (environment : String → Option String) (given : List (Name × String)) :
    List Name → Except UsageError (List (Name × Source × String))
  | [] => .ok []
  | name :: names => do
    let others := fromEnvironment environment given names
    if given.any fun g => g.1 = name then others
    else match name.standIn?.bind environment with
      | none => others
      | some value => do
        name.check value
        return (name, .environment, value) :: (← others)

/-- Ends the arguments of a command. `below` is what the commands below it were told. -/
def finish (environment : String → Option String) (c : Command) (s : Scan) (below : List Told) :
    Except UsageError (List Told) := do
  let s ← s.settle
  let added ← fromEnvironment environment s.given c.options
  let values := s.given.map (fun (name, value) => (name, Source.arguments, value)) ++ added
  if below.isEmpty && c = .top && values.isEmpty then throw .nothingGiven
  if below.isEmpty && !c.below.isEmpty then throw .missingCommand
  if c.options.any fun name => c.requires name && !values.any fun v => v.1 = name then
    throw .missingOption
  return ⟨c, values⟩ :: below

/-- Reads the arguments of a command and of the commands below it. -/
def readArguments (environment : String → Option String) (c : Command) (divided : Bool) (s : Scan) :
    List String → Except UsageError (List Told)
  | [] => finish environment c s []
  | arg :: rest =>
    if divided then .error (strayWord c true arg)
    else match if s.wantsValue then none else c.below.lookup arg with
      | some sub =>
        readArguments environment sub false {} rest >>= fun below => finish environment c s below
      | none => match shapeOf arg with
        | .divider => readArguments environment c true s rest
        | .long name value =>
          readLong c s name value >>= fun s => readArguments environment c false s rest
        | .letters letters =>
          readLetters c s letters >>= fun s => readArguments environment c false s rest
        | .word => match s.waiting with
          | some (name, none) =>
            readArguments environment c false { s with waiting := some (name, some arg) } rest
          | _ => .error (strayWord c false arg)

/-! ## What is to be done -/

/-- What the program is to do. -/
inductive Task where
  /-- To publish the lines of the input as metrics of an organization. -/
  | run (org : OrgId) (batchSize : Nat) (overrides : Config.Overrides)
  /-- To show the configuration. -/
  | showConfig (format : ShowFormat)
  /-- To check the configuration, and say nothing if it is right and quiet is wanted. -/
  | checkConfig (quiet : Bool)
  deriving DecidableEq, Repr

/-- What the command line says. -/
structure Invocation where
  /-- The folder of the configuration. -/
  folder : Option String
  task : Task
  deriving DecidableEq, Repr

/-- The value of an option of one command. -/
def Told.value? (t : Told) (name : Name) : Option String := (t.values.lookup name).map (·.2)

/-- The folder of the configuration: that of the last command that was given one, or else that of the
environment. -/
def folderOf (told : List Told) : Option String :=
  let all := told.reverse.filterMap fun t => t.values.lookup Name.config
  ((all.find? fun v => v.1 = .arguments).or all.head?).map (·.2)

/-- The size of batches if none is given. -/
def usualBatchSize : Nat := 1000

/-- What the last command is to do. -/
def Told.task? (t : Told) : Option Task :=
  match t.command with
  | .run => do
    let org ← t.value? .org >>= readOrg?
    let overrides : Config.Overrides :=
      { brokers := t.value? .brokers, topic := t.value? .topic, publish := t.value? .publish,
        server := t.value? .statsd }
    return .run ⟨org⟩ ((t.value? .batchSize >>= readBatchSize?).getD usualBatchSize) overrides
  | .show => some (.showConfig ((t.value? .format >>= ShowFormat.ofName?).getD .yaml))
  | .check => some (.checkConfig (t.value? .quiet).isSome)
  | .top | .config => none

/-- Reads the command line. -/
def read (environment : String → Option String) (args : List String) :
    Except UsageError Invocation := do
  let told ← readArguments environment .top false {} args
  match told.getLast? >>= Told.task? with
  | some task => return ⟨folderOf told, task⟩
  | none => throw .missingCommand

end MetricGateway.CommandLine
