import MetricGateway.Number.Natural

/-!
# Severities and levels

A message has a severity. A level is the least severe severity that is still let through, or lets
nothing through.
-/

namespace MetricGateway.Log

/-- How severe a message is. -/
inductive Severity where
  | error
  | warn
  | info
  | debug
  | trace
  deriving DecidableEq, Repr, Inhabited

namespace Severity

/-- The position of a severity, the most severe first. -/
def rank : Severity → Nat
  | .error => 1
  | .warn => 2
  | .info => 3
  | .debug => 4
  | .trace => 5

/-- All severities, the most severe first. -/
def all : List Severity := [.error, .warn, .info, .debug, .trace]

/-- The name of a severity in a line of the log. -/
def label : Severity → String
  | .error => "ERROR"
  | .warn => "WARN"
  | .info => "INFO"
  | .debug => "DEBUG"
  | .trace => "TRACE"

/-- The name of a severity in a configuration. -/
def display : Severity → String
  | .error => "error"
  | .warn => "warn"
  | .info => "info"
  | .debug => "debug"
  | .trace => "trace"

/-- The name of a severity with a capital letter. -/
def capitalized : Severity → String
  | .error => "Error"
  | .warn => "Warn"
  | .info => "Info"
  | .debug => "Debug"
  | .trace => "Trace"

end Severity

/-- Which messages are let through. -/
inductive Level where
  /-- Messages of this severity and more severe ones. -/
  | upTo (severity : Severity)
  /-- None. -/
  | off
  deriving DecidableEq, Repr, Inhabited

/-- The complaint about a text that is no level. -/
structure UnknownLevel where
  /-- The text as it was given. -/
  text : String
  deriving DecidableEq, Repr

/-- The wording shown to users. -/
def UnknownLevel.message (e : UnknownLevel) : String :=
  "error parsing \"" ++ e.text ++ "\" as level: expected one of \"error\", \"warn\", \"info\", " ++
    "\"debug\", \"trace\", \"off\""

namespace Level

/-- All levels. -/
def all : List Level := Severity.all.map .upTo ++ [.off]

/-- Whether messages of a severity are let through. -/
def allows (l : Level) (s : Severity) : Bool :=
  match l with
  | .upTo severity => s.rank ≤ severity.rank
  | .off => false

/-- The name of a level. -/
def display : Level → String
  | .upTo severity => severity.display
  | .off => "off"

/-- The name of a level for people who debug. -/
def debug : Level → String
  | .upTo severity => severity.capitalized
  | .off => "Off"

/-- The letters of a text, those of ASCII in lower case. -/
def lower (s : String) : List Char := s.toList.map Char.toLower

/-- The level with a name, in letters of either case. -/
def ofName? (s : String) : Option Level := all.find? fun l => l.display.toList = lower s

/-- Reads a level. Nothing stands for errors only. -/
def parse (s : String) : Except UnknownLevel Level :=
  if s.isEmpty then .ok (.upTo .error)
  else match ofName? s with
    | some l => .ok l
    | none => .error ⟨s⟩

/-- The level with a number: nothing is let through at zero, and everything from five on. -/
def ofNumber? : Nat → Option Level
  | 0 => some .off
  | n + 1 => Severity.all[n]?.map .upTo

/-- Every level is read from its own name. -/
theorem parse_display (l : Level) : parse l.display = .ok l := by
  rcases l with (_ | _ | _ | _ | _) | _ <;> rfl

end Level

end MetricGateway.Log
