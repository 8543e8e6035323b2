import MetricGateway.Number.Natural
import MetricGateway.Text.Blank
import MetricGateway.Text.Quoted
import MetricGateway.Text.Split

/-!
# Retentions

A retention says at what resolution points are kept and for how long. It is written as two spans of
time with a colon between them. A span is a number and a unit, seconds if there is none; both spans
have to fit thirty-two bits, and points live at least as long as they are apart.
-/

namespace MetricGateway.Storage

/-- Resolution and time to live of points. -/
structure Retention where
  /-- Seconds between two points. -/
  secondsPerPoint : UInt32
  /-- Seconds that points are kept. -/
  ttl : UInt32
  positive : 0 < secondsPerPoint
  le_ttl : secondsPerPoint ≤ ttl
  deriving DecidableEq, Repr

/-- The seconds of a unit of time. -/
def unitSeconds? (unit : List Char) : Option Nat :=
  if unit = [] ∨ unit = ['s'] ∨ unit = ['s', 'e', 'c'] then some 1
  else if unit = ['m'] ∨ unit = ['m', 'i', 'n'] then some 60
  else if unit = ['h'] then some (60 * 60)
  else if unit = ['d'] then some (24 * 60 * 60)
  else if unit = ['w'] then some (7 * 24 * 60 * 60)
  else if unit = ['y'] then some (365 * 24 * 60 * 60)
  else none

/-- Whether a character is a decimal digit. -/
def isDigit (c : Char) : Bool := (Number.digit? c).isSome

/-- Reads a span of time: a number, directly followed by its unit. -/
def readSpan? (s : List Char) : Option UInt32 :=
  let s := Text.trim s
  match unitSeconds? (s.dropWhile isDigit), Number.readNatural (2 ^ 32 - 1) (s.takeWhile isDigit) with
  | some unit, .ok n => if n * unit < 2 ^ 32 then some (UInt32.ofNat (n * unit)) else none
  | _, _ => none

/-- The complaint about a text that is no retention. -/
structure InvalidRetention where
  /-- The text as it was given. -/
  text : String
  deriving DecidableEq, Repr

/-- The wording shown to users. -/
def InvalidRetention.message (e : InvalidRetention) : String :=
  "invalid retention " ++ Text.quoted e.text

namespace Retention

/-- The retention with a resolution and a time to live, if they go together. -/
def of? (secondsPerPoint ttl : UInt32) : Option Retention :=
  if h : 0 < secondsPerPoint ∧ secondsPerPoint ≤ ttl then some ⟨secondsPerPoint, ttl, h.1, h.2⟩
  else none

/-- Reads a retention, which is cut at its first colon. -/
def parse (s : String) : Except InvalidRetention Retention :=
  let found := do
    let (resolution, ttl) ← Text.splitOnce ':' (Text.trim s.toList)
    of? (← readSpan? resolution) (← readSpan? ttl)
  match found with
  | some r => .ok r
  | none => .error ⟨s⟩

/-- How many points are kept. -/
def points (r : Retention) : UInt32 := r.ttl / r.secondsPerPoint

/-- Both spans in seconds. -/
def display (r : Retention) : String :=
  String.ofList (Number.digits r.secondsPerPoint.toNat ++ ['s', ':'] ++
    Number.digits r.ttl.toNat ++ ['s'])

end Retention

end MetricGateway.Storage
