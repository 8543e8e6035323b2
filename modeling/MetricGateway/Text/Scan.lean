/-!
# Scanning text step by step

A scanner is a step function: it looks at the text that is left and either goes on with a new state
and less text, or is done. Every step takes at least one character off the text, so a scan that is
allowed one step per character, and one for the end, always ends by itself. The text itself serves as
the count of the steps, so that nobody has to measure it.
-/

namespace MetricGateway.Text

/-- What a step of a scanner leads to. -/
inductive Progress (σ α : Type) where
  /-- Go on with a state and what is left of the text. -/
  | more (state : σ) (rest : List Char)
  /-- The scan has ended, with what is left of the text. -/
  | done (result : α) (rest : List Char)

/-- Takes a step for each element of a list, and one for its end. -/
def scanAlong {σ α : Type} (step : σ → List Char → Option (Progress σ α)) :
    (allowance : List Char) → σ → List Char → Option (α × List Char)
  | [], state, text =>
    match step state text with
    | some (.done result rest) => some (result, rest)
    | _ => none
  | _ :: allowance, state, text =>
    match step state text with
    | none => none
    | some (.done result rest) => some (result, rest)
    | some (.more state rest) => scanAlong step allowance state rest

/-- Scans a text from its start. -/
def scan {σ α : Type} (step : σ → List Char → Option (Progress σ α)) (state : σ)
    (text : List Char) : Option (α × List Char) :=
  scanAlong step text state text

end MetricGateway.Text
