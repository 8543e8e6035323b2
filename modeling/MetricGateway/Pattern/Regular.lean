import MetricGateway.Pattern.Automaton
import MetricGateway.Pattern.Basic
import MetricGateway.Pattern.Reader

/-!
# Regular expressions

The language that the program takes patterns to be written in. An expression is matched by its
automaton.
-/

namespace MetricGateway

/-- A regular expression that is ready to be matched. -/
structure Pattern.Regex where
  /-- The expression as it was written. -/
  source : String
  automaton : Pattern.Automaton
  deriving Repr, Inhabited

/-- Reads a regular expression, if a text is one. -/
def Pattern.Regex.read? (text : String) : Option Regex :=
  (Expr.read? text).map fun e => ⟨text, .ofExpr e⟩

theorem Pattern.Regex.source_of_read? {text : String} {r : Regex} (h : read? text = some r) :
    r.source = text := by
  obtain ⟨e, -, rfl⟩ := Option.map_eq_some_iff.mp h
  rfl

/-- What is said of a text that is none. -/
def Pattern.Regex.complaint : String := "not a regular expression"

/-- Regular expressions as patterns. -/
def PatternLanguage.regular : PatternLanguage where
  Program := Pattern.Regex
  compile text := (Pattern.Regex.read? text).elim (.error Pattern.Regex.complaint) .ok
  source := Pattern.Regex.source
  isMatch r text := r.automaton.accepts text.toList
  source_of_compile {text r} h := by
    cases hread : Pattern.Regex.read? text with
    | none => rw [hread] at h; cases h
    | some r' =>
        rw [hread] at h
        obtain rfl := Except.ok.inj h
        exact Pattern.Regex.source_of_read? hread

end MetricGateway
