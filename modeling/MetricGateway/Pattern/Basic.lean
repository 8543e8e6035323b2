/-!
# Patterns

What a pattern is and what it matches is up to the language that patterns are written in. Whoever
uses patterns compiles them, matches names against them and shows them to users as they were
written, and relies on nothing else.
-/

namespace MetricGateway

/-- A language of patterns. -/
structure PatternLanguage where
  /-- What patterns are compiled to. -/
  Program : Type
  /-- Compiles a text, or says why it is no pattern. -/
  compile : String → Except String Program
  /-- The text that a program was compiled from. -/
  source : Program → String
  /-- Whether some part of a text matches. -/
  isMatch : Program → String → Bool
  source_of_compile {text : String} {program : Program} :
    compile text = .ok program → source program = text

/-- A pattern that is ready to be matched. -/
structure Pattern where
  /-- The pattern as it was written. -/
  source : String
  /-- Whether some part of a text matches. -/
  isMatch : String → Bool
  deriving Inhabited

/-- A program of some language, ready to be matched. -/
def PatternLanguage.pattern (language : PatternLanguage) (program : language.Program) : Pattern :=
  ⟨language.source program, language.isMatch program⟩

end MetricGateway
