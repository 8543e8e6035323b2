/-!
# What can be wrong with a YAML text

A problem is reported with the line where it was noticed, counted from one.
-/

namespace MetricGateway.Yaml

/-- Why a text is no YAML document of the wanted shape. -/
inductive Problem where
  /-- A character that must not occur in a text. -/
  | forbiddenCharacter
  /-- A character that starts no token. -/
  | unexpectedCharacter
  /-- A key that is not followed by its colon. -/
  | missingColon
  /-- An entry or a key where no new one may start. -/
  | misplacedEntry
  /-- A malformed directive. -/
  | badDirective
  /-- A malformed anchor, alias or tag. -/
  | badProperty
  /-- A malformed head of a block scalar, or a tab in the indentation. -/
  | badBlockScalar
  /-- A quoted scalar without its end, or with an escape that is none. -/
  | badQuotedScalar
  /-- A colon or a tab that a plain scalar must not hold. -/
  | badPlainScalar
  /-- Tokens that form no document. -/
  | badStructure
  /-- An alias without its anchor. -/
  | unknownAnchor
  /-- More than one document. -/
  | severalDocuments
  /-- No document at all. -/
  | noDocument
  /-- A value of the wrong kind. -/
  | wrongKind (wanted : String)
  /-- A field that occurs twice. -/
  | duplicateField (name : String)
  /-- A field that has to be given. -/
  | missingField (name : String)
  deriving DecidableEq, Repr

/-- The wording shown to users. -/
def Problem.message : Problem → String
  | .forbiddenCharacter => "control characters are not allowed"
  | .unexpectedCharacter => "found character that cannot start any token"
  | .missingColon => "could not find expected ':'"
  | .misplacedEntry => "block entries or mapping keys are not allowed in this context"
  | .badDirective => "found a malformed directive"
  | .badProperty => "found a malformed anchor, alias or tag"
  | .badBlockScalar => "found a malformed block scalar"
  | .badQuotedScalar => "found a malformed quoted scalar"
  | .badPlainScalar => "found a malformed plain scalar"
  | .badStructure => "did not find expected node content"
  | .unknownAnchor => "unknown anchor"
  | .severalDocuments => "deserializing from YAML containing more than one document is not supported"
  | .noDocument => "EOF while parsing a value"
  | .wrongKind wanted => "invalid type or value: expected " ++ wanted
  | .duplicateField name => "duplicate field " ++ name
  | .missingField name => "missing field " ++ name

/-- A problem and the line where it was noticed, if a line is known. -/
structure Error where
  problem : Problem
  line : Option Nat := none
  deriving DecidableEq, Repr

/-- The wording shown to users. -/
def Error.message (e : Error) : String :=
  match e.line with
  | none => e.problem.message
  | some line => e.problem.message ++ " at line " ++ toString line

end MetricGateway.Yaml
