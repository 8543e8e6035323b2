import MetricGateway.Yaml.Character

/-!
# Places in a YAML text

Indentation is what gives a text its structure, so a reader has to know the column of everything it
meets. A cursor is the text that is left together with the place where it stands.
-/

namespace MetricGateway.Yaml

/-- A place in a text. Lines and columns are counted from zero. -/
structure Place where
  line : Nat := 0
  column : Nat := 0
  deriving DecidableEq, Repr, Inhabited

/-- The place behind a character. -/
def Place.after (p : Place) (c : Char) : Place :=
  if isBreak c then ⟨p.line + 1, 0⟩ else ⟨p.line, p.column + 1⟩

/-- What is left of a text, and where it stands. -/
structure Cursor where
  place : Place
  rest : List Char
  deriving Repr, Inhabited

namespace Cursor

/-- The cursor at the start of a text. -/
def ofText (text : List Char) : Cursor := ⟨{}, text⟩

/-- Leaves characters out. -/
def drop (c : Cursor) : Nat → Cursor
  | 0 => c
  | n + 1 =>
    match c.rest with
    | [] => c
    | x :: rest => drop ⟨c.place.after x, rest⟩ n

/-- Splits off the leading characters that satisfy a test. -/
def span (test : Char → Bool) (c : Cursor) : List Char × Cursor :=
  let taken := c.rest.takeWhile test
  (taken, c.drop taken.length)

/-- Leaves out the leading characters that satisfy a test. -/
def dropWhile (test : Char → Bool) (c : Cursor) : Cursor := (c.span test).2

/-- Leaves out a comment, if one stands here, and not the line break behind it. -/
def dropComment (c : Cursor) : Cursor :=
  if c.rest.head? = some '#' then c.dropWhile (!isBreak ·) else c

end Cursor

end MetricGateway.Yaml
