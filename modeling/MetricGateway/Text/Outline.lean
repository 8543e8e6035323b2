/-!
# Outlines

An outline shows a value with the names of its kinds and parts, for people who debug: on one line, or
with a line for every part.
-/

namespace MetricGateway.Text

/-- A value with the names of its kinds and parts. -/
inductive Outline where
  /-- A value without parts. -/
  | atom (text : String)
  /-- A record with named parts. -/
  | record (name : String) (parts : List (String × Outline))
  /-- A value in a wrapping with a name. -/
  | wrapped (name : String) (inner : Outline)
  | list (items : List Outline)
  /-- Values under keys, which have no parts. -/
  | mapping (entries : List (String × Outline))
  deriving Inhabited

namespace Outline

/-- The outline of what may be absent. -/
def option {α : Type} (outline : α → Outline) : Option α → Outline
  | none => .atom "None"
  | some x => .wrapped "Some" (outline x)

/-- The outline of a truth value. -/
def bool (b : Bool) : Outline := .atom (if b then "true" else "false")

/-- The outline of a number. -/
def natural (n : Nat) : Outline := .atom (toString n)

mutual

/-- An outline on one line. -/
def oneLine : Outline → String
  | .atom text => text
  | .record name parts => name ++ " \x7b " ++ namedOneLine parts ++ " \x7d"
  | .wrapped name inner => name ++ "(" ++ inner.oneLine ++ ")"
  | .list items => "[" ++ itemsOneLine items ++ "]"
  | .mapping entries => "\x7b" ++ namedOneLine entries ++ "\x7d"

/-- Named parts with commas between them. -/
def namedOneLine : List (String × Outline) → String
  | [] => ""
  | [(name, part)] => name ++ ": " ++ part.oneLine
  | (name, part) :: parts => name ++ ": " ++ part.oneLine ++ ", " ++ namedOneLine parts

/-- Items with commas between them. -/
def itemsOneLine : List Outline → String
  | [] => ""
  | [item] => item.oneLine
  | item :: items => item.oneLine ++ ", " ++ itemsOneLine items

end

/-- The start of a line at a depth. -/
def margin (depth : Nat) : String := String.ofList (List.replicate (4 * depth) ' ')

mutual

/-- An outline with a line for every part. Its first line has been started at a depth. -/
def lines (depth : Nat) : Outline → String
  | .atom text => text
  | .record name parts => name ++ " \x7b\n" ++ namedLines (depth + 1) parts ++ margin depth ++ "\x7d"
  | .wrapped name inner =>
    name ++ "(\n" ++ margin (depth + 1) ++ inner.lines (depth + 1) ++ ",\n" ++ margin depth ++ ")"
  | .list [] => "[]"
  | .list (item :: items) =>
    "[\n" ++ itemLines (depth + 1) (item :: items) ++ margin depth ++ "]"
  | .mapping [] => "\x7b\x7d"
  | .mapping (entry :: entries) =>
    "\x7b\n" ++ namedLines (depth + 1) (entry :: entries) ++ margin depth ++ "\x7d"

/-- Named parts, each on lines of its own. -/
def namedLines (depth : Nat) : List (String × Outline) → String
  | [] => ""
  | (name, part) :: parts =>
    margin depth ++ name ++ ": " ++ part.lines depth ++ ",\n" ++ namedLines depth parts

/-- Items, each on lines of its own. -/
def itemLines (depth : Nat) : List Outline → String
  | [] => ""
  | item :: items => margin depth ++ item.lines depth ++ ",\n" ++ itemLines depth items

end

/-- An outline with a line for every part. -/
def indented (o : Outline) : String := o.lines 0

end Outline

end MetricGateway.Text
