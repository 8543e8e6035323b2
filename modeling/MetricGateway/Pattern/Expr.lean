import MetricGateway.Number.Power
import MetricGateway.Text.CharSet
import MetricGateway.Text.Unicode.Category
import MetricGateway.Text.Unicode.Property

/-!
# Patterns as expressions

A pattern describes a set of texts. Which of several matches is found, and which parts of it are
captured, makes no difference to the question whether a text matches, so an expression keeps
neither greediness nor groups.
-/

namespace MetricGateway.Pattern

open MetricGateway.Text (CharSet)

/-- What a pattern may demand of a position in the text. -/
inductive Assertion where
  | textStart
  | textEnd
  /-- At the start of the text or behind a line feed. -/
  | lineStart
  /-- At the end of the text or in front of a line feed. -/
  | lineEnd
  /-- As `lineStart`, with carriage return and line feed together as one line break. -/
  | lineStartCrLf
  | lineEndCrLf
  /-- Between a word character and something else; `ascii` counts ASCII word characters only. -/
  | wordBoundary (ascii : Bool)
  | noWordBoundary (ascii : Bool)
  | wordStart (ascii : Bool)
  | wordEnd (ascii : Bool)
  /-- Not behind a word character. -/
  | wordStartHalf (ascii : Bool)
  /-- Not in front of a word character. -/
  | wordEndHalf (ascii : Bool)
  deriving DecidableEq, Repr

/-- A pattern. -/
inductive Expr where
  /-- Matches the empty text. -/
  | empty
  /-- Matches one character of a set. -/
  | chars (set : CharSet)
  /-- Matches the empty text at the positions that satisfy the assertion. -/
  | look (a : Assertion)
  /-- Matches one expression after the other. -/
  | seq (first second : Expr)
  /-- Matches what either expression matches. -/
  | alt (left right : Expr)
  /-- Matches a number of repetitions, without an upper limit if there is none. -/
  | times (e : Expr) (least : Nat) (most : Option Nat)
  deriving Repr, Inhabited

/-! ## Word characters -/

/-- Letters, marks, decimal digits, connecting punctuation and join controls. -/
def wordChars : CharSet :=
  [Text.Unicode.Category.nonspacingMark, .spacingMark, .enclosingMark, .decimalNumber,
    .connectorPunctuation].foldl (fun set c => set.union c.chars)
    (Text.Unicode.alphabetic.chars.union Text.Unicode.joinControl.chars)

/-- Letters, digits and the underscore of ASCII. -/
def asciiWordChars : CharSet := CharSet.ofRanges "30-39 41-5A 5F 61-7A"

/-- Whether a character belongs to a word. The table is needed beyond ASCII only. -/
def isWord (ascii : Bool) (c : Char) : Bool :=
  if ascii || c.toNat < 0x80 then asciiWordChars.contains c else wordChars.contains c

/-- Whether an assertion holds between two neighbouring characters; at an end of the text there is
no neighbour. -/
def Assertion.holds (before behind : Option Char) : Assertion → Bool
  | .textStart => before.isNone
  | .textEnd => behind.isNone
  | .lineStart => before.all (· = '\n')
  | .lineEnd => behind.all (· = '\n')
  | .lineStartCrLf =>
    before.all (fun c => c = '\n' || (c = '\r' && behind != some '\n'))
  | .lineEndCrLf =>
    behind.all (fun c => c = '\r' || (c = '\n' && before != some '\r'))
  | .wordBoundary ascii => before.any (isWord ascii) != behind.any (isWord ascii)
  | .noWordBoundary ascii => before.any (isWord ascii) == behind.any (isWord ascii)
  | .wordStart ascii => !before.any (isWord ascii) && behind.any (isWord ascii)
  | .wordEnd ascii => before.any (isWord ascii) && !behind.any (isWord ascii)
  | .wordStartHalf ascii => !before.any (isWord ascii)
  | .wordEndHalf ascii => !behind.any (isWord ascii)

/-! ## Size

A counted repetition stands for that many copies of its expression, so a short pattern may be huge.
Sizes are measured in bytes of an automaton over the UTF-8 encoding. -/

/-- The size of a set: one transition per range of ASCII characters, several states per range
beyond. -/
def setSize (set : CharSet) : Nat :=
  set.ranges.foldl (fun n r => n + if r.last < 0x80 then 8 else 60) 32

/-- The size of an expression with its repetitions written out. -/
def Expr.size : Expr → Nat
  | .empty => 32
  | .chars set => setSize set
  | .look _ => 32
  | .seq a b => a.size + b.size
  | .alt a b => a.size + b.size + 40
  | .times e least most => e.size * (max least (most.getD (least + 1))) + 40

/-- Larger patterns are refused. -/
def sizeLimit : Nat := 10 * 2 ^ 20

end MetricGateway.Pattern
