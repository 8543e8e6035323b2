import MetricGateway.Bytes
import MetricGateway.Text.Scan
import MetricGateway.Yaml.Cursor
import MetricGateway.Yaml.Error

/-!
# Scalars in a YAML text

Plain and quoted scalars may go on over several lines. What lies between two words is then folded:
a single line break becomes a space, and of several all but the first are kept. Block scalars
consist of whole lines that share an indentation; they keep their line breaks, or fold them if they
are marked with `>`.
-/

namespace MetricGateway.Yaml

open Text (Progress scan)

/-- How a scalar is written. -/
inductive Style where
  | plain
  | singleQuoted
  | doubleQuoted
  | literal
  | folded
  deriving DecidableEq, Repr, Inhabited

/-! ## Gaps between words -/

/-- Blanks and line breaks between two words of a scalar. All lists have their last character
first. -/
structure Gap where
  /-- Blanks in front of the first line break. -/
  blanks : List Char := []
  /-- The first line break, if there is one; an escaped one leaves nothing behind. -/
  first : Option (List Char) := none
  /-- The line breaks after the first. -/
  further : List Char := []
  deriving Inhabited

namespace Gap

/-- Whether the gap has a line break. -/
def isMultiline (g : Gap) : Bool := g.first.isSome

/-- Whether there is no gap. -/
def isEmpty (g : Gap) : Bool := g.blanks.isEmpty && g.first.isNone

/-- Adds a blank or a line break. Blanks around line breaks do not count. -/
def push (g : Gap) (c : Char) : Gap :=
  match g.first with
  | none => if isBreak c then { first := some [c] } else { g with blanks := c :: g.blanks }
  | some _ => if isBreak c then { g with further := c :: g.further } else g

/-- What is left of a gap in the value, with the last character first. -/
def folded (g : Gap) : List Char :=
  match g.first with
  | none => g.blanks
  | some ['\n'] => if g.further.isEmpty then [' '] else g.further
  | some first => g.further ++ first

end Gap

/-- A scalar under way. -/
structure Folding where
  place : Place
  /-- The value so far, the last character first. -/
  text : List Char := []
  /-- The gap behind it. -/
  gap : Gap := {}

namespace Folding

/-- Takes a blank or a line break. -/
def blank (s : Folding) (c : Char) : Folding :=
  { s with place := s.place.after c, gap := s.gap.push c }

/-- Takes part of a word: `width` characters of the text that stand for `value`. -/
def word (s : Folding) (width : Nat) (value : Option Char) : Folding :=
  let joined := s.gap.folded ++ s.text
  { place := ⟨s.place.line, s.place.column + width⟩, text := value.toList ++ joined }

end Folding

/-! ## Plain scalars -/

/-- Whether a plain scalar ends at this character. -/
def endsPlain (inFlow : Bool) (c : Char) (rest : List Char) : Bool :=
  (c = ':' && atGap rest) || (inFlow && isFlowSign c)

/-- Whether a colon stands between brackets where it is neither part of a word nor a sign. -/
def strayColon (inFlow : Bool) (c : Char) (rest : List Char) : Bool :=
  inFlow && c = ':' && (rest.head?.any fun d => d = '?' || isFlowSign d)

/-- Reads on in a plain scalar, which outside of brackets has to be indented. -/
def plainStep (inFlow : Bool) (indent : Int) (s : Folding) :
    List Char → Option (Progress Folding Folding)
  | [] => some (.done s [])
  | c :: rest =>
    let outdented := decide ((s.place.column : Int) < indent)
    if isGap c then
      if c = '\t' && s.gap.isMultiline && outdented then none
      else some (.more (s.blank c) rest)
    else
      let afterGap := !s.gap.isEmpty
      if afterGap && ((!inFlow && outdented) || c = '#') then some (.done s (c :: rest))
      else if s.place.column = 0 && atAnyDocumentMark (c :: rest) then some (.done s (c :: rest))
      else if strayColon inFlow c rest then none
      else if endsPlain inFlow c rest then some (.done s (c :: rest))
      else some (.more (s.word 1 (some c)) rest)

/-- Reads a plain scalar. Also says whether a line has ended behind its last word. -/
def plainScalar (inFlow : Bool) (indent : Int) (c : Cursor) :
    Except Problem (List Char × Bool × Cursor) :=
  match scan (plainStep inFlow indent) { place := c.place } c.rest with
  | none => .error .badPlainScalar
  | some (s, rest) => .ok (s.text.reverse, s.gap.isMultiline, ⟨s.place, rest⟩)

/-! ## Quoted scalars -/

/-- What a backslash and a letter stand for between double quotes. -/
def escapeValue? : Char → Option Char
  | '0' => some '\x00'
  | 'a' => some '\x07'
  | 'b' => some '\x08'
  | 't' => some '\t'
  | '\t' => some '\t'
  | 'n' => some '\n'
  | 'v' => some '\x0b'
  | 'f' => some '\x0c'
  | 'r' => some '\r'
  | 'e' => some '\x1b'
  | ' ' => some ' '
  | '"' => some '"'
  | '/' => some '/'
  | '\\' => some '\\'
  | 'N' => some '\u0085'
  | '_' => some '\u00a0'
  | 'L' => some '\u2028'
  | 'P' => some '\u2029'
  | _ => none

/-- How many digits give the character behind a backslash and this letter. -/
def escapeWidth? : Char → Option Nat
  | 'x' => some 2
  | 'u' => some 4
  | 'U' => some 8
  | _ => none

/-- Reads hexadecimal digits that give a character. -/
def hexChar? (width : Nat) (s : List Char) : Option Char := do
  if s.length < width then none
  else
    let ds ← (s.take width).mapM Hex.value?
    let n := ds.foldl (16 * · + ·) 0
    if 0x10ffff < n then none
    else if Char.ofNat n = '\x00' && n ≠ 0 then none
    else some (Char.ofNat n)

/-- Reads an escape, given without its backslash. -/
def escapeStep (s : Folding) : List Char → Option (Progress Folding Folding)
  | [] => none
  | c :: rest =>
    if isBreak c then
      let joined := s.gap.folded ++ s.text
      some (.more { place := ⟨s.place.line + 1, 0⟩, text := joined, gap := { first := some [] } }
        rest)
    else match escapeWidth? c with
      | some width =>
        (hexChar? width rest).map fun x => .more (s.word (2 + width) (some x)) (rest.drop width)
      | none => (escapeValue? c).map fun x => .more (s.word 2 (some x)) rest

/-- Reads on in a quoted scalar. -/
def quotedStep (double : Bool) (s : Folding) : List Char → Option (Progress Folding Folding)
  | [] => none
  | c :: rest =>
    if isGap c then some (.more (s.blank c) rest)
    else if s.place.column = 0 && atAnyDocumentMark (c :: rest) then none
    else if double then
      if c = '"' then some (.done (s.word 1 none) rest)
      else if c = '\\' then escapeStep s rest
      else some (.more (s.word 1 (some c)) rest)
    else if c = '\'' then
      match rest with
      | '\'' :: rest => some (.more (s.word 2 (some '\'')) rest)
      | rest => some (.done (s.word 1 none) rest)
    else some (.more (s.word 1 (some c)) rest)

/-- Reads a quoted scalar from its opening quote on. -/
def quotedScalar (double : Bool) (c : Cursor) : Except Problem (List Char × Cursor) :=
  let c := c.drop 1
  match scan (quotedStep double) { place := c.place } c.rest with
  | none => .error .badQuotedScalar
  | some (s, rest) => .ok (s.text.reverse, ⟨s.place, rest⟩)

/-! ## Block scalars -/

/-- What becomes of the line breaks at the end of a block scalar. -/
inductive Chomping where
  | strip
  | clip
  | keep
  deriving DecidableEq, Repr

/-- The sign of a chomping. -/
def chomping? : Char → Option Chomping
  | '-' => some .strip
  | '+' => some .keep
  | _ => none

/-- A digit that gives the indentation of a block scalar. -/
def indentDigit? (c : Char) : Option Nat :=
  if '1' ≤ c ∧ c ≤ '9' then some (c.toNat - '0'.toNat) else none

/-- Reads the signs at the head of a block scalar: chomping and indentation in either order. -/
def blockSigns (s : List Char) : Chomping × Option Nat × Nat :=
  match s with
  | [] => (.clip, none, 0)
  | a :: rest =>
    match chomping? a, indentDigit? a with
    | some ch, _ =>
      match rest.head? >>= indentDigit? with
      | some n => (ch, some n, 2)
      | none => (ch, none, 1)
    | none, some n =>
      match rest.head? >>= chomping? with
      | some ch => (ch, some n, 2)
      | none => (.clip, some n, 1)
    | none, none => (.clip, none, 0)

/-- Empty lines in front of a line with text. -/
structure EmptyLines where
  place : Place
  /-- The widest indentation among them and of the line with text. -/
  widest : Nat := 0
  /-- Their line breaks, the last one first. -/
  breaks : List Char := []

/-- Skips empty lines and the indentation, which may not hold tabs. An `indent` of zero is one that
is not known yet. -/
def emptyLinesStep (indent : Nat) (s : EmptyLines) :
    List Char → Option (Progress EmptyLines EmptyLines)
  | [] => some (.done s [])
  | c :: rest =>
    let inIndentation := indent = 0 || decide (s.place.column < indent)
    if inIndentation && c = ' ' then
      let place := s.place.after c
      some (.more { s with place, widest := max s.widest place.column } rest)
    else if inIndentation && c = '\t' then none
    else if isBreak c then some (.more { s with place := s.place.after c, breaks := c :: s.breaks } rest)
    else some (.done s (c :: rest))

/-- Skips empty lines. -/
def emptyLines (indent : Nat) (c : Cursor) : Option (EmptyLines × List Char) :=
  scan (emptyLinesStep indent) { place := c.place } c.rest

/-- A block scalar under way. The lists have their last character first. -/
structure BlockText where
  place : Place
  text : List Char := []
  /-- The line break behind the last line with text. -/
  leading : List Char := []
  /-- The line breaks of the empty lines behind it. -/
  trailing : List Char := []
  /-- Whether the last line with text starts with a blank, so that its end is not folded. -/
  indented : Bool := false

/-- The text with the line breaks behind it joined on, as a line follows that starts with a blank or
does not. -/
def BlockText.joined (folds blank : Bool) (s : BlockText) : List Char :=
  if folds && s.leading = ['\n'] && !s.indented && !blank then
    s.trailing ++ (if s.trailing.isEmpty then [' '] else []) ++ s.text
  else s.trailing ++ s.leading ++ s.text

/-- Reads a line of a block scalar and the empty lines behind it. -/
def blockStep (folds : Bool) (indent : Nat) (s : BlockText) (text : List Char) :
    Option (Progress BlockText BlockText) :=
  match text with
  | [] => some (.done s [])
  | c :: _ =>
    if s.place.column ≠ indent then some (.done s text)
    else do
      let (line, next) := Cursor.span (!isBreak ·) ⟨s.place, text⟩
      let leading := next.rest.take 1
      let (empty, rest) ← emptyLines indent (next.drop 1)
      return .more
        { place := empty.place, text := line.reverse ++ s.joined folds (isSpace c), leading,
          trailing := empty.breaks, indented := isSpace c } rest

/-- Reads a block scalar from its sign on; `parent` is the indentation of what it belongs to. -/
def blockScalar (folds : Bool) (parent : Int) (c : Cursor) : Except Problem (List Char × Cursor) :=
  let (chomping, increment, width) := blockSigns (c.rest.drop 1)
  let head := ((c.drop (1 + width)).dropWhile isSpace).dropComment
  if !atBreak head.rest then .error .badBlockScalar
  else
    let known := increment.elim 0 fun n => if 0 ≤ parent then parent.toNat + n else n
    match emptyLines known (head.drop 1) with
    | none => .error .badBlockScalar
    | some (empty, rest) =>
      let indent := if known ≠ 0 then known else max empty.widest (max (parent + 1).toNat 1)
      match scan (blockStep folds indent) { place := empty.place, trailing := empty.breaks } rest with
      | none => .error .badBlockScalar
      | some (s, rest) =>
        let tail := match chomping with
          | .strip => []
          | .clip => s.leading
          | .keep => s.trailing ++ s.leading
        .ok ((tail ++ s.text).reverse, ⟨s.place, rest⟩)

end MetricGateway.Yaml
