import MetricGateway.Bytes
import MetricGateway.Pattern.Expr
import MetricGateway.Pattern.PropertyName
import MetricGateway.Text.Blank
import MetricGateway.Text.Scan
import MetricGateway.Text.Split
import MetricGateway.Text.Unicode.Folding

/-!
# Escapes in patterns

A backslash takes the special meaning from a punctuation character, or gives one to a letter: a
control character, a code point, a class of characters or an assertion. Which characters a class
holds depends on the flags in force, so the flags are here as well.
-/

namespace MetricGateway.Pattern

open MetricGateway.Text (CharSet)

/-- The switches of a pattern. Any part of it may change them for itself. -/
structure Flags where
  /-- Letters match in either case. -/
  ignoreCase : Bool := false
  /-- The line anchors match at every line break. -/
  multiLine : Bool := false
  /-- The dot matches line breaks. -/
  dotAll : Bool := false
  /-- Classes are those of Unicode. -/
  unicode : Bool := true
  /-- A carriage return with a line feed is one line break. -/
  crLf : Bool := false
  /-- White space and comments in the pattern are skipped. -/
  ignoreSpace : Bool := false
  deriving DecidableEq, Repr

namespace Flags

/-- Skips what carries no meaning under the flags. -/
def skip (f : Flags) (text : List Char) : List Char :=
  if f.ignoreSpace then go false text else text
where
  /-- `comment` tells whether the text starts inside a comment. -/
  go : (comment : Bool) → List Char → List Char
    | _, [] => []
    | true, c :: rest => go (c != '\n') rest
    | false, c :: rest =>
      if Text.isBlank c then go false rest
      else if c = '#' then go true rest
      else c :: rest

/-- The characters a class is taken from: all, or the bytes if Unicode is switched off. -/
def complement (f : Flags) (set : CharSet) : CharSet :=
  if f.unicode then set.complement else (CharSet.ofRanges "0-FF").diff set

/-- Adds the other case of every letter of ASCII. -/
def foldAscii (set : CharSet) : CharSet :=
  let shift (first last : Char) (up : Bool) : CharSet :=
    ⟨(set.inter (.range first last)).ranges.map fun r =>
      if up then ⟨r.first + 32, r.last + 32⟩ else ⟨r.first - 32, r.last - 32⟩⟩
  (set.union (shift 'A' 'Z' true)).union (shift 'a' 'z' false)

/-- The set with the other cases of its letters, if case is ignored. -/
def fold (f : Flags) (set : CharSet) : CharSet :=
  if !f.ignoreCase then set
  else if f.unicode then Text.Unicode.foldCase set
  else foldAscii set

/-- The set or, if negated, all else. -/
def signed (f : Flags) (negated : Bool) (set : CharSet) : CharSet :=
  if negated then f.complement set else set

end Flags

/-- A single element of a pattern or of a class. -/
inductive Atom where
  /-- A character; `byte` tells that it was written as two hexadecimal digits. -/
  | literal (c : Char) (byte : Bool)
  | set (s : CharSet)
  | look (a : Assertion)
  deriving Repr

/-- Characters with a special meaning. -/
def isMeta (c : Char) : Bool := "\\.+*?()|[]\x7b\x7d^$#&-~".toList.contains c

/-- Characters that a backslash may precede although they have no special meaning. -/
def isEscapable (c : Char) : Bool :=
  decide (c.toNat < 0x80) && !c.isAlphanum && c != '<' && c != '>'

/-- The character with a code point, if there is one. -/
def charOf? (n : Nat) : Option Char :=
  if n < 0xd800 ∨ (0xdfff < n ∧ n ≤ 0x10ffff) then some (Char.ofNat n) else none

/-- Reads hexadecimal digits in braces; the opening brace is already read. -/
def readBracedHex (f : Flags) (text : List Char) : Option (Char × List Char) :=
  Text.scan (fun (digits : List Char) text =>
    match f.skip text with
    | [] => none
    | '\x7d' :: rest =>
      if digits.isEmpty ∨ 8 < (digits.reverse.dropWhile (· = '0')).length then none
      else (charOf? (digits.reverse.foldl (fun n d => 16 * n + (Hex.value? d).getD 0) 0)).map
        fun c => .done c rest
    | d :: rest => if (Hex.value? d).isSome then some (.more (d :: digits) rest) else none) [] text

/-- Reads exactly `count` hexadecimal digits. -/
def readHexDigits (f : Flags) : (count value : Nat) → List Char → Option (Char × List Char)
  | 0, value, text => (charOf? value).map fun c => (c, text)
  | count + 1, value, text =>
    match f.skip text with
    | [] => none
    | d :: rest => do readHexDigits f count (16 * value + (← Hex.value? d)) rest

/-- Reads a code point behind `x`, `u` or `U`. -/
def readHex (f : Flags) (count : Nat) (text : List Char) : Option (Atom × List Char) :=
  match f.skip text with
  | '\x7b' :: rest => (readBracedHex f rest).map fun (c, rest) => (.literal c false, rest)
  | text => (readHexDigits f count 0 text).map fun (c, rest) => (.literal c (count == 2), rest)

/-- Cuts a property at the sign that joins its name and value. -/
def cutProperty (text : List Char) : Option (List Char × Bool × List Char) :=
  go [] text
where
  go (name : List Char) : List Char → Option (List Char × Bool × List Char)
    | '!' :: '=' :: rest => some (name.reverse, true, rest)
    | c :: rest => go (c :: name) rest
    | [] => none

/-- The class of a property, given by name or by name and value, and whether it is negated. -/
def propertyClass? (text : List Char) : Option (Bool × CharSet) :=
  match cutProperty text with
  | some (name, _, value) => (classWithValue? name value).map fun s => (true, s)
  | none =>
    match (Text.splitOnce ':' text).or (Text.splitOnce '=' text) with
    | some (name, value) => (classWithValue? name value).map fun s => (false, s)
    | none => (classNamed? text).map fun s => (false, s)

/-- Reads a property class; `negated` tells that it was written with a capital letter. -/
def readProperty (f : Flags) (negated : Bool) (text : List Char) : Option (Atom × List Char) :=
  if !f.unicode then none
  else
    let finish (name : List Char) (rest : List Char) : Option (Atom × List Char) :=
      (propertyClass? name).map fun (differs, s) =>
        (.set (f.signed (negated != differs) (f.fold s)), rest)
    match text with
    | [] => none
    | '\x7b' :: rest => do
      let (name, rest) ← Text.scan (fun (name : List Char) text =>
        match f.skip text with
        | [] => none
        | '\x7d' :: rest => some (.done name.reverse rest)
        | c :: rest => some (.more (c :: name) rest)) [] rest
      finish name rest
    | '\\' :: _ => none
    | c :: rest => finish [c] rest

/-- Decimal digits. -/
def digitChars (f : Flags) : CharSet :=
  if f.unicode then Text.Unicode.Category.decimalNumber.chars else CharSet.ofRanges "30-39"

/-- White space. -/
def spaceChars (f : Flags) : CharSet :=
  if f.unicode then Text.Unicode.whiteSpace.chars else CharSet.ofRanges "9-D 20"

/-- Word characters. -/
def wordClass (f : Flags) : CharSet := if f.unicode then wordChars else asciiWordChars

/-- The assertions that a word in braces behind `\b` may name. -/
def namedBoundary? (ascii : Bool) (name : List Char) : Option Assertion :=
  if name = "start".toList then some (.wordStart ascii)
  else if name = "end".toList then some (.wordEnd ascii)
  else if name = "start-half".toList then some (.wordStartHalf ascii)
  else if name = "end-half".toList then some (.wordEndHalf ascii)
  else none

/-- Letters and hyphens of ASCII. -/
def isBoundaryNameChar (c : Char) : Bool := c.isAlpha || c = '-'

/-- Reads what may follow `\b`: the name of a boundary in braces. Braces with anything else in them
are left for a repetition. -/
def readBoundary (f : Flags) (text : List Char) : Option (Atom × List Char) :=
  let plain : Atom := .look (.wordBoundary (!f.unicode))
  match text with
  | '\x7b' :: rest =>
    match f.skip rest with
    | [] => none
    | c :: _ =>
      if !isBoundaryNameChar c then some (plain, text)
      else do
        let (name, rest) ← Text.scan (fun (name : List Char) text =>
          match f.skip text with
          | [] => none
          | '\x7d' :: rest => some (.done name.reverse rest)
          | c :: rest => if isBoundaryNameChar c then some (.more (c :: name) rest) else none)
          [] rest
        let a ← namedBoundary? (!f.unicode) name
        return (.look a, rest)
  | _ => some (plain, text)

/-- Reads what follows a backslash. -/
def readEscape (f : Flags) (text : List Char) : Option (Atom × List Char) :=
  match text with
  | [] => none
  | c :: rest =>
    let literal (c : Char) : Option (Atom × List Char) := some (.literal c false, rest)
    let set (negated : Bool) (s : CharSet) : Option (Atom × List Char) :=
      some (.set (f.signed negated s), rest)
    if isMeta c then literal c
    else match c with
      | 'x' => readHex f 2 rest
      | 'u' => readHex f 4 rest
      | 'U' => readHex f 8 rest
      | 'p' => readProperty f false rest
      | 'P' => readProperty f true rest
      | 'd' => set false (digitChars f)
      | 'D' => set true (digitChars f)
      | 's' => set false (spaceChars f)
      | 'S' => set true (spaceChars f)
      | 'w' => set false (wordClass f)
      | 'W' => set true (wordClass f)
      | 'a' => literal '\x07'
      | 'f' => literal '\x0c'
      | 't' => literal '\t'
      | 'n' => literal '\n'
      | 'r' => literal '\r'
      | 'v' => literal '\x0b'
      | 'A' => some (.look .textStart, rest)
      | 'z' => some (.look .textEnd, rest)
      | 'b' => readBoundary f rest
      | 'B' => some (.look (.noWordBoundary (!f.unicode)), rest)
      | '<' => some (.look (.wordStart (!f.unicode)), rest)
      | '>' => some (.look (.wordEnd (!f.unicode)), rest)
      | c => if isEscapable c then literal c else none

end MetricGateway.Pattern
