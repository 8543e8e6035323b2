import MetricGateway.Bytes
import MetricGateway.Yaml.Cursor
import MetricGateway.Yaml.Error

/-!
# Directives, anchors and tags

A node may carry an anchor, by which aliases refer to it, and a tag. A tag is written in full between
angle brackets, or as a handle and a suffix; directives in front of a document say what handles stand
for.
-/

namespace MetricGateway.Yaml

/-- Characters of tags besides those of names. -/
def isTagChar (verbatim : Bool) (c : Char) : Bool :=
  isNameChar c || ";/?:@&=+$.!~*'()%".toList.contains c || (verbatim && ",[]".toList.contains c)

/-- The number of bytes of the character that starts with a byte. -/
def utf8Width? (b : Nat) : Option Nat :=
  if b < 0x80 then some 1
  else if b / 0x20 = 6 then some 2
  else if b / 0x10 = 14 then some 3
  else if b / 8 = 30 then some 4
  else none

/-- A byte written as a percent sign and two digits. -/
def percentByte? : List Char → Option (Nat × List Char)
  | '%' :: a :: b :: rest => do
    let high ← Hex.value? a
    let low ← Hex.value? b
    return (16 * high + low, rest)
  | _ => none

/-- Further bytes of a character whose first byte gave `value`. -/
def percentTail? : Nat → Nat → List Char → Option (Nat × List Char)
  | 0, value, rest => some (value, rest)
  | n + 1, value, rest => do
    let (b, rest) ← percentByte? rest
    if b / 0x40 = 2 then percentTail? n (0x40 * value + b % 0x40) rest else none

/-- A character written byte by byte with percent signs. -/
def percentChar? (s : List Char) : Option (Char × List Char) := do
  let (b, rest) ← percentByte? s
  let width ← utf8Width? b
  let first := if width = 1 then b else b % 2 ^ (7 - width)
  let (value, rest) ← percentTail? (width - 1) first rest
  return (Char.ofNat value, rest)

/-- The text of a tag from which the percent signs are removed. -/
def percentDecode? : (fuel : Nat) → List Char → Option (List Char)
  | _, [] => some []
  | 0, _ => none
  | fuel + 1, '%' :: rest => do
    let (c, rest) ← percentChar? ('%' :: rest)
    return c :: (← percentDecode? fuel rest)
  | fuel + 1, c :: rest => do
    return c :: (← percentDecode? fuel rest)

/-- Reads the characters of a tag. -/
def tagText (verbatim : Bool) (c : Cursor) : Except Problem (List Char × Cursor) :=
  let (raw, next) := c.span (isTagChar verbatim)
  match percentDecode? raw.length raw with
  | none => .error .badProperty
  | some text => .ok (text, next)

/-- Reads an exclamation mark, the characters of a name, and a second mark if there is one. -/
def tagHandle (c : Cursor) : Except Problem (List Char × Cursor) :=
  match c.rest with
  | '!' :: _ =>
    let (name, next) := (c.drop 1).span isNameChar
    match next.rest with
    | '!' :: _ => .ok ('!' :: name ++ ['!'], next.drop 1)
    | _ => .ok ('!' :: name, next)
  | _ => .error .badProperty

/-- Reads a tag as its handle and its suffix; a tag in full has no handle. -/
def tag (inFlow : Bool) (c : Cursor) : Except Problem ((String × String) × Cursor) := do
  let (parts, next) ←
    if c.rest.take 2 = ['!', '<'] then do
      let (text, next) ← tagText true (c.drop 2)
      if text.isEmpty || next.rest.head? ≠ some '>' then throw .badProperty
      pure (([], text), next.drop 1)
    else do
      let (handle, next) ← tagHandle c
      let (text, next) ← tagText false next
      if 2 ≤ handle.length && handle.getLast? = some '!' then
        if text.isEmpty then throw .badProperty
        pure ((handle, text), next)
      else
        let suffix := handle.drop 1 ++ text
        pure (if suffix.isEmpty then ([], ['!']) else (['!'], suffix), next)
  if atGap next.rest || (inFlow && next.rest.head? = some ',') then
    return ((String.ofList parts.1, String.ofList parts.2), next)
  else throw .badProperty

/-- Reads the name of an anchor or an alias behind its sign. -/
def anchorName (c : Cursor) : Except Problem (String × Cursor) :=
  let (name, next) := (c.drop 1).span isNameChar
  let ends := atGap next.rest || (next.rest.head?.any fun d => "?:,]\x7d%@`".toList.contains d)
  if name.isEmpty || !ends then .error .badProperty else .ok (String.ofList name, next)

/-- What stands in front of a document. -/
inductive Directive where
  /-- The version of the language that the document is written in. -/
  | version (major minor : Nat)
  /-- What a handle of tags stands for. -/
  | handle (name meaning : String)
  deriving DecidableEq, Repr

/-- Reads a part of a version number. -/
def versionPart (c : Cursor) : Except Problem (Nat × Cursor) :=
  let (ds, next) := c.span (·.isDigit)
  if ds.isEmpty || 9 < ds.length then .error .badDirective
  else .ok (ds.foldl (fun n d => 10 * n + (d.toNat - '0'.toNat)) 0, next)

/-- Reads what follows the name of a directive. -/
def directiveValue (name : List Char) (c : Cursor) : Except Problem (Directive × Cursor) := do
  let c := c.dropWhile isSpace
  if name = "YAML".toList then
    let (major, c) ← versionPart c
    if c.rest.head? ≠ some '.' then throw .badDirective
    let (minor, c) ← versionPart (c.drop 1)
    return (.version major minor, c)
  else if name = "TAG".toList then
    let (handle, c) ← tagHandle c
    if handle ≠ ['!'] && handle.getLast? ≠ some '!' then throw .badDirective
    if !c.rest.head?.any isSpace then throw .badDirective
    let (meaning, c) ← tagText true (c.dropWhile isSpace)
    if meaning.isEmpty || !atGap c.rest then throw .badDirective
    return (.handle (String.ofList handle) (String.ofList meaning), c)
  else throw .badDirective

/-- Reads a directive from its percent sign to the end of its line. -/
def directive (c : Cursor) : Except Problem (Directive × Cursor) := do
  let (name, next) := (c.drop 1).span isNameChar
  if name.isEmpty || !atGap next.rest then throw .badDirective
  let (value, next) ← directiveValue name next
  let next := (next.dropWhile isSpace).dropComment
  if !atBreak next.rest then throw .badDirective
  return (value, next.drop 1)

end MetricGateway.Yaml
