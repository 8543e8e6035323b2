import MetricGateway.Yaml.Property
import MetricGateway.Yaml.Scalar

/-!
# Tokens of a YAML text

Indentation is turned into tokens that open and close block collections. Whether a scalar is a key
is known only when its colon is found, so the place of every possible key is kept as a position among
the tokens; when the colon comes, the token for the key, and if need be the one that opens a mapping,
is inserted there. Outside of brackets a key has to stand on one line, and it may never be longer
than 1024 characters.
-/

namespace MetricGateway.Yaml

/-- What a token says. -/
inductive TokenKind where
  | directive (value : Directive)
  | documentStart
  | documentEnd
  | blockSequenceStart
  | blockMappingStart
  | blockEnd
  | flowSequenceStart
  | flowSequenceEnd
  | flowMappingStart
  | flowMappingEnd
  /-- The hyphen in front of an entry. -/
  | blockEntry
  /-- The comma behind an entry. -/
  | flowEntry
  | key
  | value
  | alias (name : String)
  | anchor (name : String)
  | tag (handle suffix : String)
  | scalar (style : Style) (text : String)
  /-- The end of the text. -/
  | finish
  deriving DecidableEq, Repr, Inhabited

/-- A token and the line where it starts. -/
structure Token where
  kind : TokenKind
  line : Nat
  deriving Repr, Inhabited

/-- A place where a key may have started. -/
structure KeyStart where
  /-- The position among the tokens. -/
  position : Nat
  place : Place
  /-- Whether nothing but a key can stand here. -/
  required : Bool

/-- How far a text has been cut into tokens. -/
structure Tokenizer where
  cursor : Cursor
  tokens : Array Token := #[]
  /-- The column of the innermost block collection, `-1` outside of all. -/
  indent : Int := -1
  /-- The columns of the block collections around it, the innermost first. -/
  outer : List Int := []
  /-- Whether a key may start here. -/
  keyAllowed : Bool := true
  /-- The possible key outside of brackets. -/
  blockKey : Option KeyStart := none
  /-- The possible keys within each pair of brackets that is open, the innermost first. -/
  flowKeys : List (Option KeyStart) := []

namespace Tokenizer

/-- A step in cutting a text. -/
abbrev Step := Tokenizer → Except Problem Tokenizer

/-- Whether a bracket is open. -/
def inFlow (t : Tokenizer) : Bool := !t.flowKeys.isEmpty

/-- The column of the next character. -/
def column (t : Tokenizer) : Nat := t.cursor.place.column

/-- Appends a token that starts here. -/
def push (t : Tokenizer) (kind : TokenKind) : Tokenizer :=
  { t with tokens := t.tokens.push ⟨kind, t.cursor.place.line⟩ }

/-- Appends a token of one character. -/
def pushSign (t : Tokenizer) (kind : TokenKind) : Tokenizer :=
  let t := t.push kind
  { t with cursor := t.cursor.drop 1 }

/-! ## Possible keys -/

/-- The possible key that a colon would complete. -/
def currentKey (t : Tokenizer) : Option KeyStart :=
  match t.flowKeys with
  | [] => t.blockKey
  | key :: _ => key

/-- Replaces the possible key that a colon would complete. -/
def setKey (t : Tokenizer) (key : Option KeyStart) : Tokenizer :=
  match t.flowKeys with
  | [] => { t with blockKey := key }
  | _ :: keys => { t with flowKeys := key :: keys }

/-- Gives up the possible key, which must not be one that is required. -/
def dropKey : Step := fun t =>
  match t.currentKey with
  | some key => if key.required then .error .missingColon else .ok (t.setKey none)
  | none => .ok t

/-- Notes that a key may start here. -/
def saveKey : Step := fun t =>
  if !t.keyAllowed then .ok t
  else do
    let t ← t.dropKey
    let required := !t.inFlow && t.indent = t.column
    return t.setKey (some ⟨t.tokens.size, t.cursor.place, required⟩)

/-- Whether a place is too far behind for a key that started there. -/
def isStale (here : Place) (key : KeyStart) : Bool :=
  key.place.line < here.line || key.place.column + 1024 < here.column

/-- Gives up the possible keys that are too far behind. -/
def dropStaleKeys : Step := fun t =>
  let here := t.cursor.place
  let stale (key : Option KeyStart) : Bool := key.any (isStale here)
  let required (key : Option KeyStart) : Bool := key.any fun k => isStale here k && k.required
  if required t.blockKey || t.flowKeys.any required then .error .missingColon
  else .ok { t with
    blockKey := if stale t.blockKey then none else t.blockKey,
    flowKeys := t.flowKeys.map fun key => if stale key then none else key }

/-! ## Indentation -/

/-- Opens a block collection at a column, unless one is open there. The token goes to a position
among the tokens, or behind them all. -/
def openBlock (column : Nat) (kind : TokenKind) (position : Option Nat) (line : Nat)
    (t : Tokenizer) : Tokenizer :=
  if t.inFlow || (column : Int) ≤ t.indent then t
  else
    let token : Token := ⟨kind, line⟩
    let tokens := match position with
      | some i => t.tokens.insertIdxIfInBounds i token
      | none => t.tokens.push token
    { t with tokens, indent := column, outer := t.indent :: t.outer }

/-- Closes the block collections that are indented further than a column, given with those around
the innermost one. -/
def closeUntil (column : Int) (t : Tokenizer) : List Int → Tokenizer
  | [] => t
  | o :: outer =>
    if column < t.indent then closeUntil column { t.push .blockEnd with indent := o, outer } outer
    else t

/-- Closes the block collections that are indented further than a column. -/
def closeBlocks (column : Int) (t : Tokenizer) : Tokenizer :=
  if t.inFlow then t else t.closeUntil column t.outer

/-! ## Tokens -/

/-- Skips blanks, comments and line breaks in front of a token. -/
def skipGap : Nat → Tokenizer → Tokenizer
  | 0, t => t
  | n + 1, t =>
    let c := t.cursor.dropWhile fun x => x = ' ' || (x = '\t' && (t.inFlow || !t.keyAllowed))
    let c := c.dropComment
    match c.rest with
    | x :: _ =>
      if isBreak x then
        skipGap n { t with cursor := c.drop 1, keyAllowed := t.keyAllowed || !t.inFlow }
      else { t with cursor := c }
    | [] => { t with cursor := c }

/-- Ends everything that is open in a document. -/
def endDocument : Step := fun t => do
  let t ← (t.closeBlocks (-1)).dropKey
  return { t with keyAllowed := false }

/-- Takes a directive. -/
def takeDirective : Step := fun t => do
  let t ← t.endDocument
  let (value, cursor) ← directive t.cursor
  return { t.push (.directive value) with cursor }

/-- Takes a mark at which a document starts or ends. -/
def takeDocumentMark (kind : TokenKind) : Step := fun t => do
  let t ← t.endDocument
  return { t.push kind with cursor := t.cursor.drop 3 }

/-- Takes an opening bracket. -/
def takeOpening (kind : TokenKind) : Step := fun t => do
  let t ← t.saveKey
  return { t.pushSign kind with flowKeys := none :: t.flowKeys, keyAllowed := true }

/-- Takes a closing bracket. -/
def takeClosing (kind : TokenKind) : Step := fun t => do
  let t ← t.dropKey
  return { t.pushSign kind with flowKeys := t.flowKeys.tail, keyAllowed := false }

/-- Takes a comma between brackets. -/
def takeComma : Step := fun t => do
  let t ← t.dropKey
  return { t.pushSign .flowEntry with keyAllowed := true }

/-- Takes the hyphen in front of an entry. -/
def takeHyphen : Step := fun t => do
  if !t.inFlow && !t.keyAllowed then throw .misplacedEntry
  let t ← (t.openBlock t.column .blockSequenceStart none t.cursor.place.line).dropKey
  return { t.pushSign .blockEntry with keyAllowed := true }

/-- Takes a question mark in front of a key. -/
def takeQuestionMark : Step := fun t => do
  if !t.inFlow && !t.keyAllowed then throw .misplacedEntry
  let t ← (t.openBlock t.column .blockMappingStart none t.cursor.place.line).dropKey
  return { t.pushSign .key with keyAllowed := !t.inFlow }

/-- Takes a colon in front of a value. -/
def takeColon : Step := fun t => do
  match t.currentKey with
  | some key =>
    let line := key.place.line
    let t := { t with tokens := t.tokens.insertIdxIfInBounds key.position ⟨.key, line⟩ }
    let t := t.openBlock key.place.column .blockMappingStart (some key.position) line
    return { (t.setKey none).pushSign .value with keyAllowed := false }
  | none =>
    if !t.inFlow && !t.keyAllowed then throw .misplacedEntry
    let t := t.openBlock t.column .blockMappingStart none t.cursor.place.line
    return { t.pushSign .value with keyAllowed := !t.inFlow }

/-- Takes an anchor or an alias. -/
def takeAnchor (kind : String → TokenKind) : Step := fun t => do
  let t ← t.saveKey
  let (name, cursor) ← anchorName t.cursor
  return { t.push (kind name) with cursor, keyAllowed := false }

/-- Takes a tag. -/
def takeTag : Step := fun t => do
  let t ← t.saveKey
  let ((handle, suffix), cursor) ← tag t.inFlow t.cursor
  return { t.push (.tag handle suffix) with cursor, keyAllowed := false }

/-- Takes a block scalar. -/
def takeBlockScalar (folds : Bool) : Step := fun t => do
  let t ← t.dropKey
  let (text, cursor) ← blockScalar folds t.indent t.cursor
  let style := if folds then Style.folded else .literal
  return { t.push (.scalar style (String.ofList text)) with cursor, keyAllowed := true }

/-- Takes a quoted scalar. -/
def takeQuoted (double : Bool) : Step := fun t => do
  let t ← t.saveKey
  let (text, cursor) ← quotedScalar double t.cursor
  let style := if double then Style.doubleQuoted else .singleQuoted
  return { t.push (.scalar style (String.ofList text)) with cursor, keyAllowed := false }

/-- Takes a plain scalar. -/
def takePlain : Step := fun t => do
  let t ← t.saveKey
  let (text, lineEnded, cursor) ← plainScalar t.inFlow (t.indent + 1) t.cursor
  return { t.push (.scalar .plain (String.ofList text)) with cursor, keyAllowed := lineEnded }

/-- Whether a plain scalar may start with a character. -/
def startsPlain (inFlow : Bool) (c : Char) (rest : List Char) : Bool :=
  !(isGap c || isIndicator c) ||
  (c = '-' && !(rest.head?.any isSpace)) ||
  (!inFlow && (c = '?' || c = ':') && !atGap rest)

/-- Takes the token that starts with a character. -/
def takeToken (c : Char) (rest : List Char) : Step := fun t =>
  let sign := t.inFlow || atGap rest
  if t.column = 0 && c = '%' then t.takeDirective
  else if t.column = 0 && Yaml.atDocumentMark '-' (c :: rest) then t.takeDocumentMark .documentStart
  else if t.column = 0 && Yaml.atDocumentMark '.' (c :: rest) then t.takeDocumentMark .documentEnd
  else match c with
    | '[' => t.takeOpening .flowSequenceStart
    | '\x7b' => t.takeOpening .flowMappingStart
    | ']' => t.takeClosing .flowSequenceEnd
    | '\x7d' => t.takeClosing .flowMappingEnd
    | ',' => t.takeComma
    | '*' => t.takeAnchor .alias
    | '&' => t.takeAnchor .anchor
    | '!' => t.takeTag
    | '\'' => t.takeQuoted false
    | '"' => t.takeQuoted true
    | c =>
      if c = '-' && atGap rest then t.takeHyphen
      else if c = '?' && sign then t.takeQuestionMark
      else if c = ':' && sign then t.takeColon
      else if c = '|' && !t.inFlow then t.takeBlockScalar false
      else if c = '>' && !t.inFlow then t.takeBlockScalar true
      else if startsPlain t.inFlow c rest then t.takePlain
      else .error .unexpectedCharacter

/-- Skips the mark that some editors put at the start of a text. -/
def skipByteOrderMark (t : Tokenizer) : Tokenizer :=
  if t.cursor.rest.head? = some '\ufeff' then { t with cursor := t.cursor.drop 1 } else t

/-- Ends the text. -/
def finish (t : Tokenizer) : Except Problem (Array Token) := do
  let t ← (t.closeBlocks (-1)).dropKey
  return (t.push .finish).tokens

/-- Takes tokens until the text ends. Every token has at least one character, so that what bounds the
number of tokens bounds the number of lines in a gap as well. -/
def takeAll : Nat → Tokenizer → Except Error (Array Token)
  | 0, t => .error ⟨.badStructure, some (t.cursor.place.line + 1)⟩
  | n + 1, t =>
    let t := t.skipGap (n + 1)
    let line := t.cursor.place.line + 1
    let result := do
      let t ← t.dropStaleKeys
      let t := t.closeBlocks t.column
      match t.cursor.rest with
      | [] => return Sum.inl (← t.finish)
      | c :: rest => return Sum.inr (← t.takeToken c rest)
    match result with
    | .error problem => .error ⟨problem, some line⟩
    | .ok (.inl tokens) => .ok tokens
    | .ok (.inr t) => takeAll n t

end Tokenizer

/-- Cuts a text into tokens. -/
def tokenize (text : String) : Except Error (Array Token) :=
  let chars := text.toList
  if chars.all isAllowed then
    let chars := normalizeBreaks chars
    (Tokenizer.skipByteOrderMark { cursor := .ofText chars }).takeAll (chars.length + 1)
  else .error ⟨.forbiddenCharacter, none⟩

end MetricGateway.Yaml
