/-!
# Characters of YAML

A line ends with a line feed, a carriage return, both of them, or a next line control, and all these
count as a line feed. A text is brought into that form first, so that everything after it knows line
feeds and the two separators of Unicode only.
-/

namespace MetricGateway.Yaml

/-- Characters that may occur in a text. -/
def isAllowed (c : Char) : Bool :=
  let n := c.toNat
  n == 0x09 || n == 0x0a || n == 0x0d || (0x20 ≤ n && n ≤ 0x7e) || n == 0x85 ||
  (0xa0 ≤ n && n ≤ 0xfffd) || 0x10000 ≤ n

/-- Writes every line break but the separators as a line feed. -/
def normalizeBreaks : List Char → List Char
  | [] => []
  | '\r' :: '\n' :: rest => '\n' :: normalizeBreaks rest
  | c :: rest => (if c = '\r' ∨ c = '\u0085' then '\n' else c) :: normalizeBreaks rest

/-- Line feeds and separators of lines and paragraphs. -/
def isBreak (c : Char) : Bool := c = '\n' || c = '\u2028' || c = '\u2029'

/-- Spaces and tabs. -/
def isSpace (c : Char) : Bool := c = ' ' || c = '\t'

/-- Spaces, tabs and line breaks. -/
def isGap (c : Char) : Bool := isSpace c || isBreak c

/-- Whether a text starts with a space, a tab or a line break, or is at its end. -/
def atGap : List Char → Bool
  | [] => true
  | c :: _ => isGap c

/-- Whether a text starts with a line break or is at its end. -/
def atBreak : List Char → Bool
  | [] => true
  | c :: _ => isBreak c

/-- Letters and digits of ASCII, the hyphen and the underscore: the characters of names. -/
def isNameChar (c : Char) : Bool := c.isAlphanum || c = '_' || c = '-'

/-- The sign that starts or ends a document if it stands at the start of a line. -/
def atDocumentMark (sign : Char) : List Char → Bool
  | a :: b :: c :: rest => a = sign && b = sign && c = sign && atGap rest
  | _ => false

/-- Whether a document starts or ends here. -/
def atAnyDocumentMark (text : List Char) : Bool :=
  atDocumentMark '-' text || atDocumentMark '.' text

/-- Indicators, with which a plain scalar cannot start. -/
def isIndicator (c : Char) : Bool := "-?:,[]\x7b\x7d#&*!|>'\"%@`".toList.contains c

/-- Signs that open, close or divide collections between brackets. -/
def isFlowSign (c : Char) : Bool := ",[]\x7b\x7d".toList.contains c

end MetricGateway.Yaml
