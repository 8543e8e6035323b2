import MetricGateway.Yaml.Decode

/-!
# Writing YAML

Values are written in block style, two columns per level. A text is written plain where it reads back
as the same text, in single quotes where it would read as something else, as a literal block if it has
line feeds, and in double quotes if nothing else can hold it.
-/

namespace MetricGateway.Yaml

open Number (Binary64 FloatFormat)

/-- A value that can be written. -/
inductive Value where
  | null
  | bool (b : Bool)
  | natural (n : Nat)
  | double (x : Binary64)
  | text (s : String)
  | list (items : List Value)
  | mapping (entries : List (String × Value))
  deriving Inhabited

/-- The value of what may be absent. -/
def Value.option {α : Type} (write : α → Value) : Option α → Value
  | none => .null
  | some x => write x

/-! ## The style of a text -/

/-- Any sign that ends a line. -/
def endsLine (c : Char) : Bool := isBreak c || c = '\r' || c = '\u0085'

/-- Characters that can be written as they are. -/
def isPrintable (c : Char) : Bool :=
  let n := c.toNat
  n == 0x0a || (0x20 ≤ n && n ≤ 0x7e) || (0xa0 ≤ n && n ≤ 0xfffd && n ≠ 0xfeff) || 0x10000 ≤ n

/-- Reads a number with a minus sign, without its sign. -/
def readNegative? (s : List Char) : Option Nat :=
  match s with
  | '-' :: '0' :: 'x' :: rest => readBase? 16 rest
  | '-' :: '0' :: 'o' :: rest => readBase? 8 rest
  | '-' :: '0' :: 'b' :: rest => readBase? 2 rest
  | '-' :: rest => if hasLeadingZeros s then none else readBase? 10 rest
  | _ => none

/-- Whether a plain scalar of this text would not be taken for text. -/
def readsAsOther (s : String) : Bool :=
  let cs := s.toList
  s.isEmpty || isNull s || (readBool? s).isSome || hasLeadingZeros cs ||
  (readUnsigned? cs).any (· < 2 ^ 128) || (readNegative? cs).any (· ≤ 2 ^ 127) ||
  (readDouble? cs).isSome

/-- Whether blanks, a line end or the end of the text follow. -/
def gapFollows : List Char → Bool
  | [] => true
  | c :: _ => isSpace c || endsLine c || c = '\x00'

/-- Whether a character has a meaning of its own behind others. -/
def hasInnerIndicator : (afterGap : Bool) → List Char → Bool
  | _, [] => false
  | afterGap, c :: rest =>
    (c = ':' && gapFollows rest) || (c = '#' && afterGap) ||
      hasInnerIndicator (gapFollows [c]) rest

/-- Whether some character would have a meaning of its own in a plain scalar. -/
def hasIndicator (s : List Char) : Bool :=
  let marks := s.take 3 = ['-', '-', '-'] || s.take 3 = ['.', '.', '.']
  marks || match s with
    | [] => false
    | c :: rest =>
      "#,[]\x7b\x7d&*!|>'\"%@`".toList.contains c ||
      ((c = '?' || c = ':' || c = '-') && gapFollows rest) ||
      hasInnerIndicator (gapFollows [c]) rest

/-- Whether two neighbouring characters satisfy two tests. -/
def hasNeighbours (p q : Char → Bool) : List Char → Bool
  | a :: b :: rest => (p a && q b) || hasNeighbours p q (b :: rest)
  | _ => false

/-- Whether a character is a space. -/
def isBlankSpace (c : Char) : Bool := c = ' '

/-- Whether only double quotes can hold a text. -/
def needsEscapes (s : List Char) : Bool :=
  !s.all isPrintable || hasNeighbours isBlankSpace endsLine s

/-- Whether a text may be written plain. -/
def allowsPlain (s : List Char) : Bool :=
  let bare (c : Option Char) : Bool := c.all fun c => !isBlankSpace c && !endsLine c
  bare s.head? && bare s.getLast? && !needsEscapes s && !s.any endsLine && !hasIndicator s

/-- Whether a text may be written in single quotes. -/
def allowsSingle (s : List Char) : Bool :=
  !needsEscapes s && !hasNeighbours endsLine isBlankSpace s

/-- Whether a text may be written as a block. -/
def allowsBlock (s : List Char) : Bool :=
  !s.isEmpty && !needsEscapes s && s.getLast? ≠ some ' '

/-- The style in which a text is written. -/
def styleOf (s : String) : Style :=
  let cs := s.toList
  if cs.contains '\n' then if allowsBlock cs then .literal else .doubleQuoted
  else if !readsAsOther s && allowsPlain cs then .plain
  else if allowsSingle cs then .singleQuoted
  else .doubleQuoted

/-! ## Texts in each style -/

/-- Spaces up to a column. -/
def spaces (count : Nat) : List Char := List.replicate count ' '

/-- Writes text whose lines are indented, and applies a function to every other character. -/
def indentLines (indent : Nat) (write : Char → List Char) : (atStart : Bool) → List Char → List Char
  | _, [] => []
  | atStart, c :: rest =>
    if endsLine c then c :: indentLines indent write true rest
    else (if atStart then spaces indent else []) ++ write c ++ indentLines indent write false rest

/-- A text between single quotes, in which quotes are doubled. -/
def singleQuotedText (indent : Nat) (s : List Char) : List Char :=
  let body := indentLines indent (fun c => if c = '\'' then [c, c] else [c]) false s
  let tail := if s.getLast?.any endsLine then spaces indent else []
  '\'' :: body ++ tail ++ ['\'']

/-- A number in hexadecimal digits of upper case, with leading zeros. -/
def upperHex (width n : Nat) : List Char :=
  let ds := (Hex.ofNat n).map fun c => if 'a' ≤ c ∧ c ≤ 'f' then Char.ofNat (c.toNat - 32) else c
  List.replicate (width - ds.length) '0' ++ ds

/-- The letter that stands for a character behind a backslash. -/
def escapeLetter? (c : Char) : Option Char :=
  "0abtnvfre\"\\NLP".toList.find? fun letter => escapeValue? letter = some c

/-- A character between double quotes. -/
def doubleQuotedChar (c : Char) : List Char :=
  if isPrintable c && !endsLine c && c ≠ '"' && c ≠ '\\' then [c]
  else match escapeLetter? c with
    | some letter => ['\\', letter]
    | none =>
      let n := c.toNat
      if n < 0x100 then ['\\', 'x'] ++ upperHex 2 n
      else if n < 0x10000 then ['\\', 'u'] ++ upperHex 4 n
      else ['\\', 'U'] ++ upperHex 8 n

/-- A text between double quotes. -/
def doubleQuotedText (s : List Char) : List Char :=
  '"' :: s.flatMap doubleQuotedChar ++ ['"']

/-- The signs at the head of a literal block: the indentation if the text starts with a space or a
line break, and what becomes of the line breaks at its end. -/
def literalSigns (s : List Char) : List Char :=
  let indentation := if s.head?.any fun c => c = ' ' || endsLine c then ['2'] else []
  let chomping := match s.reverse with
    | [] => ['-']
    | [c] => if endsLine c then ['+'] else ['-']
    | c :: d :: _ => if !endsLine c then ['-'] else if endsLine d then ['+'] else []
  indentation ++ chomping

/-- A text as a literal block. -/
def literalText (indent : Nat) (s : List Char) : List Char :=
  '|' :: literalSigns s ++ '\n' :: indentLines indent (fun c => [c]) true s

/-- A text in its style; further lines of it are indented. -/
def textLines (indent : Nat) (s : String) : List Char :=
  match styleOf s with
  | .plain => s.toList
  | .singleQuoted => singleQuotedText indent s.toList
  | .doubleQuoted => doubleQuotedText s.toList
  | _ => literalText indent s.toList

/-- Ends a line unless a literal block has ended it. -/
def endLine (literal : Bool) (s : List Char) : List Char :=
  if literal && s.getLast?.any endsLine then s else s ++ ['\n']

/-! ## Values -/

/-- Doubles: an exponent from `1e16` on and below `1e-5`. -/
def doubleFormat : FloatFormat :=
  { lowest := some (-5), highest := some 15, pointZero := true, nan := ".nan", infinity := ".inf" }

/-- A text as lines of its own, the first of which has been started. -/
def closedText (indent : Nat) (s : String) : List Char :=
  endLine (styleOf s = .literal) (textLines indent s)

/-- The longest key, in bytes, that is written in front of its colon on one line. -/
def longestSimpleKey : Nat := 128

/-- Whether a key is written in front of its colon on one line. -/
def isSimpleKey (key : String) : Bool :=
  key.utf8ByteSize ≤ longestSimpleKey && !key.toList.any endsLine

/-- A value on one line, if it has one. -/
def Value.atom? : Value → Option String
  | .null => some "null"
  | .bool b => some (if b then "true" else "false")
  | .natural n => some (toString n)
  | .double x => some (doubleFormat.write x)
  | .list [] => some "[]"
  | .mapping [] => some "\x7b\x7d"
  | _ => none

mutual

/-- A value behind the sign of an entry that starts at a column. -/
def Value.behindSign (column : Nat) (v : Value) : List Char :=
  match v with
  | .text s => ' ' :: closedText (column + 2) s
  | .list (item :: items) =>
    ' ' :: '-' :: item.behindSign (column + 2) ++ itemLines (column + 2) items
  | .mapping ((key, value) :: entries) =>
    ' ' :: keyLines (column + 2) key ++
      valueLines (column + 2) (isSimpleKey key) value ++ entryLines (column + 2) entries
  | v => ' ' :: (v.atom?.getD "").toList ++ ['\n']

/-- The entries of a list. -/
def itemLines (column : Nat) (items : List Value) : List Char :=
  match items with
  | [] => []
  | item :: items =>
    spaces column ++ '-' :: item.behindSign column ++ itemLines column items

/-- A key from its column on, with its colon. -/
def keyLines (column : Nat) (key : String) : List Char :=
  if isSimpleKey key then textLines column key ++ [':']
  else '?' :: ' ' :: closedText (column + 2) key ++ spaces column ++ [':']

/-- The value of a key. -/
def valueLines (column : Nat) (simple : Bool) (v : Value) : List Char :=
  if simple then
    match v with
    | .text s => ' ' :: closedText (column + 2) s
    | .list (item :: items) => '\n' :: itemLines column (item :: items)
    | .mapping (entry :: entries) => '\n' :: entryLines (column + 2) (entry :: entries)
    | v => ' ' :: (v.atom?.getD "").toList ++ ['\n']
  else v.behindSign column

/-- The entries of a mapping. -/
def entryLines (column : Nat) (entries : List (String × Value)) : List Char :=
  match entries with
  | [] => []
  | (key, value) :: entries =>
    spaces column ++ keyLines column key ++ valueLines column (isSimpleKey key) value ++
      entryLines column entries

end

/-- Writes a value as a document. -/
def Value.print (v : Value) : String :=
  String.ofList <| match v with
    | .mapping (entry :: entries) => entryLines 0 (entry :: entries)
    | .list (item :: items) => itemLines 0 (item :: items)
    | .text s => closedText 2 s
    | v => (v.atom?.getD "").toList ++ ['\n']

end MetricGateway.Yaml
