import MetricGateway.Bytes
import MetricGateway.Text.Unicode.Category
import MetricGateway.Text.Unicode.Property

/-!
# Quoted text

Error messages quote the text they complain about so that every character of it can be seen. A
quote, a backslash and the usual control characters get a backslash; a character that leaves no
mark of its own, or that would change the mark of the one before it, is written as its code point.
-/

namespace MetricGateway.Text

/-- The categories whose characters leave no mark: controls, format characters, private use, and
separators. -/
def markless : List Unicode.Category :=
  [.control, .format, .privateUse, .lineSeparator, .paragraphSeparator, .spaceSeparator]

/-- Characters that cannot be seen when printed, the space excepted. -/
def unprintable : CharSet :=
  (markless.foldl (fun set c => set.union c.chars) Unicode.unassigned).diff (.single ' ')

/-- Characters that attach to the one before them. -/
def attaching : CharSet := Unicode.graphemeExtend.chars

/-- Whether a character is shown as it is. -/
def isPlain (c : Char) : Bool :=
  if c.toNat < 0x7f then 0x20 ≤ c.toNat
  else !attaching.contains c && !unprintable.contains c

/-- A character as it appears between quotes. -/
def escape (c : Char) : List Char :=
  match c with
  | '\x00' => ['\\', '0']
  | '\t' => ['\\', 't']
  | '\r' => ['\\', 'r']
  | '\n' => ['\\', 'n']
  | '\\' => ['\\', '\\']
  | '"' => ['\\', '"']
  | c =>
    if isPlain c then [c] else ['\\', 'u', '\x7b'] ++ Hex.ofNat c.toNat ++ ['\x7d']

/-- A character as it appears in a quoted path, where the single quote is escaped as well. -/
def escapeInPath (c : Char) : List Char := if c = '\'' then ['\\', '\''] else escape c

/-- A text between double quotes. -/
def quoted (s : String) : String :=
  String.ofList ('"' :: s.toList.flatMap escape ++ ['"'])

/-- A path between double quotes. -/
def quotedPath (s : String) : String :=
  String.ofList ('"' :: s.toList.flatMap escapeInPath ++ ['"'])

end MetricGateway.Text
