/-!
# White space

Lines, retentions and broker lists are cut at white space, by which the Unicode property
`White_Space` is meant: ASCII blanks and line breaks, the next line control, the no-break and the
typographic spaces, the line and paragraph separators and the ideographic space. The zero width
space is none.
-/

namespace MetricGateway.Text

/-- Characters of the Unicode property `White_Space`. -/
def isBlank (c : Char) : Bool :=
  let n := c.toNat
  (0x09 ≤ n && n ≤ 0x0d) || n == 0x20 || n == 0x85 || n == 0xa0 || n == 0x1680 ||
  (0x2000 ≤ n && n ≤ 0x200a) || n == 0x2028 || n == 0x2029 || n == 0x202f || n == 0x205f ||
  n == 0x3000

/-- Removes white space at both ends. -/
def trim (s : List Char) : List Char :=
  ((s.dropWhile isBlank).reverse.dropWhile isBlank).reverse

/-- Whether a text holds nothing but white space. -/
def isBlankText (s : List Char) : Bool := s.all isBlank

/-- The maximal pieces of a text that are free of white space. -/
def fields (s : List Char) : List (List Char) :=
  go [] s
where
  /-- `current` holds the piece under way, its last character first. -/
  go (current : List Char) : List Char → List (List Char)
    | [] => if current.isEmpty then [] else [current.reverse]
    | c :: rest =>
      if isBlank c then
        if current.isEmpty then go [] rest else current.reverse :: go [] rest
      else go (c :: current) rest

end MetricGateway.Text
