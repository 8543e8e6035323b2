/-!
# Sets of characters

A set is a list of code point ranges in ascending order with gaps between them, so that equal sets
have equal representations. Union brings ranges into that form; everything else is union and
complement. Surrogates are not characters: the complement is taken among characters only.
-/

namespace MetricGateway.Text

/-- The code points from `first` to `last`. -/
structure CharRange where
  first : Nat
  last : Nat
  deriving DecidableEq, Repr, Inhabited

/-- A set of characters. -/
structure CharSet where
  ranges : Array CharRange
  deriving DecidableEq, Repr, Inhabited

namespace CharSet

/-- The set without characters. -/
def empty : CharSet := ⟨#[]⟩

/-- Joins a range, given with the ranges behind it, to what overlaps or touches it. -/
def push (done : List CharRange) (r : CharRange) : List CharRange :=
  match done with
  | [] => [r]
  | p :: rest =>
    if r.first ≤ p.last + 1 then ⟨p.first, max p.last r.last⟩ :: rest else r :: done

/-- Merges ranges that are in ascending order. -/
def merge (sorted : List CharRange) : CharSet :=
  ⟨(sorted.foldl push []).reverse.toArray⟩

/-- The characters of all ranges; a range that ends before it starts is left out. -/
def ofRangeList (ranges : List CharRange) : CharSet :=
  merge ((ranges.filter fun r => r.first ≤ r.last).mergeSort fun a b => a.first ≤ b.first)

/-- The characters from one to another. -/
def range (first last : Char) : CharSet := ofRangeList [⟨first.toNat, last.toNat⟩]

/-- One character. -/
def single (c : Char) : CharSet := range c c

/-- The listed characters. -/
def ofChars (cs : List Char) : CharSet := ofRangeList (cs.map fun c => ⟨c.toNat, c.toNat⟩)

/-- Every character. -/
def full : CharSet := ⟨#[⟨0, 0xd7ff⟩, ⟨0xe000, 0x10ffff⟩]⟩

/-- The characters of either set. -/
def union (s t : CharSet) : CharSet := ofRangeList (s.ranges.toList ++ t.ranges.toList)

/-- The gaps between ranges in ascending order, from `start` to `stop`. -/
def gaps (start stop : Nat) : List CharRange → List CharRange
  | [] => if start ≤ stop then [⟨start, stop⟩] else []
  | r :: rest =>
    if start < r.first then ⟨start, min stop (r.first - 1)⟩ :: gaps (max start (r.last + 1)) stop rest
    else gaps (max start (r.last + 1)) stop rest

/-- The surrogate code points. -/
def surrogates : CharRange := ⟨0xd800, 0xdfff⟩

/-- The characters that are not in the set. -/
def complement (s : CharSet) : CharSet :=
  ⟨(gaps 0 0x10ffff (s.union ⟨#[surrogates]⟩).ranges.toList).toArray⟩

/-- The characters of both sets. -/
def inter (s t : CharSet) : CharSet := (s.complement.union t.complement).complement

/-- The characters of the first set that are not in the second. -/
def diff (s t : CharSet) : CharSet := s.inter t.complement

/-- The characters of exactly one of the sets. -/
def symmDiff (s t : CharSet) : CharSet := (s.union t).diff (s.inter t)

/-- The range with a code point among those at the positions from `low` to below `high`. -/
def search (ranges : Array CharRange) (n : Nat) (low high : Nat) : Bool :=
  if _h : low < high then
    let middle := (low + high) / 2
    match ranges[middle]? with
    | none => false
    | some r =>
      if n < r.first then search ranges n low middle
      else if r.last < n then search ranges n (middle + 1) high
      else true
  else false
termination_by high - low

/-- Whether a character is in the set. -/
def contains (s : CharSet) (c : Char) : Bool := search s.ranges c.toNat 0 s.ranges.size

/-- Whether every character of the set is in ASCII. -/
def isAscii (s : CharSet) : Bool := s.ranges.all fun r => r.last < 0x80

/-! ## Written sets -/

/-- The value of hexadecimal digits; other characters count as zero. -/
def hexValue (s : List Char) : Nat :=
  s.foldl (fun n c =>
    let d := c.toNat
    16 * n + (if 0x30 ≤ d ∧ d ≤ 0x39 then d - 0x30
      else if 0x41 ≤ d ∧ d ≤ 0x46 then d - 0x37 else 0)) 0

/-- Cuts a text at the characters that satisfy a test, without empty pieces. -/
def pieces (isGap : Char → Bool) (s : List Char) : List (List Char) :=
  let (current, done) := s.foldl (fun (current, done) c =>
    if isGap c then ([], if current.isEmpty then done else current.reverse :: done)
    else (c :: current, done)) (([] : List Char), ([] : List (List Char)))
  (if current.isEmpty then done else current.reverse :: done).reverse

/-- Spaces and line ends, which divide the entries of a table. -/
def dividesEntries (c : Char) : Bool := c = ' ' || c = '\n'

/-- Reads ranges such as `41-5A` or `AA`, in hexadecimal and divided by spaces and line ends. -/
def ofRanges (text : String) : CharSet :=
  ofRangeList <| (pieces dividesEntries text.toList).map fun piece =>
    match pieces (· = '-') piece with
    | [first, last] => ⟨hexValue first, hexValue last⟩
    | _ => ⟨hexValue piece, hexValue piece⟩

end CharSet

end MetricGateway.Text
