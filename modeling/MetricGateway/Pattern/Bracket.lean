import MetricGateway.Pattern.Escape

/-!
# Bracketed classes

A class in brackets lists characters, ranges and other classes. Between the lists may stand
operators for intersection, difference and symmetric difference, all of the same precedence and
applied from the left. Classes nest, so the reader keeps a stack of the open ones.
-/

namespace MetricGateway.Pattern

open MetricGateway.Text (CharSet Progress)

/-- How two lists of a class combine. -/
inductive ClassOp where
  | intersection
  | difference
  | symmetricDifference
  deriving DecidableEq, Repr

/-- Applies an operator. -/
def ClassOp.apply (op : ClassOp) (left right : CharSet) : CharSet :=
  match op with
  | .intersection => left.inter right
  | .difference => left.diff right
  | .symmetricDifference => left.symmDiff right

/-- An open bracket. -/
structure OpenClass where
  negated : Bool
  /-- The operator that waits for its right side, with its left side. -/
  pending : Option (CharSet × ClassOp)
  /-- The list under way. -/
  list : CharSet
  /-- How deeply classes nest in the bracket so far. -/
  depth : Nat

/-- The set of a list with the operator before it. Case is settled on both sides of an operator. -/
def OpenClass.value (f : Flags) (c : OpenClass) : CharSet :=
  match c.pending with
  | none => c.list
  | some (left, op) => op.apply (f.fold left) (f.fold c.list)

/-- The set of a finished bracket. -/
def OpenClass.close (f : Flags) (c : OpenClass) : CharSet :=
  f.signed c.negated (f.fold (c.value f))

/-- Adds characters to the list. -/
def OpenClass.add (c : OpenClass) (set : CharSet) : OpenClass := { c with list := c.list.union set }

/-- Ends the list with an operator. -/
def OpenClass.operator (f : Flags) (c : OpenClass) (op : ClassOp) : OpenClass :=
  { c with pending := some (c.value f, op), list := .empty, depth := c.depth + 1 }

/-- The named classes of ASCII. -/
def asciiClass? (name : List Char) : Option CharSet :=
  let classes : List (String × String) :=
    [("alnum", "30-39 41-5A 61-7A"), ("alpha", "41-5A 61-7A"), ("ascii", "0-7F"), ("blank", "9 20"),
      ("cntrl", "0-1F 7F"), ("digit", "30-39"), ("graph", "21-7E"), ("lower", "61-7A"),
      ("print", "20-7E"), ("punct", "21-2F 3A-40 5B-60 7B-7E"), ("space", "9-D 20"),
      ("upper", "41-5A"), ("word", "30-39 41-5A 5F 61-7A"), ("xdigit", "30-39 41-46 61-66")]
  (classes.find? fun (n, _) => n.toList = name).map fun (_, ranges) => CharSet.ofRanges ranges

/-- Reads a named class of ASCII such as `[:alpha:]`, of which the bracket is already read. -/
def readAsciiClass (f : Flags) (text : List Char) : Option (CharSet × List Char) := do
  let ':' :: text := text | none
  let (negated, text) := match text with
    | '^' :: text => (true, text)
    | text => (false, text)
  let name := text.takeWhile (· != ':')
  let ':' :: ']' :: rest := text.drop name.length | none
  let set ← asciiClass? name
  return (f.signed negated (f.fold set), rest)

/-- The character that a literal of a class stands for. Without Unicode it must be in ASCII. -/
def literalChar? (f : Flags) (c : Char) : Option Char :=
  if f.unicode || decide (c.toNat < 0x80) then some c else none

/-- Reads one element of a class. -/
def readClassAtom (f : Flags) (text : List Char) : Option (Atom × List Char) :=
  match text with
  | [] => none
  | '\\' :: rest => readEscape f rest
  | c :: rest => some (.literal c false, rest)

/-- The characters of an element; an assertion has none. -/
def atomSet? (f : Flags) : Atom → Option CharSet
  | .literal c _ => (literalChar? f c).map .single
  | .set s => some s
  | .look _ => none

/-- Reads an element or a range of characters. A hyphen in front of a closing bracket or of
another hyphen makes no range. -/
def readClassRange (f : Flags) (text : List Char) : Option (CharSet × List Char) := do
  let (first, rest) ← readClassAtom f text
  match f.skip rest with
  | [] => none
  | '-' :: behind =>
    match f.skip behind with
    | ']' :: _ | '-' :: _ => (atomSet? f first).map fun s => (s, f.skip rest)
    | [] => none
    | behind =>
      let (last, rest) ← readClassAtom f behind
      match first, last with
      | .literal a _, .literal b _ =>
        let a ← literalChar? f a
        let b ← literalChar? f b
        if b < a then none else some (.range a b, rest)
      | _, _ => none
  | rest => (atomSet? f first).map fun s => (s, rest)

/-- Reads the start of a class behind its bracket: the sign of negation, hyphens that stand for
themselves, and a closing bracket if it comes first. -/
def readClassOpen (f : Flags) (text : List Char) : Option (OpenClass × List Char) := do
  let (negated, text) := match f.skip text with
    | '^' :: text => (true, f.skip text)
    | text => (false, text)
  let hyphens := text.takeWhile (· = '-')
  let text := f.skip (text.drop hyphens.length)
  let opened : OpenClass := ⟨negated, none, if hyphens.isEmpty then .empty else .single '-', 0⟩
  match text with
  | [] => none
  | ']' :: rest =>
    if hyphens.isEmpty then
      if (f.skip rest).isEmpty then none else some (opened.add (.single ']'), rest)
    else some (opened, text)
  | text => some (opened, text)

/-- One step of reading classes, with the open ones innermost first. Ends with the set of the
outermost one and the depth to which classes nest in it. -/
def classStep (f : Flags) (opened : OpenClass × List OpenClass) (text : List Char) :
    Option (Progress (OpenClass × List OpenClass) (CharSet × Nat)) :=
  let (inner, outer) := opened
  match f.skip text with
  | [] => none
  | '[' :: rest =>
    match readAsciiClass f rest with
    | some (set, rest) => some (.more (inner.add set, outer) rest)
    | none => (readClassOpen f rest).map fun (c, rest) => .more (c, inner :: outer) rest
  | ']' :: rest =>
    match outer with
    | [] => some (.done (inner.close f, inner.depth + 1) rest)
    | o :: outer =>
      let o := { o.add (inner.close f) with depth := max o.depth (inner.depth + 1) }
      some (.more (o, outer) rest)
  | '&' :: '&' :: rest => some (.more (inner.operator f .intersection, outer) rest)
  | '-' :: '-' :: rest => some (.more (inner.operator f .difference, outer) rest)
  | '~' :: '~' :: rest => some (.more (inner.operator f .symmetricDifference, outer) rest)
  | text => (readClassRange f text).map fun (set, rest) => .more (inner.add set, outer) rest

/-- Reads a class behind its bracket. -/
def readClass (f : Flags) (text : List Char) : Option ((CharSet × Nat) × List Char) := do
  let (c, rest) ← readClassOpen f text
  Text.scan (classStep f) (c, []) rest

end MetricGateway.Pattern
