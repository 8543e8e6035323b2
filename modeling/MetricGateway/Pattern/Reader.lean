import MetricGateway.Pattern.Bracket

/-!
# Reading patterns

A pattern is read from left to right in one pass. What is open, a concatenation inside an
alternation inside a group, lies on a stack of levels, and the flags in force are part of the
state: a group restores on its end what was in force before it.

Refused are patterns that are not well formed, that look around or back, that could match part of
a character, that nest too deeply, or that are too large with their repetitions written out.
-/

namespace MetricGateway.Pattern

open MetricGateway.Text (CharSet Progress)

/-- A finished part of a concatenation. -/
structure Item where
  expr : Expr
  /-- How deeply the part nests. -/
  depth : Nat
  /-- Whether the part can be repeated; a change of flags cannot. -/
  repeatable : Bool := true

/-- An alternation under way, as opened by a group or by the pattern itself. -/
structure Level where
  /-- The parts of the concatenation under way, the last one first. -/
  items : List Item := []
  /-- The branches before it, the last one first. -/
  branches : List Item := []
  /-- The flags in force outside the group. -/
  outside : Flags := {}

/-- The state of the reader. -/
structure ReaderState where
  flags : Flags := {}
  level : Level := {}
  /-- The levels around the current one, innermost first. -/
  enclosing : List Level := []
  /-- The names of groups so far. -/
  names : List (List Char) := []

/-- The concatenation of parts that are listed last one first. -/
def concatenation : List Item → Item
  | [] => ⟨.empty, 0, true⟩
  | [i] => i
  | last :: i :: before =>
    (i :: before).foldl
      (fun all part => ⟨.seq part.expr all.expr, max all.depth (part.depth + 1), true⟩)
      ⟨last.expr, last.depth + 1, true⟩

/-- The alternation of a level. -/
def Level.finish (l : Level) : Item :=
  match l.branches with
  | [] => concatenation l.items
  | branches =>
    let last := concatenation l.items
    branches.foldl
      (fun all branch => ⟨.alt branch.expr all.expr, max all.depth (branch.depth + 1), true⟩)
      ⟨last.expr, last.depth + 1, true⟩

/-- Adds a part to the concatenation under way. -/
def ReaderState.push (st : ReaderState) (i : Item) : ReaderState :=
  { st with level := { st.level with items := i :: st.level.items } }

/-- The class of a single character under the flags, or the character itself. -/
def literalExpr (f : Flags) (c : Char) : Expr :=
  if f.unicode || decide (c.toNat < 0x80) then .chars (f.fold (.single c)) else .chars (.single c)

/-- The expression of a set. Without Unicode a set beyond ASCII could match part of a character. -/
def setExpr? (f : Flags) (set : CharSet) : Option Expr :=
  if f.unicode || set.isAscii then some (.chars set) else none

/-- The expression of an element. -/
def atomExpr? (f : Flags) : Atom → Option Expr
  | .literal c byte =>
    if !f.unicode && byte && decide (0x80 ≤ c.toNat) then none else some (literalExpr f c)
  | .set s => setExpr? f s
  | .look a => some (.look a)

/-- What the dot matches. -/
def dotExpr? (f : Flags) : Option Expr :=
  if !f.unicode then none
  else if f.dotAll then some (.chars .full)
  else if f.crLf then some (.chars (CharSet.ofChars ['\n', '\r']).complement)
  else some (.chars (CharSet.single '\n').complement)

/-- The assertion of `^`. -/
def caret (f : Flags) : Assertion :=
  if !f.multiLine then .textStart else if f.crLf then .lineStartCrLf else .lineStart

/-- The assertion of `$`. -/
def dollar (f : Flags) : Assertion :=
  if !f.multiLine then .textEnd else if f.crLf then .lineEndCrLf else .lineEnd

/-- Repeats the last part. -/
def ReaderState.repeatLast (st : ReaderState) (least : Nat) (most : Option Nat) :
    Option ReaderState :=
  match st.level.items with
  | i :: before =>
    if i.repeatable then
      let i : Item := ⟨.times i.expr least most, i.depth + 1, true⟩
      some { st with level := { st.level with items := i :: before } }
    else none
  | [] => none

/-- Drops the question mark of a repetition that prefers to be short. -/
def dropLazy : List Char → List Char
  | '?' :: rest => rest
  | text => text

/-- Reads a decimal number below `2 ^ 32` with white space around it. -/
def readCount? (f : Flags) (text : List Char) : Option (Nat × List Char) :=
  let rec digits (value : Nat) (some' : Bool) : Nat → List Char → Option (Nat × List Char)
    | 0, _ => none
    | steps + 1, text =>
      match text with
      | c :: rest =>
        if c.isDigit then digits (10 * value + (c.toNat - 0x30)) true steps (f.skip rest)
        else if some' then some (value, text.dropWhile Text.isBlank)
        else none
      | [] => if some' then some (value, []) else none
  match digits 0 false (text.length + 1) (text.dropWhile Text.isBlank) with
  | some (value, rest) => if value < 2 ^ 32 then some (value, rest) else none
  | none => none

/-- Reads a counted repetition behind its brace. -/
def readCounted (f : Flags) (text : List Char) : Option ((Nat × Option Nat) × List Char) := do
  let (least, rest) ← readCount? f (f.skip text)
  let (most, rest) ← match f.skip rest with
    | ',' :: rest =>
      match f.skip rest with
      | '\x7d' :: _ => some ((none : Option Nat), f.skip rest)
      | rest => (readCount? f rest).map fun (n, rest) => (some n, rest)
    | rest => some (some least, rest)
  let '\x7d' :: rest := f.skip rest | none
  if most.any (· < least) then none
  else
    return ((least, most), match f.skip rest with
      | '?' :: rest => rest
      | _ => rest)

/-- Reads flags up to and including the sign that ends them, a colon or a parenthesis, which it
returns with them. At least one flag has to follow a minus sign, and none may occur twice. -/
def readFlags (f : Flags) (text : List Char) : Option ((Flags × Char × Bool) × List Char) :=
  Text.scan (fun (state : Flags × List Char × Bool × Bool) text =>
    let (f, seen, negated, dangling) := state
    match text with
    | [] => none
    | c :: rest =>
      if c = ':' ∨ c = ')' then
        if dangling then none else some (.done (f, c, seen.isEmpty && !negated) rest)
      else if seen.contains c then none
      else if c = '-' then some (.more (f, '-' :: seen, true, true) rest)
      else
        let on := !negated
        let next (f : Flags) := some (Progress.more (f, c :: seen, negated, false) rest)
        match c with
        | 'i' => next { f with ignoreCase := on }
        | 'm' => next { f with multiLine := on }
        | 's' => next { f with dotAll := on }
        | 'U' => next f
        | 'u' => next { f with unicode := on }
        | 'R' => next { f with crLf := on }
        | 'x' => next { f with ignoreSpace := on }
        | _ => none) (f, [], false, false) text

/-- Letters of any script. -/
def isLetter (c : Char) : Bool :=
  if c.toNat < 0x80 then c.isAlpha else Text.Unicode.alphabetic.chars.contains c

/-- Letters and numbers of any script. -/
def isLetterOrNumber (c : Char) : Bool :=
  if c.toNat < 0x80 then c.isAlphanum
  else isLetter c || (ofCategories [.decimalNumber, .letterNumber, .otherNumber]).contains c

/-- Whether a text can name a group. -/
def isGroupName : List Char → Bool
  | [] => false
  | c :: rest =>
    (c = '_' || isLetter c) &&
      rest.all fun c => c = '_' || c = '.' || c = '[' || c = ']' || isLetterOrNumber c

/-- Opens a group. -/
def ReaderState.openGroup (st : ReaderState) (inside : Flags) : ReaderState :=
  { st with
    flags := inside
    level := { outside := st.flags }
    enclosing := st.level :: st.enclosing }

/-- Opens a group with a name. -/
def readNamedGroup (st : ReaderState) (text : List Char) : Option (ReaderState × List Char) :=
  let name := text.takeWhile (· != '>')
  match text.drop name.length with
  | [] => none
  | _ :: rest =>
    if isGroupName name && !st.names.contains name then
      some ({ st.openGroup st.flags with names := name :: st.names }, rest)
    else none

/-- Reads what follows an opening parenthesis: a group, or a change of flags. -/
def readGroup (st : ReaderState) (text : List Char) : Option (ReaderState × List Char) :=
  match st.flags.skip text with
  | '?' :: '=' :: _ | '?' :: '!' :: _ | '?' :: '<' :: '=' :: _ | '?' :: '<' :: '!' :: _ => none
  | '?' :: 'P' :: '<' :: rest => readNamedGroup st rest
  | '?' :: '<' :: rest => readNamedGroup st rest
  | '?' :: rest =>
    match readFlags st.flags rest with
    | none => none
    | some ((flags, stop, bare), rest) =>
      if stop = ')' then
        if bare then none else some ({ st with flags }.push ⟨.empty, 0, false⟩, rest)
      else some (st.openGroup flags, rest)
  | text => some (st.openGroup st.flags, text)

/-- Ends a group. -/
def ReaderState.closeGroup (st : ReaderState) : Option ReaderState :=
  match st.enclosing with
  | [] => none
  | outer :: enclosing =>
    let i := st.level.finish
    some ({ st with
      flags := st.level.outside
      level := outer
      enclosing }.push ⟨i.expr, i.depth + 1, true⟩)

/-- Ends a branch of an alternation. -/
def ReaderState.nextBranch (st : ReaderState) : ReaderState :=
  { st with level :=
    { st.level with items := [], branches := concatenation st.level.items :: st.level.branches } }

/-- One step of reading a pattern. -/
def readStep (st : ReaderState) (text : List Char) : Option (Progress ReaderState Item) :=
  let f := st.flags
  let add (e : Option Expr) (depth : Nat) (rest : List Char) :
      Option (Progress ReaderState Item) :=
    e.map fun e => .more (st.push ⟨e, depth, true⟩) rest
  let again (least : Nat) (most : Option Nat) (rest : List Char) :
      Option (Progress ReaderState Item) :=
    (st.repeatLast least most).map fun st => .more st (dropLazy rest)
  match f.skip text with
  | [] => if st.enclosing.isEmpty then some (.done st.level.finish []) else none
  | '(' :: rest => (readGroup st rest).map fun (st, rest) => .more st rest
  | ')' :: rest => st.closeGroup.map fun st => .more st rest
  | '|' :: rest => some (.more st.nextBranch rest)
  | '[' :: rest =>
    match readClass f rest with
    | none => none
    | some ((set, depth), rest) => add (setExpr? f set) depth rest
  | '?' :: rest => again 0 (some 1) rest
  | '*' :: rest => again 0 none rest
  | '+' :: rest => again 1 none rest
  | '\x7b' :: rest =>
    match readCounted f rest with
    | none => none
    | some ((least, most), rest) => (st.repeatLast least most).map fun st => .more st rest
  | '\\' :: rest =>
    match readEscape f rest with
    | none => none
    | some (atom, rest) => add (atomExpr? f atom) 0 rest
  | '.' :: rest => add (dotExpr? f) 0 rest
  | '^' :: rest => add (some (.look (caret f))) 0 rest
  | '$' :: rest => add (some (.look (dollar f))) 0 rest
  | c :: rest => add (some (literalExpr f c)) 0 rest

/-- Deeper patterns are refused. -/
def depthLimit : Nat := 250

/-- Reads a pattern. -/
def Expr.read? (text : String) : Option Expr := do
  let (item, _) ← Text.scan readStep {} text.toList
  if item.depth ≤ depthLimit ∧ item.expr.size ≤ sizeLimit then some item.expr else none

end MetricGateway.Pattern
