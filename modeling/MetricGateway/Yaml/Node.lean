import MetricGateway.Yaml.Token

/-!
# The tree of a YAML document

Tokens are read by recursive descent. Between brackets entries are divided by commas; elsewhere they
are opened by hyphens, keys and colons, and what is left out is an empty plain scalar.

A node with an anchor gets a number, which is how many different names of anchors were known before
it, and an alias stands for the last node that got the number of its name.
-/

namespace MetricGateway.Yaml

/-- A node of a document. -/
inductive Node where
  /-- A scalar with its tag. -/
  | scalar (anchor : Option Nat) (tag : Option String) (style : Style) (text : String)
  | sequence (anchor : Option Nat) (items : List Node)
  /-- A mapping with its tag; keys may occur more than once. -/
  | mapping (anchor : Option Nat) (entries : List (Node × Node))
  /-- A reference to the node with an anchor of this number. -/
  | alias (number : Nat)
  deriving Inhabited

namespace Node

/-- What stands for a node that is left out. -/
def empty : Node := .scalar none none .plain ""

/-- The position of the anchor of a node among all anchors of the document. -/
def anchor? : Node → Option Nat
  | .scalar anchor _ _ _ => anchor
  | .sequence anchor _ => anchor
  | .mapping anchor _ => anchor
  | .alias _ => none

mutual

/-- The node in a tree whose anchor has a position. -/
def find? (position : Nat) (n : Node) : Option Node :=
  if n.anchor? = some position then some n
  else match n with
    | .scalar .. => none
    | .sequence _ items => findItem? position items
    | .mapping _ entries => findInPairs? position entries
    | .alias _ => none

/-- The node in a list of trees whose anchor has a position. -/
def findItem? (position : Nat) : List Node → Option Node
  | [] => none
  | n :: rest => (find? position n).or (findItem? position rest)

/-- The node in the entries of a mapping whose anchor has a position. -/
def findInPairs? (position : Nat) : List (Node × Node) → Option Node
  | [] => none
  | (k, v) :: rest => ((find? position k).or (find? position v)).or (findInPairs? position rest)

end

end Node

/-! ## Reading tokens -/

/-- How far the tokens of a document have been read. -/
structure NodeReader where
  /-- What is left of the tokens. -/
  rest : List Token
  /-- What the handles of tags stand for, the deciding ones first. -/
  handles : List (String × String)
  /-- The number of each name of an anchor, the latest first. -/
  names : List (String × Nat) := []
  /-- The number of each anchor in the document, the latest first. -/
  numbers : List Nat := []

namespace NodeReader

/-- The next token; a text that has ended goes on ending. -/
def next (r : NodeReader) : TokenKind :=
  match r.rest with
  | [] => .finish
  | t :: _ => t.kind

/-- The reader behind the next token. -/
def drop (r : NodeReader) : NodeReader := { r with rest := r.rest.tail }

/-- A complaint about the next token. -/
def refuse {α : Type} (r : NodeReader) (problem : Problem := .badStructure) : Except Error α :=
  .error ⟨problem, r.rest.head?.map (·.line + 1)⟩

/-- Whether the next token is one of the given. -/
def at? (r : NodeReader) (kinds : List TokenKind) : Bool := kinds.contains r.next

/-- Numbers an anchor. Its position among all anchors identifies its node. -/
def register (r : NodeReader) (name : String) : Nat × NodeReader :=
  let known := (r.names.map (·.1)).eraseDups.length
  (r.numbers.length, { r with names := (name, known) :: r.names, numbers := known :: r.numbers })

/-- The tag that a handle and a suffix stand for. -/
def tagText? (r : NodeReader) (handle suffix : String) : Option String :=
  if handle.isEmpty then some suffix else (r.handles.lookup handle).map (· ++ suffix)

/-- Anchor and tag of a node, in either order. -/
structure Properties where
  anchor : Option String := none
  tag : Option (String × String) := none

/-- Reads the anchor and the tag in front of a node. -/
def properties (r : NodeReader) : Properties × NodeReader :=
  match r.next with
  | .anchor name =>
    let r := r.drop
    match r.next with
    | .tag handle suffix => ({ anchor := name, tag := some (handle, suffix) }, r.drop)
    | _ => ({ anchor := name }, r)
  | .tag handle suffix =>
    let r := r.drop
    match r.next with
    | .anchor name => ({ anchor := name, tag := some (handle, suffix) }, r.drop)
    | _ => ({ tag := some (handle, suffix) }, r)
  | _ => ({}, r)

/-- The tokens behind which a value between brackets may be left out, for a sequence. -/
def sequenceEnds : List TokenKind := [.flowEntry, .flowSequenceEnd]

/-- The tokens behind which a value between brackets may be left out, for a mapping. -/
def mappingEnds : List TokenKind := [.flowEntry, .flowMappingEnd]

/-- The tokens behind which a key or a value may be left out outside of brackets. -/
def blockEnds : List TokenKind := [.key, .value, .blockEnd]

mutual

/-- Reads a node. `inBlock` allows collections that are told by their indentation, and `unindented`
allows entries that are not indented further than the mapping around them. -/
def node : (fuel : Nat) → (inBlock unindented : Bool) → NodeReader →
    Except Error (Node × NodeReader)
  | 0, _, _, r => r.refuse
  | fuel + 1, inBlock, unindented, r => do
    if let .alias name := r.next then
      match r.names.lookup name with
      | some number => return (.alias number, r.drop)
      | none => r.refuse .unknownAnchor
    else
      let (given, r) := r.properties
      let tag ← match given.tag with
        | none => pure none
        | some (handle, suffix) =>
          match r.tagText? handle suffix with
          | some tag => pure (some tag)
          | none => r.refuse .badProperty
      let (anchor, r) := match given.anchor with
        | none => (none, r)
        | some name => let (position, r) := r.register name; (some position, r)
      match r.next with
      | .blockEntry =>
        if unindented then
          let (items, r) ← unindentedItems fuel r
          return (.sequence anchor items, r)
        else if given.anchor.isSome || given.tag.isSome then
          return (.scalar anchor tag .plain "", r)
        else r.refuse
      | .scalar style text =>
        return (.scalar anchor (if tag = some "!" then none else tag) style text, r.drop)
      | .flowSequenceStart =>
        let (items, r) ← flowItems fuel true r.drop
        return (.sequence anchor items, r)
      | .flowMappingStart =>
        let (entries, r) ← flowEntries fuel true r.drop
        return (.mapping anchor entries, r)
      | .blockSequenceStart =>
        if inBlock then
          let (items, r) ← blockItems fuel r.drop
          return (.sequence anchor items, r)
        else if given.anchor.isSome || given.tag.isSome then
          return (.scalar anchor tag .plain "", r)
        else r.refuse
      | .blockMappingStart =>
        if inBlock then
          let (entries, r) ← blockEntries fuel r.drop
          return (.mapping anchor entries, r)
        else if given.anchor.isSome || given.tag.isSome then
          return (.scalar anchor tag .plain "", r)
        else r.refuse
      | _ =>
        if given.anchor.isSome || given.tag.isSome then return (.scalar anchor tag .plain "", r)
        else r.refuse

/-- Reads a node unless it is left out, as one of the given tokens shows. -/
def optionalNode : (fuel : Nat) → (inBlock unindented : Bool) → (ends : List TokenKind) →
    NodeReader → Except Error (Node × NodeReader)
  | 0, _, _, _, r => r.refuse
  | fuel + 1, inBlock, unindented, ends, r =>
    if r.at? ends then .ok (.empty, r) else node fuel inBlock unindented r

/-- Reads the value behind a colon. Without a colon it is left out. -/
def optionalValue : (fuel : Nat) → (inBlock : Bool) → (ends : List TokenKind) → NodeReader →
    Except Error (Node × NodeReader)
  | 0, _, _, r => r.refuse
  | fuel + 1, inBlock, ends, r =>
    if r.next = .value then optionalNode fuel inBlock inBlock ends r.drop else .ok (.empty, r)

/-- Reads the entries of a sequence that is indented. -/
def blockItems : (fuel : Nat) → NodeReader → Except Error (List Node × NodeReader)
  | 0, r => r.refuse
  | fuel + 1, r =>
    match r.next with
    | .blockEntry => do
      let (item, r) ← optionalNode fuel true false [.blockEntry, .blockEnd] r.drop
      let (items, r) ← blockItems fuel r
      return (item :: items, r)
    | .blockEnd => .ok ([], r.drop)
    | _ => r.refuse

/-- Reads the entries of a sequence that is not indented, up to the first other token. -/
def unindentedItems : (fuel : Nat) → NodeReader → Except Error (List Node × NodeReader)
  | 0, r => r.refuse
  | fuel + 1, r =>
    match r.next with
    | .blockEntry => do
      let (item, r) ← optionalNode fuel true false (.blockEntry :: blockEnds) r.drop
      let (items, r) ← unindentedItems fuel r
      return (item :: items, r)
    | _ => .ok ([], r)

/-- Reads the entries of a mapping. -/
def blockEntries : (fuel : Nat) → NodeReader → Except Error (List (Node × Node) × NodeReader)
  | 0, r => r.refuse
  | fuel + 1, r =>
    match r.next with
    | .key => do
      let (key, r) ← optionalNode fuel true true blockEnds r.drop
      let (value, r) ← optionalValue fuel true blockEnds r
      let (entries, r) ← blockEntries fuel r
      return ((key, value) :: entries, r)
    | .blockEnd => .ok ([], r.drop)
    | _ => r.refuse

/-- Reads the entries of a sequence between brackets. A key there is a mapping with one entry. -/
def flowItems : (fuel : Nat) → (first : Bool) → NodeReader →
    Except Error (List Node × NodeReader)
  | 0, _, r => r.refuse
  | fuel + 1, first, r => do
    if r.next = .flowSequenceEnd then return ([], r.drop)
    let r ← if first then pure r else if r.next = .flowEntry then pure r.drop else r.refuse
    match r.next with
    | .flowSequenceEnd => return ([], r.drop)
    | .key =>
      let r := r.drop
      -- Whatever stands behind a key that is left out is passed over.
      let (key, r) ← if r.at? (.value :: sequenceEnds) then pure (Node.empty, r.drop)
        else node fuel false false r
      let (value, r) ← optionalValue fuel false sequenceEnds r
      let (items, r) ← flowItems fuel false r
      return (.mapping none [(key, value)] :: items, r)
    | _ =>
      let (item, r) ← node fuel false false r
      let (items, r) ← flowItems fuel false r
      return (item :: items, r)

/-- Reads the entries of a mapping between brackets. -/
def flowEntries : (fuel : Nat) → (first : Bool) → NodeReader →
    Except Error (List (Node × Node) × NodeReader)
  | 0, _, r => r.refuse
  | fuel + 1, first, r => do
    if r.next = .flowMappingEnd then return ([], r.drop)
    let r ← if first then pure r else if r.next = .flowEntry then pure r.drop else r.refuse
    match r.next with
    | .flowMappingEnd => return ([], r.drop)
    | .key =>
      let (key, r) ← optionalNode fuel false false (.value :: mappingEnds) r.drop
      let (value, r) ← optionalValue fuel false mappingEnds r
      let (entries, r) ← flowEntries fuel false r
      return ((key, value) :: entries, r)
    | _ =>
      let (key, r) ← node fuel false false r
      let (entries, r) ← flowEntries fuel false r
      return ((key, .empty) :: entries, r)

end

/-- Passes over directives in front of a document. -/
def directives (versionSeen : Bool) (r : NodeReader) : List Token → Except Error NodeReader
  | ⟨.directive (.version major minor), _⟩ :: rest =>
    if versionSeen || major ≠ 1 || (minor ≠ 1 && minor ≠ 2) then r.refuse .badDirective
    else directives true { r with rest } rest
  | ⟨.directive (.handle name meaning), _⟩ :: rest =>
    if (r.handles.lookup name).isSome then r.refuse .badDirective
    else directives versionSeen { r with rest, handles := r.handles ++ [(name, meaning)] } rest
  | _ => .ok r

end NodeReader

/-- A document: its tree, and the node that each anchor stands for. -/
structure Document where
  root : Node
  /-- The number of each anchor in the document, the latest first. -/
  numbers : List Nat

namespace Document

/-- Handles of tags that need no directive. -/
def commonHandles : List (String × String) := [("!", "!"), ("!!", "tag:yaml.org,2002:")]

/-- The node that an alias stands for; any other node stands for itself. -/
def resolve (d : Document) (n : Node) : Node :=
  match n with
  | .alias number =>
    let behind := (d.numbers.takeWhile (· ≠ number)).length
    (d.root.find? (d.numbers.length - 1 - behind)).getD n
  | n => n

/-- Reads the only document among tokens. Without any tokens it is empty. -/
def ofTokens (tokens : List Token) : Except Error Document := do
  let r ← NodeReader.directives false { rest := tokens, handles := [] } tokens
  let bare := r.rest.length = tokens.length
  let r := { r with handles := r.handles ++ commonHandles }
  let fuel := 3 * tokens.length + 3
  let (root, r) ←
    if bare && r.next = .finish then pure (Node.empty, r)
    else if r.next = .documentStart then
      NodeReader.optionalNode fuel true false [.documentStart, .documentEnd, .finish] r.drop
    else if bare then NodeReader.node fuel true false r
    else r.refuse
  let rest := r.rest.dropWhile fun t => t.kind = .documentEnd
  match rest with
  | [] | [⟨.finish, _⟩] => return ⟨root, r.numbers⟩
  | t :: _ => throw ⟨.severalDocuments, some (t.line + 1)⟩

/-- Reads a text that holds one document. -/
def ofText (text : String) : Except Error Document := do
  ofTokens (← tokenize text).toList

end Document

end MetricGateway.Yaml
