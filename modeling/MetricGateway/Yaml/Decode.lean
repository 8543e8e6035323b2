import MetricGateway.Number.Decimal
import MetricGateway.Yaml.Node

/-!
# Typed values of a YAML document

A decoder turns a node into a value of a type or says that the node is of the wrong kind. Numbers and
truth values have to be written as plain scalars; text may be any scalar. A value that is left out
counts as an empty list and as a record without fields.
-/

namespace MetricGateway.Yaml

open Number (Binary64)

/-! ## Scalars with a meaning -/

/-- Reads a truth value. -/
def readBool? (s : String) : Option Bool :=
  if ["true", "True", "TRUE"].contains s then some true
  else if ["false", "False", "FALSE"].contains s then some false
  else none

/-- Whether a text stands for the absence of a value. -/
def isNull (s : String) : Bool := ["null", "Null", "NULL", "~"].contains s

/-- The value of a digit in a base of at most sixteen. -/
def baseDigit? (base : Nat) (c : Char) : Option Nat :=
  (Hex.value? c).filter (· < base)

/-- Reads digits in a base. -/
def readBase? (base : Nat) (s : List Char) : Option Nat := do
  if s.isEmpty then none
  else
    let ds ← s.mapM (baseDigit? base)
    return ds.foldl (base * · + ·) 0

/-- Whether a text consists of digits but is no number because it has leading zeros. -/
def hasLeadingZeros (s : List Char) : Bool :=
  let s := match s with
    | '+' :: rest => rest
    | '-' :: rest => rest
    | s => s
  match s with
  | '0' :: d :: rest => (d :: rest).all fun c => (Number.digit? c).isSome
  | _ => false

/-- Reads a number without a minus sign, in base two, eight or sixteen if it is marked so. -/
def readUnsigned? (s : List Char) : Option Nat :=
  let body := match s with
    | '+' :: rest => rest
    | s => s
  let marked := match body with
    | '0' :: 'x' :: rest => readBase? 16 rest
    | '0' :: 'o' :: rest => readBase? 8 rest
    | '0' :: 'b' :: rest => readBase? 2 rest
    | _ => none
  marked.or (if hasLeadingZeros s then none else readBase? 10 body)

/-- Reads a floating-point number, which may be written with any sign but one only. -/
def readDouble? (s : List Char) : Option Binary64 :=
  let body := match s with
    | '+' :: rest => rest
    | s => s
  if s.head? = some '+' && (body.head? = some '+' || body.head? = some '-') then none
  else if [".inf", ".Inf", ".INF"].contains (String.ofList body) then some (.infinity false)
  else if ["-.inf", "-.Inf", "-.INF"].contains (String.ofList s) then some (.infinity true)
  else if [".nan", ".NaN", ".NAN"].contains (String.ofList s) then some (.nan false)
  else (Binary64.read? body).filter (·.isFinite)

/-! ## Decoders -/

/-- Reads values of a type from the nodes of a document. -/
abbrev Decoder (α : Type) := Document → Node → Except Error α

namespace Decoder

/-- A complaint about the kind of a node. -/
def wrongKind {α : Type} (wanted : String) : Except Error α := .error ⟨.wrongKind wanted, none⟩

/-- Whether a node is a value that is left out. -/
def isAbsent (n : Node) : Bool :=
  match n with
  | .scalar _ _ .plain text => text.isEmpty
  | _ => false

/-- Any scalar as text. -/
def string : Decoder String := fun d n =>
  match d.resolve n with
  | .scalar _ _ _ text => .ok text
  | _ => wrongKind "a string"

/-- The text of a scalar that is plain, or literal with the tag of its type. -/
def typedText (tag : String) (wanted : String) : Decoder String := fun d n =>
  match d.resolve n with
  | .scalar _ _ .plain text => .ok text
  | .scalar _ given .literal text =>
    if given = some ("tag:yaml.org,2002:" ++ tag) then .ok text else wrongKind wanted
  | _ => wrongKind wanted

/-- Reads a scalar by a function on its text. -/
def typed {α : Type} (tag wanted : String) (read? : String → Option α) : Decoder α :=
  fun d n => do
    match read? (← typedText tag wanted d n) with
    | some x => return x
    | none => wrongKind wanted

/-- A truth value. -/
def bool : Decoder Bool := typed "bool" "a boolean" readBool?

/-- A whole number of at most `limit`. -/
def natural (limit : Nat) : Decoder Nat :=
  typed "int" ("a whole number up to " ++ toString limit) fun s =>
    (readUnsigned? s.toList).filter (· ≤ limit)

/-- A floating-point number. -/
def double : Decoder Binary64 := typed "float" "a number" fun s => readDouble? s.toList

/-- A value that may be absent. -/
def option {α : Type} (decoder : Decoder α) : Decoder (Option α) := fun d n =>
  match d.resolve n with
  | .scalar _ tag .plain text =>
    match tag with
    | some "tag:yaml.org,2002:null" => if isNull text then .ok none else wrongKind "null"
    | some _ => (decoder d n).map some
    | none => if text.isEmpty || isNull text then .ok none else (decoder d n).map some
  | _ => (decoder d n).map some

/-- A list. -/
def list {α : Type} (decoder : Decoder α) : Decoder (List α) := fun d n =>
  match d.resolve n with
  | .sequence _ items => items.mapM (decoder d)
  | other => if isAbsent other then .ok [] else wrongKind "a list"

/-- The entries of a mapping. -/
def entries {α : Type} (decoder : Decoder α) : Decoder (List (String × α)) := fun d n =>
  match d.resolve n with
  | .mapping _ entries => entries.mapM fun (k, v) => return (← string d k, ← decoder d v)
  | other => if isAbsent other then .ok [] else wrongKind "a mapping"

/-- One of several named values, given by its name or by a tag on nothing. -/
def variant {α : Type} (names : List (String × α)) : Decoder α := fun d n => do
  let name ← match d.resolve n with
    | .scalar _ tag style text =>
      match tag.map String.toList with
      | some ('!' :: name) =>
        if style = .plain && (text.isEmpty || isNull text) then pure (String.ofList name)
        else wrongKind "nothing behind a tag"
      | _ => pure text
    | _ => wrongKind "a name"
  match names.lookup name with
  | some x => return x
  | none => wrongKind "a known name"

/-- The fields of a record that are known; the others are passed over. -/
def fields (known : List String) : Decoder (List (String × Node)) := fun d n => do
  let all ← entries (fun _ n => .ok n) d n
  let named := all.filter fun (name, _) => known.contains name
  match known.find? fun name => 1 < (named.filter (·.1 = name)).length with
  | some name => throw ⟨.duplicateField name, none⟩
  | none => return named

/-- A field with a value for the case that it is not given. -/
def fieldOr {α : Type} (name : String) (absent : α) (decoder : Decoder α)
    (given : List (String × Node)) (d : Document) : Except Error α :=
  match given.lookup name with
  | some n => decoder d n
  | none => .ok absent

/-- A field that has to be given. -/
def field {α : Type} (name : String) (decoder : Decoder α)
    (given : List (String × Node)) (d : Document) : Except Error α :=
  match given.lookup name with
  | some n => decoder d n
  | none => .error ⟨.missingField name, none⟩

end Decoder

/-- Reads a text that holds one value. -/
def decode {α : Type} (decoder : Decoder α) (text : String) : Except Error α := do
  let d ← Document.ofText text
  decoder d d.root

end MetricGateway.Yaml
