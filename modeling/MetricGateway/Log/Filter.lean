import MetricGateway.Log.Event
import MetricGateway.Text.Blank
import MetricGateway.Text.Split
import MetricGateway.Text.Unicode.Category
import MetricGateway.Text.Unicode.Property

/-!
# Filters

A filter is a list of directives with commas between them. A directive gives a level to the targets
that start with a text, or to all targets, and may be limited to messages with a field of some name. Of
the directives that fit a message the one with the longest text decides about it, and among those one
that asks for a field; where none fits, nothing is let through.

A directive may also name a span, or ask for a field with some value, in square brackets. Only a span
can have what it asks for, and the gateway has no spans, so such a directive decides about nothing.
White space around a directive is part of it: no target starts with it, and no level contains it.
-/

namespace MetricGateway.Log

/-- The level of the targets that start with a text. -/
structure Directive where
  target : String
  /-- The field that a message has to have. -/
  field : Option String := none
  level : Level
  deriving DecidableEq, Repr

namespace Directive

/-- Whether a directive is about messages of a target, whatever fields they have. -/
def concerns (d : Directive) (target : String) : Bool :=
  d.target.toList.isPrefixOf target.toList

/-- Whether a directive is about a message. -/
def fits (d : Directive) (e : Event) : Bool :=
  d.concerns e.target && d.field.all e.fieldNames.contains

/-- Whether of two directives about a message the second decides, which comes later. -/
def yieldsTo (b d : Directive) : Bool :=
  if b.target.length ≠ d.target.length then b.target.length < d.target.length
  else match b.field, d.field with
    | none, _ => true
    | some _, none => false
    | some x, some y => x ≤ y

end Directive

/-- What a part of a filter says. -/
inductive Rule where
  | directive (d : Directive)
  /-- Nothing that could concern a message. -/
  | idle
  deriving DecidableEq, Repr

/-- Why a part of a filter is passed over. -/
inductive RuleError where
  /-- It does not have the form of a directive. -/
  | malformed
  /-- Its level is none. -/
  | unknownLevel
  deriving DecidableEq, Repr

/-- The wording shown to users. -/
def RuleError.message : RuleError → String
  | .malformed => "invalid filter directive"
  | .unknownLevel =>
    "error parsing level filter: expected one of \"off\", \"error\", \"warn\", \"info\", \"debug\", " ++
      "\"trace\", or a number 0-5"

/-- The level of everything. -/
def everything : Level := .upTo .trace

/-- The level with a name or a number. -/
def levelOf? (s : List Char) : Option Level :=
  match Number.readNatural (2 ^ 64 - 1) s with
  | .ok n => Level.ofNumber? n
  | .error _ => Level.ofName? (String.ofList s)

/-- Letters and digits of any script. -/
def isAlphanumeric (c : Char) : Bool :=
  Text.Unicode.alphabetic.chars.contains c ||
    [Text.Unicode.Category.decimalNumber, .letterNumber, .otherNumber].any fun category =>
      category.chars.contains c

/-- Whether a directive may start with a character. -/
def startsDirective (c : Char) : Bool := ['-', ':', '_'].contains c || isAlphanumeric c

/-- Reads what follows an equals sign, which is no level if there is white space around the part. -/
def readLevel (padded : Bool) (s : List Char) : Except RuleError Level :=
  if padded then .error .unknownLevel
  else if s.isEmpty then .ok everything
  else match levelOf? s with
    | some l => .ok l
    | none => .error .unknownLevel

/-- What brackets ask for. -/
inductive Scope where
  /-- What only a span can have. -/
  | span
  | field (name : String)
  deriving DecidableEq, Repr

/-- Reads brackets behind the opening one, and gives what follows them. A field stands in braces. -/
def readScope (s : List Char) : Except RuleError (Scope × List Char) :=
  let span := s.takeWhile fun c => c ≠ ']' && c ≠ '\x7b'
  match s.drop span.length with
  | ']' :: rest => .ok (.span, rest)
  | '\x7b' :: rest =>
    let field := rest.takeWhile (· ≠ '\x7d')
    match rest.drop field.length with
    | '\x7d' :: ']' :: rest =>
      if field.isEmpty then .error .malformed
      else if span.isEmpty && !field.contains '=' then .ok (.field (String.ofList field), rest)
      else .ok (.span, rest)
    | _ => .error .malformed
  | _ => .error .malformed

/-- A part of a filter with a target, what its brackets ask for, and a level. -/
def scopedRule (target : List Char) (level : Level) : Scope → Rule
  | .span => .idle
  | .field name => .directive ⟨String.ofList target, some name, level⟩

/-- Reads what follows the target of a part of a filter, from behind the opening bracket on. White space
in front of the part leaves its brackets without a meaning. -/
def readScoped (shifted padded : Bool) (target s : List Char) : Except RuleError Rule := do
  let (scope, rest) ← readScope s
  match rest with
  | [] => return if shifted then .idle else scopedRule target everything scope
  | '=' :: level => return scopedRule target (← readLevel padded level) scope
  | _ => throw .malformed

/-- Reads a part of a filter: a level, a target, or both with an equals sign between them. -/
def readRule (s : List Char) : Except RuleError Rule :=
  let body := Text.trim s
  let padded := body.length ≠ s.length
  let shifted := body.head? ≠ s.head?
  match body with
  | [] => .error .malformed
  | '[' :: rest => readScoped shifted padded [] rest
  | c :: _ =>
    if !startsDirective c then .error .malformed
    else
      let target := body.takeWhile fun c => c ≠ '=' && c ≠ '['
      match body.drop target.length with
      | [] =>
        if padded then .ok .idle
        else match levelOf? target with
          | some level => .ok (.directive { target := "", level })
          | none => .ok (.directive { target := String.ofList target, level := everything })
      | '=' :: level =>
        (readLevel padded level).map fun level =>
          .directive { target := String.ofList target, level }
      | _ :: rest => readScoped shifted padded target rest

/-- Which messages are logged. -/
structure Filter where
  directives : List Directive
  deriving DecidableEq, Repr

namespace Filter

/-- The directive that decides where some of them fit. -/
def decisive? (f : Filter) (fits : Directive → Bool) : Option Directive :=
  (f.directives.filter fits).foldl
    (fun best d => match best with
      | some b => if b.yieldsTo d then some d else some b
      | none => some d) none

/-- Whether a message is logged. -/
def enables (f : Filter) (e : Event) : Bool :=
  (f.decisive? fun d => d.fits e).any fun d => d.level.allows e.severity

/-- Whether a target is logged at a severity, if its messages have the fields that are asked for. -/
def opens (f : Filter) (target : String) (severity : Severity) : Bool :=
  (f.decisive? fun d => d.concerns target).any fun d => d.level.allows severity

/-- The parts of the program that obey the configured level. -/
def ownTargets : List String :=
  ["tsgw", "tsgw_common", "tsgw_config", "tsgw_kafka", "tsgw_keycache", "tsgw_log", "tsgw_publish",
   "tsgw_schema", "tsgw_statsd"]

/-- The filter of a configured level: other parts are logged up to infos whatever it is. -/
def ofLevel (l : Level) : Filter :=
  ⟨{ target := "", level := .upTo .info } :: ownTargets.map fun t => { target := t, level := l }⟩

/-- Reads a filter, passing over what is no directive. Also gives the complaints about that. Without any
directive, errors alone are logged. -/
def read (s : String) : Filter × List String :=
  let parts := (Text.split ',' s.toList).filter fun part => !part.isEmpty
  let rules := parts.map fun part => (part, readRule part)
  let complaints := rules.filterMap fun (part, rule) => match rule with
    | .ok _ => none
    | .error e => some ("ignoring `" ++ String.ofList part ++ "`: " ++ e.message)
  let found := rules.filterMap fun (_, rule) => rule.toOption
  let directives := found.filterMap fun rule => match rule with
    | .directive d => some d
    | .idle => none
  (⟨if found.isEmpty then [{ target := "", level := .upTo .error }] else directives⟩, complaints)

end Filter

end MetricGateway.Log
