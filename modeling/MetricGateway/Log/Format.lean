import MetricGateway.Log.Event

/-!
# Lines of the log

A message is written in one of three ways: as plain text behind the time, as text in colours without
it, or as a JSON object.
-/

namespace MetricGateway.Log

open Number (FloatFormat)

/-- How messages are written. -/
inductive Format where
  /-- In colours if somebody is watching, and plain otherwise. -/
  | auto
  /-- In colours, without the time. -/
  | pretty
  /-- Plain, behind the time. -/
  | simplified
  /-- A JSON object per line. -/
  | json
  deriving DecidableEq, Repr, Inhabited

namespace Format

/-- All formats. -/
def all : List Format := [.auto, .pretty, .simplified, .json]

/-- The name of a format. -/
def display : Format → String
  | .auto => "auto"
  | .pretty => "pretty"
  | .simplified => "simplified"
  | .json => "json"

/-- The name of a format for people who debug. -/
def debug : Format → String
  | .auto => "Auto"
  | .pretty => "Pretty"
  | .simplified => "Simplified"
  | .json => "Json"

end Format

/-- How the lines of a log look in the end. -/
inductive Layout where
  | plain
  | compact (coloured : Bool)
  | json
  deriving DecidableEq, Repr, Inhabited

/-- The layout of a format. -/
def Format.layout (f : Format) (attended coloured : Bool) : Layout :=
  match f with
  | .auto => if attended then .compact coloured else .plain
  | .pretty => .compact coloured
  | .simplified => .plain
  | .json => .json

/-! ## Text -/

/-- A severity in five columns, flush right. -/
def paddedLabel (s : Severity) : String :=
  String.ofList (List.replicate (5 - s.label.length) ' ') ++ s.label

/-- The value of a field in text. -/
def FieldValue.display : FieldValue → String
  | .text s => Text.quoted s
  | .natural n => toString n
  | .double x => FloatFormat.debug.write x

/-- Text in a rendition of a terminal. -/
def inRendition (coloured : Bool) (code : Nat) (s : String) : String :=
  if coloured then "\x1b[" ++ toString code ++ "m" ++ s ++ "\x1b[0m" else s

/-- The number of a slanted text. -/
def slanted : Nat := 3

/-- The number of a dimmed text. -/
def dimmed : Nat := 2

/-- The number of the colour of a severity. -/
def colourOf : Severity → Nat
  | .error => 31
  | .warn => 33
  | .info => 32
  | .debug => 34
  | .trace => 35

/-- The message and its fields. -/
def bodyText (coloured : Bool) (e : Event) : String :=
  e.message ++ String.join (e.fields.map fun (name, value) =>
    " " ++ inRendition coloured slanted name ++ inRendition coloured dimmed "=" ++ value.display)

/-- A message behind the time. -/
def plainText (time : String) (e : Event) : String :=
  time ++ " " ++ paddedLabel e.severity ++ " " ++ e.target ++ ": " ++ bodyText false e

/-- A message without the time. -/
def compactText (coloured : Bool) (e : Event) : String :=
  inRendition coloured (colourOf e.severity) (paddedLabel e.severity) ++ " " ++
    inRendition coloured dimmed e.target ++ inRendition coloured dimmed ":" ++ " " ++
    bodyText coloured e

/-! ## JSON -/

/-- A character in a JSON text. -/
def jsonChar (c : Char) : List Char :=
  match c with
  | '"' => ['\\', '"']
  | '\\' => ['\\', '\\']
  | '\n' => ['\\', 'n']
  | '\r' => ['\\', 'r']
  | '\t' => ['\\', 't']
  | '\x08' => ['\\', 'b']
  | '\x0c' => ['\\', 'f']
  | c =>
    if c.toNat < 0x20 then
      let ds := Hex.ofNat c.toNat
      ['\\', 'u'] ++ List.replicate (4 - ds.length) '0' ++ ds
    else [c]

/-- A JSON text. -/
def jsonText (s : String) : String := String.ofList ('"' :: s.toList.flatMap jsonChar ++ ['"'])

/-- Doubles in JSON: an exponent from `1e16` on and below `1e-5`, and nothing for what is not finite. -/
def jsonNumber : FloatFormat :=
  { lowest := some (-5), highest := some 15, pointZero := true, nan := "null", infinity := "null" }

/-- The value of a field in JSON. -/
def FieldValue.json : FieldValue → String
  | .text s => jsonText s
  | .natural n => toString n
  | .double x => if x.isFinite then jsonNumber.write x else jsonNumber.nan

/-- A message as a JSON object. -/
def jsonObject (time : String) (e : Event) : String :=
  let entries :=
    [("timestamp", jsonText time), ("level", jsonText e.severity.label),
     ("message", jsonText e.message)] ++
    e.fields.map (fun (name, value) => (name, value.json)) ++
    [("target", jsonText e.target)]
  "\x7b" ++ ",".intercalate (entries.map fun (name, value) => jsonText name ++ ":" ++ value) ++ "\x7d"

/-- The text of a message that was logged at a time. -/
def Layout.render (l : Layout) (time : String) (e : Event) : String :=
  match l with
  | .plain => plainText time e
  | .compact coloured => compactText coloured e
  | .json => jsonObject time e

end MetricGateway.Log
