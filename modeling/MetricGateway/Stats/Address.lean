import MetricGateway.Bytes
import MetricGateway.Number.Natural
import MetricGateway.Text.Split

/-!
# Addresses of StatsD servers

A server is given by its address and a port with a colon between them. An address of version 6 stands in
brackets, possibly with the number of an interface behind a percent sign. Where that form is not kept
exactly, the text is cut at its last colon instead, and the part before it may be an address in one of the
older notations with fewer than four numbers, in octal or in hexadecimal. Names are not looked up.
-/

namespace MetricGateway.Stats

/-- An internet address. -/
inductive Host where
  /-- An address of version 4, as a number of 32 bits. -/
  | v4 (address : Nat)
  /-- An address of version 6 as eight groups of 16 bits, and the number of an interface. -/
  | v6 (groups : List Nat) (scope : Nat)
  deriving DecidableEq, Repr

/-- The address of a server. -/
structure Address where
  host : Host
  port : Nat
  deriving DecidableEq, Repr

/-- Why a text is no address. -/
inductive AddressError where
  /-- There is no colon. -/
  | noPort
  /-- The port is no number of 16 bits. -/
  | invalidPort
  /-- The host is given by something other than its address. -/
  | unknownHost
  deriving DecidableEq, Repr

/-- The wording shown to users. -/
def AddressError.message : AddressError → String
  | .noPort => "invalid socket address"
  | .invalidPort => "invalid port value"
  | .unknownHost => "failed to lookup address information: Name or service not known"

/-! ## Numbers -/

/-- The value of a digit in a base of at most sixteen. -/
def digitIn? (base : Nat) (c : Char) : Option Nat := (Hex.value? c).filter (· < base)

/-- The value of digits in a base. -/
def valueOf (base : Nat) (s : List Char) : Nat :=
  s.foldl (fun n c => base * n + (digitIn? base c).getD 0) 0

/-- Digits in a base, and what follows them. -/
def spanDigits (base : Nat) (s : List Char) : List Char × List Char :=
  s.span fun c => (digitIn? base c).isSome

/-- A number of at most so many digits and at most `limit`, and what follows it. -/
def number? (base places limit : Nat) (s : List Char) : Option (Nat × List Char) :=
  let (ds, rest) := spanDigits base s
  if ds.isEmpty || places < ds.length || limit < valueOf base ds then none
  else some (valueOf base ds, rest)

/-- A number without a leading zero that fits a byte. -/
def byte? (s : List Char) : Option (Nat × List Char) :=
  let (ds, _) := spanDigits 10 s
  if ds.head? = some '0' && 1 < ds.length then none else number? 10 3 255 s

/-- A number that may have leading zeros. -/
def anyNumber? (limit : Nat) (s : List Char) : Option (Nat × List Char) :=
  number? 10 s.length limit s

/-- What follows a character at the start of a text. -/
def after? (c : Char) : List Char → Option (List Char)
  | [] => none
  | d :: rest => if c = d then some rest else none

/-! ## Addresses -/

/-- An address of version 4: four numbers with points between them. -/
def v4? (s : List Char) : Option (Nat × List Char) := do
  let (a, s) ← byte? s
  let (b, s) ← byte? (← after? '.' s)
  let (c, s) ← byte? (← after? '.' s)
  let (d, s) ← byte? (← after? '.' s)
  return (((a * 256 + b) * 256 + c) * 256 + d, s)

/-- Groups with colons between them, at most `left` more of them. An address of version 4 counts for two
groups and ends them; whether there was one is said too. -/
def groups (first : Bool) : (left : Nat) → List Char → List Nat × Bool × List Char
  | 0, s => ([], false, s)
  | left + 1, s =>
    match if first then some s else after? ':' s with
    | none => ([], false, s)
    | some t =>
      match if 0 < left then v4? t else none with
      | some (address, rest) => ([address / 65536, address % 65536], true, rest)
      | none => match number? 16 4 65535 t with
        | none => ([], false, s)
        | some (group, rest) =>
          let (more, hasV4, rest) := groups false left rest
          (group :: more, hasV4, rest)

/-- An address of version 6: eight groups, or fewer with two colons for the zeros between them. -/
def v6? (s : List Char) : Option (List Nat × List Char) :=
  let (front, hasV4, rest) := groups true 8 s
  if front.length = 8 then some (front, rest)
  else if hasV4 then none
  else match rest with
    | ':' :: ':' :: rest =>
      let (back, _, rest) := groups true (7 - front.length) rest
      some (front ++ List.replicate (8 - front.length - back.length) 0 ++ back, rest)
    | _ => none

/-- An interface behind a percent sign, zero if there is none. -/
def scope (s : List Char) : Nat × List Char :=
  ((after? '%' s).bind fun rest => anyNumber? (2 ^ 32 - 1) rest).getD (0, s)

/-- A port behind a colon, which ends the text. -/
def port? (s : List Char) : Option Nat := do
  match ← anyNumber? 65535 (← after? ':' s) with
  | (port, []) => some port
  | _ => none

/-- An address and a port in their exact form. -/
def strict? (s : List Char) : Option Address :=
  match s with
  | '[' :: s => do
    let (groups, s) ← v6? s
    let (interface, s) := scope s
    return ⟨.v6 groups interface, ← port? (← after? ']' s)⟩
  | s => do
    let (address, s) ← v4? s
    return ⟨.v4 address, ← port? s⟩

/-! ## Older notations -/

/-- A number in octal behind a zero, in hexadecimal behind `0x`, and in decimal otherwise. -/
def olderNumber? (s : List Char) : Option Nat :=
  let read (base : Nat) (ds : List Char) : Option Nat :=
    if !ds.isEmpty && ds.all (fun c => (digitIn? base c).isSome) then some (valueOf base ds) else none
  match s with
  | '0' :: 'x' :: ds => read 16 ds
  | '0' :: 'X' :: ds => read 16 ds
  | '0' :: c :: ds => read 8 (c :: ds)
  | ds => read 10 ds

/-- One to four numbers with points between them, of which the last fills all bytes that are left. -/
def olderV4? (s : List Char) : Option Nat := do
  let numbers ← (Text.split '.' s).mapM olderNumber?
  let last ← numbers.getLast?
  let front := numbers.dropLast
  let room := 256 ^ (4 - front.length)
  if 3 < front.length || front.any (255 < ·) || room ≤ last then none
  else some (front.foldl (fun n b => n * 256 + b) 0 * room + last)

/-- A host without brackets. -/
def host? (s : List Char) : Option Host :=
  match olderV4? s with
  | some address => some (.v4 address)
  | none => do
    let (groups, rest) ← v6? s
    match scope rest with
    | (interface, []) => some (.v6 groups interface)
    | _ => none

/-- Reads the address of a server. -/
def Address.parse (s : String) : Except AddressError Address :=
  match strict? s.toList with
  | some a => .ok a
  | none =>
    match Text.splitLast ':' s.toList with
    | none => .error .noPort
    | some (host, port) =>
      match Number.readNatural 65535 port with
      | .error _ => .error .invalidPort
      | .ok port => match host? host with
        | some host => .ok ⟨host, port⟩
        | none => .error .unknownHost

/-! ## Writing addresses -/

/-- Four numbers with points between them. -/
def v4Text (address : Nat) : String :=
  ".".intercalate ([16777216, 65536, 256, 1].map fun unit => toString (address / unit % 256))

/-- Groups with colons between them. -/
def groupsText (groups : List Nat) : String :=
  ":".intercalate (groups.map fun g => String.ofList (Hex.ofNat g))

/-- The longest run of zeros, the first of several: where it starts and how long it is. -/
def longestZeros (groups : List Nat) : Nat × Nat :=
  let runs := (List.range groups.length).map fun start =>
    (start, ((groups.drop start).takeWhile (· = 0)).length)
  runs.foldl (fun best run => if best.2 < run.2 then run else best) (0, 0)

/-- An address of version 6, with two colons for the longest run of at least two zeros. -/
def v6Text (groups : List Nat) : String :=
  match groups with
  | [0, 0, 0, 0, 0, 0xffff, high, low] => "::ffff:" ++ v4Text (high * 65536 + low)
  | groups =>
    let (start, length) := longestZeros groups
    if 1 < length then
      groupsText (groups.take start) ++ "::" ++ groupsText (groups.drop (start + length))
    else groupsText groups

/-- The address and the port. -/
def Address.display (a : Address) : String :=
  let host := match a.host with
    | .v4 address => v4Text address
    | .v6 groups 0 => "[" ++ v6Text groups ++ "]"
    | .v6 groups scope => "[" ++ v6Text groups ++ "%" ++ toString scope ++ "]"
  host ++ ":" ++ toString a.port

end MetricGateway.Stats
