/-
# `Log` — records and their two layouts

A record has a level, the part of the program it comes from, a message,
and named fields.  The part is not shown; it is there for filters.

* `Layout.compact` — time, level, message and fields on one line, as far
  as neither the message nor a field breaks it;
* `Layout.json`    — one JSON object on one line.

A message in the compact layout cannot steer a terminal: the characters
that could are spelt out.
-/
import OrderDesk.Json.Value

namespace OrderDesk

namespace Log

/-- How much a record matters, the most important first. -/
inductive Level where
  | error
  | warn
  | info
  | debug
  | trace
  deriving DecidableEq, Repr

/-- The number of a level; the more important, the smaller. -/
def Level.rank : Level → Nat
  | .error => 1
  | .warn => 2
  | .info => 3
  | .debug => 4
  | .trace => 5

/-- The name of a level. -/
def Level.name : Level → String
  | .error => "ERROR"
  | .warn => "WARN"
  | .info => "INFO"
  | .debug => "DEBUG"
  | .trace => "TRACE"

/-- A record. -/
structure Record where
  level : Level
  part : String
  message : String
  fields : List (String × String) := []
  deriving DecidableEq, Repr

/-- How records are laid out. -/
inductive Layout where
  | compact
  | json
  deriving DecidableEq, Repr

/-- A character of a message in the compact layout. -/
def escapeChar (c : Char) : List Char :=
  if c = '\x1b' then ['\\', 'x', '1', 'b']
  else if c = '\x07' then ['\\', 'x', '0', '7']
  else if c = '\x08' then ['\\', 'x', '0', '8']
  else if c = '\x0c' then ['\\', 'x', '0', 'c']
  else if c = '\x7f' then ['\\', 'x', '7', 'f']
  else if '\u0080' ≤ c ∧ c ≤ '\u009f' then
    ['\\', 'u', '\x7b'] ++ Nat.toDigits 16 c.toNat ++ ['\x7d']
  else [c]

/-- A message in the compact layout. -/
def escape (message : String) : String := String.ofList (message.toList.flatMap escapeChar)

namespace Record

/-- A record in the compact layout, without the line break. -/
def compact (time : String) (r : Record) : String :=
  time ++ " " ++ "".pushn ' ' (5 - r.level.name.length) ++ r.level.name ++ " " ++
    escape r.message ++ String.join (r.fields.map fun f => " " ++ f.1 ++ "=" ++ f.2)

/-- A record as a JSON object. -/
def json (time : String) (r : Record) : Json.Value :=
  .object
    [("timestamp".toList, .ofString time),
     ("level".toList, .ofString r.level.name),
     ("fields".toList, .object
      ((("message", r.message) :: r.fields).map fun f => (f.1.toList, .ofString f.2)))]

/-- A record as a line of text. -/
def line (layout : Layout) (time : String) (r : Record) : String :=
  match layout with
  | .compact => r.compact time ++ "\n"
  | .json => String.ofList (r.json time).compact ++ "\n"

end Record

end Log

end OrderDesk
