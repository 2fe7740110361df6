/-
# `Toml.Problem` — what is wrong with a TOML text, with its place in words

A fault is a cause and, nearly always, the octets it concerns.  With the
text at hand it is told by line and column, the line itself, and a row of
marks below the octets.

A column is a number of characters.  Only in front of a character that
takes several octets it is a number of octets.
-/
import OrderDesk.Decimal.Notation
import OrderDesk.Quoted
import OrderDesk.Toml.Token

namespace OrderDesk

namespace Toml

/-- A value that was met instead of the wanted one. -/
inductive Found where
  | integer (n : Int)
  | float (x : Binary64)
  | bool (b : Bool)
  | text (s : String)
  | map
  | sequence

/-- What can be wrong with a TOML text. -/
inductive Cause where
  /-- Something else should stand here. -/
  | unexpected
  | invalidKey
  | invalidString
  | invalidNumber
  | invalidValue
  | duplicateKey
  | tooDeep
  | overflow (what : String)
  | wrongType (found : Found) (wanted : String)
  | wrongValue (found : Found) (wanted : String)
  | wrongLength (found : Nat) (wanted : String)
  | unknownVariant (name : String) (known : List String)
  | notVariant
  | noVariant
  | severalVariants
  /-- Something came with a variant that takes nothing. -/
  | payload (wanted : String)

/-- A cause and the octets it concerns. -/
structure Fault where
  cause : Cause
  span : Option Span

/-- A fault at one place. -/
def faultAt (cause : Cause) (place : Nat) : Except Fault α :=
  .error ⟨cause, some ⟨place, place⟩⟩

/-- A fault in some octets. -/
def faultIn (cause : Cause) (span : Span) : Except Fault α := .error ⟨cause, some span⟩

/-- Amounts in an error: never an exponent, always a fraction. -/
def amountNotation : Notation := { Notation.full with fraction := true }

/-- What was found, in words. -/
def Found.message : Found → String
  | .integer n =>
    let digits := "integer `" ++ String.ofList (Decimal.intText n) ++ "`"
    if n < -0x8000000000000000 then digits ++ " as i128"
    else if n < 0x10000000000000000 then digits
    else if n < 0x80000000000000000000000000000000 then digits ++ " as i128"
    else digits ++ " as u128"
  | .float x => "floating point `" ++ amountNotation.render x ++ "`"
  | .bool true => "boolean `true`"
  | .bool false => "boolean `false`"
  | .text s => "string " ++ String.ofList (Quoted.quote s.toList)
  | .map => "map"
  | .sequence => "sequence"

/-- The names of the accepted variants, in words. -/
def variants (names : List String) : String :=
  match names.map fun name => "`" ++ name ++ "`" with
  | [a, b] => "expected " ++ a ++ " or " ++ b
  | names => "expected one of " ++ ", ".intercalate names

/-- A cause in words. -/
def Cause.message : Cause → String
  | .unexpected => "unexpected text"
  | .invalidKey => "invalid key"
  | .invalidString => "invalid string"
  | .invalidNumber => "invalid number"
  | .invalidValue => "invalid value"
  | .duplicateKey => "duplicate key"
  | .tooDeep => "recursion limit"
  | .overflow what => what ++ " number overflowed"
  | .wrongType found wanted => "invalid type: " ++ found.message ++ ", expected " ++ wanted
  | .wrongValue found wanted => "invalid value: " ++ found.message ++ ", expected " ++ wanted
  | .wrongLength found wanted =>
    "invalid length " ++ String.ofList (Decimal.text found) ++ ", expected " ++ wanted
  | .unknownVariant name known => "unknown variant `" ++ name ++ "`, " ++ variants known
  | .notVariant => "wanted string or table"
  | .noVariant => "wanted exactly 1 element, found 0 elements"
  | .severalVariants => "wanted exactly 1 element, more than 1 element"
  | .payload wanted => "expected " ++ wanted

/-- The line of a place and the column in it, both counted from zero. -/
def position (octets : List UInt8) (place : Nat) : Nat × Nat :=
  if octets = [] then (0, place)
  else
    let safe := min place (octets.length - 1)
    let before := octets.take safe
    let inLine := (before.reverse.takeWhile (· ≠ 0x0A)).length
    let line := before.count 0x0A
    let shown := (octets.drop (safe - inLine)).take (inLine + 1)
    let column := match Utf8.text? (Utf8.pieces shown) with
      | some text => text.length - 1
      | none => inLine
    (line, column + (place - safe))

/-- The lines of a text. -/
def lines : List Char → List (List Char)
  | [] => [[]]
  | c :: rest =>
    if c = '\n' then [] :: lines rest
    else match lines rest with
      | [] => [[c]]
      | line :: others => (c :: line) :: others

/-- The line of a fault with marks below the octets it concerns. -/
def excerpt (text : List Char) (span : Span) : List Char :=
  let (line, column) := position (Utf8.encode text) span.start
  let number := Decimal.text (line + 1)
  let content := ((lines text)[line]?).getD []
  let margin := List.replicate (number.length + 1) ' ' ++ ['|']
  let marks := max 1 (min (span.stop - span.start) (width content - column))
  "TOML parse error at line ".toList ++ number ++ ", column ".toList ++
    Decimal.text (column + 1) ++ '\n' :: margin ++
    '\n' :: number ++ " | ".toList ++ content ++
    '\n' :: margin ++ List.replicate (column + 1) ' ' ++ List.replicate marks '^' ++ ['\n']

/-- A fault in words, ending with a line break. -/
def Fault.message (text : List Char) (f : Fault) : String :=
  String.ofList (f.span.elim [] (excerpt text)) ++ f.cause.message ++ "\n"

end Toml

end OrderDesk
