/-
# `Json.Problem` — a failure with its line and column, in words

A failure says how many octets were ahead; with the whole text at hand
this is a line, counted from one, and the number of octets of that line
that were read.  What is found instead of a value is named with its own
text: a number as it would be written, a string between quotation marks.
-/
import OrderDesk.Json.Record
import OrderDesk.Quoted

namespace OrderDesk

namespace Json

/-- A cause with its place. -/
structure Problem where
  cause : Cause
  line : Nat
  column : Nat
  deriving DecidableEq

/-- The line and the column behind some octets. -/
def position (octets : List UInt8) : Nat × Nat :=
  octets.foldl (fun (line, column) (b : UInt8) =>
    if b = 0x0A then (line + 1, 0) else (line, column + 1))
    (1, 0)

/-- A failure in a whole text. -/
def Failure.locate (octets : List UInt8) (e : Failure) : Problem :=
  let (line, column) := position (octets.take (octets.length - e.ahead))
  ⟨e.cause, line, column⟩

/-- The value of a text in octets. -/
def decode (read : List Utf8.Piece → Outcome α) (octets : List UInt8) : Except Problem α :=
  match whole read (Utf8.pieces octets) with
  | .ok a => .ok a
  | .error e => .error (e.locate octets)

/-- What was found, in words. -/
def Found.message : Found → String
  | .null => "null"
  | .bool true => "boolean `true`"
  | .bool false => "boolean `false`"
  | .number (.amount x) => "floating point `" ++ Notation.json.render x ++ "`"
  | .number n => "integer `" ++ n.render ++ "`"
  | .string s => "string " ++ String.ofList (Quoted.quote s)
  | .array => "sequence"
  | .object => "map"

/-- The names of the accepted variants, in words. -/
def variants : List String → String
  | [] => "there are no variants"
  | [a] => "expected `" ++ a ++ "`"
  | [a, b] => "expected `" ++ a ++ "` or `" ++ b ++ "`"
  | names => "expected one of " ++ ", ".intercalate (names.map fun n => "`" ++ n ++ "`")

/-- A cause in words. -/
def Cause.message : Cause → String
  | .endOfValue => "EOF while parsing a value"
  | .endOfList => "EOF while parsing a list"
  | .endOfObject => "EOF while parsing an object"
  | .endOfString => "EOF while parsing a string"
  | .expectedColon => "expected `:`"
  | .expectedListCommaOrEnd => "expected `,` or `]`"
  | .expectedObjectCommaOrEnd => "expected `,` or `\x7d`"
  | .expectedIdent => "expected ident"
  | .expectedValue => "expected value"
  | .expectedKey => "key must be a string"
  | .invalidEscape => "invalid escape"
  | .invalidNumber => "invalid number"
  | .invalidUnicode => "invalid unicode code point"
  | .numberOutOfRange => "number out of range"
  | .controlCharacter =>
    "control character (\\u0000-\\u001F) found while parsing a string"
  | .loneSurrogate => "lone leading surrogate in hex escape"
  | .endOfHexEscape => "unexpected end of hex escape"
  | .trailingComma => "trailing comma"
  | .trailingCharacters => "trailing characters"
  | .recursionLimit => "recursion limit exceeded"
  | .missingField name => "missing field `" ++ name ++ "`"
  | .duplicateField name => "duplicate field `" ++ name ++ "`"
  | .unknownVariant name known =>
    "unknown variant `" ++ String.ofList name ++ "`, " ++ variants known
  | .wrongType found wanted =>
    "invalid type: " ++ found.message ++ ", expected " ++ wanted
  | .wrongLength found wanted =>
    "invalid length " ++ String.ofList (Decimal.text found) ++ ", expected " ++ wanted
  | .noVariant wanted => "data did not match any variant of untagged enum " ++ wanted

/-- A problem in words. -/
def Problem.message (p : Problem) : String :=
  p.cause.message ++ " at line " ++ String.ofList (Decimal.text p.line) ++
    " column " ++ String.ofList (Decimal.text p.column)

end Json

end OrderDesk
