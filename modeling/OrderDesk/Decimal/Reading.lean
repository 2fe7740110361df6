/-
# `Reading` — amounts from text, correctly rounded

An amount is an optional sign, then `inf`, `infinity` or `nan` in any
case, or digits with at most one point among them and an optional
exponent; at least one digit stands before the exponent, and at least one
in it.  The result is the amount closest to the number that is written.
A reader that rounds in two steps lives with the JSON decoder; the two
differ on long digit strings.
-/
import OrderDesk.Decimal

namespace OrderDesk

namespace Decimal

/-- The value of an ASCII digit. -/
def digit? (c : Char) : Option Nat :=
  if '0' ≤ c ∧ c ≤ '9' then some (c.toNat - '0'.toNat) else none

/-- Is this an ASCII digit? -/
def isDigit (c : Char) : Bool := '0' ≤ c && c ≤ '9'

/-- Reads digits onto an accumulated number and says how many there were. -/
def scanDigits (number count : Nat) : List Char → Nat × Nat × List Char
  | [] => (number, count, [])
  | c :: rest =>
    match digit? c with
    | some d => scanDigits (number * 10 + d) (count + 1) rest
    | none => (number, count, c :: rest)

/-- Drops a sign and says whether it was a minus. -/
def scanSign : List Char → Bool × List Char
  | '-' :: rest => (true, rest)
  | '+' :: rest => (false, rest)
  | rest => (false, rest)

/-- An exponent at the end of the text: absent, or `e`, a sign and digits. -/
def exponent? : List Char → Option Int
  | [] => some 0
  | c :: rest =>
    if c = 'e' ∨ c = 'E' then
      let (negative, digits) := scanSign rest
      match scanDigits 0 0 digits with
      | (_, 0, _) => none
      | (n, _ + 1, []) => some (if negative then -(n : Int) else n)
      | (_, _ + 1, _ :: _) => none
    else none

/-- A decimal number without its sign, as digits and a power of ten. -/
def number? (text : List Char) : Option Decimal :=
  let (whole, wholeCount, rest) := scanDigits 0 0 text
  let (all, fractionCount, rest) := match rest with
    | '.' :: rest => scanDigits whole 0 rest
    | rest => (whole, 0, rest)
  if wholeCount + fractionCount = 0 then none
  else (exponent? rest).map fun e => ⟨all, e - fractionCount⟩

/-- ASCII letters in lower case, all else unchanged. -/
def lowerAscii (text : List Char) : List Char := text.map Char.toLower

end Decimal

/-- Why a text is not an amount. -/
inductive AmountError where
  | empty
  | invalid
  deriving DecidableEq, Repr

/-- The wording of an amount error. -/
def AmountError.message : AmountError → String
  | .empty => "cannot parse float from empty string"
  | .invalid => "invalid float literal"

/-- Reads an amount. -/
def Binary64.parse (text : List Char) : Except AmountError Binary64 :=
  if text = [] then .error .empty
  else
    let (negative, body) := Decimal.scanSign text
    let word := String.ofList (Decimal.lowerAscii body)
    if word = "inf" ∨ word = "infinity" then .ok (.infinite negative)
    else if word = "nan" then .ok .nan
    else match Decimal.number? body with
      | some d => .ok (ofDecimal negative d.digits d.exponent)
      | none => .error .invalid

end OrderDesk
