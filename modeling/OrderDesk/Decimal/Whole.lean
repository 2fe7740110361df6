/-
# `Whole` — whole numbers of 64 bits from text

A whole number is an optional plus sign and ASCII digits, at least one.
The text is read from left to right, and the first thing that is wrong is
told: a character that is no digit, or the digit with which the number
becomes too large.
-/
import OrderDesk.Decimal.Reading

namespace OrderDesk

/-- Why a text is not a whole number of 64 bits. -/
inductive WholeError where
  | empty
  | invalid
  | tooLarge
  deriving DecidableEq, Repr

/-- The wording of a whole-number error. -/
def WholeError.message : WholeError → String
  | .empty => "cannot parse integer from empty string"
  | .invalid => "invalid digit found in string"
  | .tooLarge => "number too large to fit in target type"

namespace Whole

/-- The numbers of 64 bits are those below. -/
def bound : Nat := Nat.pow 2 64

/-- Reads the digits of a text onto a number. -/
def digits (number : Nat) : List Char → Except WholeError Nat
  | [] => .ok number
  | c :: rest =>
    match Decimal.digit? c with
    | none => .error .invalid
    | some d => if number * 10 + d < bound then digits (number * 10 + d) rest else .error .tooLarge

/-- Reads a whole number. -/
def parse : List Char → Except WholeError Nat
  | [] => .error .empty
  | ['+'] => .error .invalid
  | '+' :: rest => digits 0 rest
  | text => digits 0 text

end Whole

end OrderDesk
