/-
# `Toml.Scalar` — single values

A bare value is recognised by its first characters: a truth value, an
infinity, what is not a number, a date or time, a number in one of four
bases, or an amount.  Underscores may stand between digits only, and
leading zeros are not allowed.  An amount stays the text it is written
with until somebody asks for it.

Readers answer the value, or the place of the first fault in octets from
the start of the lexeme.
-/
import OrderDesk.Decimal.Reading
import OrderDesk.Toml.Moment
import OrderDesk.Toml.Text

namespace OrderDesk

namespace Toml

/-- A single value. -/
inductive Scalar where
  | text (s : List Char)
  | integer (n : Int)
  | amount (text : List Char)
  | bool (b : Bool)
  | moment
  deriving DecidableEq

/-- Is this a decimal digit? -/
def isDigit (c : Char) : Bool := '0' ≤ c && c ≤ '9'

/-- The place of the first underscore that does not stand between two
digits; `before` says whether a digit stands in front. -/
def strayUnderscore? (digit : Char → Bool) (before : Bool) (place : Nat) :
    List Char → Option Nat
  | [] => none
  | c :: rest =>
    if c = '_' ∧ !(before && rest.head?.any digit) then some place
    else strayUnderscore? digit (digit c) (place + 1) rest

/-- The digits of a text without its underscores.  An underscore at the
front is told first, then one at the end, then any other. -/
def withoutUnderscores (digit : Char → Bool) (place : Nat) (text : List Char) :
    Placed (List Char) :=
  if text.head? = some '_' then .error place
  else if text.getLast? = some '_' then .error (place + text.length - 1)
  else match strayUnderscore? digit false place text with
    | some stray => .error stray
    | none => .ok (text.filter (· ≠ '_'))

/-- The value of digits in a base. -/
def numeral (base : Nat) (digits : List Char) : Nat :=
  digits.foldl (fun n d => n * base + (hexDigit? d).getD 0) 0

/-- A whole number in decimal digits behind a sign. -/
def decimal (raw : List Char) : Placed Scalar := do
  let text ← withoutUnderscores isHexDigit 0 raw
  let (negative, digits) := Decimal.scanSign text
  if digits ≠ [] ∧ digits.all isDigit then
    let n : Int := numeral 10 digits
    pure (.integer (if negative then -n else n))
  else .error 0

/-- A whole number in another base, behind its two letters. -/
def radix (base : Nat) (digits : List Char) : Placed Scalar :=
  let fits (c : Char) : Bool := (hexDigit? c).any (· < base)
  if digits = [] then .error 0
  else
    let good := digits.takeWhile fun c => fits c || c == '_'
    if good.length < digits.length then .error (2 + good.length)
    else do
      let text ← withoutUnderscores isHexDigit 2 digits
      pure (.integer (numeral base text))

/-- Checks digits and underscores at a place: there must be a digit, and
without `zeros` no zero in front of others.  Answers how many there
are. -/
def digitRun (zeros : Bool) (place : Nat) (s : List Char) : Placed Nat :=
  let run := s.takeWhile fun c => isDigit c || c == '_'
  let count := (run.filter isDigit).length
  if count = 0 then .error place
  else if 1 < count ∧ !zeros ∧ run.head? = some '0' then .error place
  else .ok run.length

/-- Checks an amount at a place, behind its sign. -/
def checkAmount (place : Nat) (s : List Char) : Placed Unit := do
  let whole ← digitRun false place s
  let place := place + whole
  let s := s.drop whole
  let (place, s) ← match s with
    | '.' :: s => do
      let count ← digitRun true (place + 1) s
      pure (place + 1 + count, s.drop count)
    | s => pure (place, s)
  let (place, s) ← match s with
    | c :: t =>
      if c = 'e' ∨ c = 'E' then
        let sign := if t.head?.any fun d => d == '+' || d == '-' then 1 else 0
        do
          let count ← digitRun true (place + 1 + sign) (t.drop sign)
          pure (place + 1 + sign + count, t.drop (sign + count))
      else pure (place, s)
    | [] => pure (place, s)
  if s = [] then pure () else .error place

/-- An amount with its sign, of which the part at a place is behind the
sign. -/
def amount (raw : List Char) (place : Nat) (s : List Char) : Placed Scalar := do
  checkAmount place s
  pure (.amount (← withoutUnderscores isDigit 0 raw))

/-- A date, a time, a whole number or an amount. -/
def numeric (raw : List Char) (place : Nat) (s : List Char) : Placed Scalar :=
  let rest := s.dropWhile isDigit
  let startsWith (c : Char) : Bool := rest.head? = some c
  if startsWith '-' || startsWith ':' then
    if isMoment raw then .ok .moment else .error 0
  else if rest.contains ' ' then .error 0
  else if rest.any fun c => c == '.' || c == 'e' || c == 'E' then amount raw place s
  else if rest = [] ∨ startsWith '_' then
    if s.head? = some '0' ∧ s ≠ ['0'] then .error place else decimal raw
  else .error 0

/-- A value that begins with a zero, at a place. -/
def zeroFirst (signed : Bool) (raw : List Char) (place : Nat) (s : List Char) :
    Placed Scalar :=
  let based (base : Nat) (upper : Bool) (digits : List Char) : Placed Scalar :=
    if signed ∨ upper then .error 0 else radix base digits
  match s with
  | '0' :: 'x' :: digits => based 16 false digits
  | '0' :: 'X' :: digits => based 16 true digits
  | '0' :: 'o' :: digits => based 8 false digits
  | '0' :: 'O' :: digits => based 8 true digits
  | '0' :: 'b' :: digits => based 2 false digits
  | '0' :: 'B' :: digits => based 2 true digits
  | '0' :: 'd' :: _ => .error 0
  | '0' :: 'D' :: _ => .error 0
  | s => numeric raw place s

/-- A word that must be spelled exactly. -/
def spelled (word : String) (value : Scalar) (place : Nat) (s : List Char) : Placed Scalar :=
  if s = word.toList then .ok value else .error place

/-- A value behind a sign. -/
def signedText (raw : List Char) (s : List Char) : Placed Scalar :=
  match s with
  | [] => .error 0
  | c :: _ =>
    if c = '+' ∨ c = '-' then .error 1
    else if c = '0' then zeroFirst true raw 1 s
    else if isDigit c ∨ c = '_' then numeric raw 1 s
    else if c = '.' then amount raw 1 s
    else if c = 'i' ∨ c = 'I' then spelled "inf" (.amount raw) 1 s
    else if c = 'n' ∨ c = 'N' then spelled "nan" (.amount raw) 1 s
    else .error 0

/-- A bare value. -/
def bareText (raw : List Char) : Placed Scalar :=
  match raw with
  | [] => .error 0
  | c :: rest =>
    if c = '+' ∨ c = '-' then signedText raw rest
    else if c = '0' then zeroFirst false raw 0 raw
    else if isDigit c ∨ c = '_' then numeric raw 0 raw
    else if c = '.' then amount raw 0 raw
    else if c = 't' ∨ c = 'T' then spelled "true" (.bool true) 0 raw
    else if c = 'f' ∨ c = 'F' then spelled "false" (.bool false) 0 raw
    else if c = 'i' ∨ c = 'I' then spelled "inf" (.amount raw) 0 raw
    else if c = 'n' ∨ c = 'N' then spelled "nan" (.amount raw) 0 raw
    else .error 0

/-- The value of a lexeme. -/
def scalarText (quotes : Option Quotes) (raw : List Char) : Placed Scalar :=
  match quotes with
  | some q => do pure (.text (← q.text raw))
  | none => bareText raw

end Toml

end OrderDesk
