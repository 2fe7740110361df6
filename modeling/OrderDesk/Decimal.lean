/-
# `Decimal` — the fewest digits that read back

`shortest tie units` is the decimal with the fewest digits among those
that round to the given number of units, and of these the closest one.
A decimal is written `digits · 10 ^ exponent` with no trailing zero in
`digits`.

All comparisons are made in quarters of a unit, where the two ends of the
interval of numbers that round to `units` are whole numbers: half a step
above, and half a step below (a quarter when `units` begins a binade).
The ends themselves belong to the interval exactly when the significand
is even.  For one digit, two digits, … the only decimals worth testing
are the two neighbours of the value on that grid.
-/
import OrderDesk.Binary64

namespace OrderDesk

/-- The number `digits · 10 ^ exponent`. -/
structure Decimal where
  digits : Nat
  exponent : Int
  deriving DecidableEq, Repr, Inhabited

namespace Decimal

/-- Which of two equally close decimals is taken. -/
inductive Tie where
  | even
  | up
  deriving DecidableEq, Repr

/-- Moves trailing zeros of the digits into the exponent. -/
def normalize (digits : Nat) (exponent : Int) : Decimal :=
  if h : digits ≠ 0 ∧ digits % 10 = 0 then normalize (digits / 10) (exponent + 1)
  else ⟨digits, exponent⟩
termination_by digits
decreasing_by omega

/-- The interval of numbers that round to a number of units, in quarters
of a unit, and whether its ends belong to it. -/
structure Interval where
  low : Nat
  high : Nat
  closed : Bool

/-- Half a step to either side; below the first number of a binade the
step is half as wide. -/
def Interval.of (units : Nat) : Interval :=
  let coarse := Binary64.coarseness units
  let step := Nat.pow 2 coarse
  let below := if coarse ≠ 0 ∧ units = Nat.pow 2 (52 + coarse) then step else 2 * step
  { low := 4 * units - below
    high := 4 * units + 2 * step
    closed := units / step % 2 == 0 }

/-- Membership of the rational `n / d`, in quarters of a unit. -/
def Interval.contains (i : Interval) (n d : Nat) : Bool :=
  if i.closed then i.low * d ≤ n && n ≤ i.high * d
  else i.low * d < n && n < i.high * d

/-- One step of the grid `10 ^ exponent`, in quarters of a unit, as a
numerator and a denominator. -/
def gridStep (exponent : Int) : Nat × Nat :=
  if 0 ≤ exponent then (4 * Binary64.unitsPerOne * Nat.pow 10 exponent.toNat, 1)
  else (4 * Binary64.unitsPerOne, Nat.pow 10 (-exponent).toNat)

/-- The grid point closest to the value among its two neighbours that
round to it, if one does. -/
def onGrid? (tie : Tie) (units : Nat) (exponent : Int) : Option Nat :=
  let interval := Interval.of units
  let (step, den) := gridStep exponent
  let value := 4 * units * den
  let below := value / step
  let rest := value % step
  let above := below + 1
  match interval.contains (below * step) den, interval.contains (above * step) den with
  | true, false => some below
  | false, true => some above
  | false, false => none
  | true, true =>
    if 2 * rest < step then some below
    else if step < 2 * rest then some above
    else match tie with
      | .up => some above
      | .even => if below % 2 = 0 then some below else some above

/-- Is the value at least `10 ^ exponent`? -/
def reaches (units : Nat) (exponent : Int) : Bool :=
  let (step, den) := gridStep exponent
  step ≤ 4 * units * den

/-- The decimal exponent of the leading digit of a positive value: the
largest power of ten that it reaches, searched downwards. -/
def leading (units : Nat) : Nat → Int → Int
  | 0, e => e
  | fuel + 1, e => if reaches units e then e else leading units fuel (e - 1)

/-- Tries grids with more and more digits. -/
def search (tie : Tie) (units : Nat) (lead : Int) : Nat → Nat → Decimal
  | 0, _ => ⟨0, 0⟩
  | fuel + 1, count =>
    let exponent := lead - (count : Int)
    match onGrid? tie units exponent with
    | some digits => normalize digits exponent
    | none => search tie units lead fuel (count + 1)

/-- The decimal with the fewest digits that rounds to the given number of
units, the closest one among those.  Finite amounts lie below 10³⁰⁹ and
at or above 10⁻³²⁴, and seventeen digits are always enough. -/
def shortest (tie : Tie) (units : Nat) : Decimal :=
  if units = 0 then ⟨0, 0⟩
  else search tie units (leading units 633 308) 18 0

end Decimal

end OrderDesk
