/-
# `Notation` — how an amount is written

Two layouts of a decimal: *plain* (`0.00015`, `1500.0`) and *scientific*
(`1.5e-4`).  A `Notation` says which decimal exponents of the leading
digit are written plainly, whether a whole number keeps a `.0`, whether a
positive exponent carries a sign, and where a tie between two shortest
decimals goes.

* `Notation.json`  — plain from 10⁻⁵ up to 10¹⁶, always a fraction;
* `Notation.full`  — always plain, no `.0`;
* `Notation.field` — plain from 10⁻⁴ up to 10¹⁶, always a fraction.
-/
import OrderDesk.Decimal

namespace OrderDesk

/-- The decimal digits of a natural number, most significant first. -/
def Decimal.text (n : Nat) : List Char := Nat.toDigits 10 n

/-- The text of an integer: digits after a minus sign if it is negative. -/
def Decimal.intText (i : Int) : List Char :=
  if i < 0 then '-' :: Decimal.text i.natAbs else Decimal.text i.natAbs

/-- The choices that a written amount leaves open. -/
structure Notation where
  /-- The least exponent of the leading digit that is written plainly. -/
  least : Int
  /-- The exponent of the leading digit from which it is not. -/
  bound : Int
  /-- Is `.0` written behind a whole number in plain layout? -/
  fraction : Bool
  /-- Does a positive exponent carry a plus sign? -/
  plus : Bool
  tie : Decimal.Tie
  deriving Repr

namespace Notation

/-- Amounts inside JSON. -/
def json : Notation := ⟨-5, 16, true, true, .even⟩

/-- Amounts on the one-line form of an order: never an exponent. -/
def full : Notation := ⟨-1000, 1000, false, false, .up⟩

/-- Amounts in a listing of fields. -/
def field : Notation := ⟨-4, 16, true, false, .up⟩

/-- Plain layout of the digits `ds` scaled by a power of ten. -/
def plain (fraction : Bool) (ds : List Char) (exponent : Int) : List Char :=
  if 0 ≤ exponent then
    ds ++ List.replicate exponent.toNat '0' ++ (if fraction then ['.', '0'] else [])
  else
    let places := (-exponent).toNat
    if places < ds.length then
      ds.take (ds.length - places) ++ '.' :: ds.drop (ds.length - places)
    else '0' :: '.' :: (List.replicate (places - ds.length) '0' ++ ds)

/-- Scientific layout: one digit before the point, then the exponent. -/
def scientific (plus : Bool) (ds : List Char) (exponent : Int) : List Char :=
  let lead := exponent + ds.length - 1
  let mantissa := match ds with
    | d :: e :: rest => d :: '.' :: e :: rest
    | short => short
  let sign := if plus && decide (0 ≤ lead) then ['+'] else []
  mantissa ++ 'e' :: (sign ++ Decimal.intText lead)

/-- The text of a decimal. -/
def magnitude (n : Notation) (d : Decimal) : List Char :=
  let ds := Decimal.text d.digits
  let lead := d.exponent + ds.length - 1
  if d.digits = 0 ∨ (n.least ≤ lead ∧ lead < n.bound) then plain n.fraction ds d.exponent
  else scientific n.plus ds d.exponent

/-- The text of a finite amount from its sign and units. -/
def finite (n : Notation) (negative : Bool) (units : Nat) : List Char :=
  let body := n.magnitude (Decimal.shortest n.tie units)
  if negative then '-' :: body else body

/-- The text of any amount. -/
def render (n : Notation) : Binary64 → String
  | .nan => "NaN"
  | .infinite false => "inf"
  | .infinite true => "-inf"
  | .finite negative units _ => String.ofList (n.finite negative units)

end Notation

end OrderDesk
