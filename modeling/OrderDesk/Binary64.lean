/-
# `Binary64` — amounts as exact multiples of 2⁻¹⁰⁷⁴

An amount is a binary floating-point number with 53 significant bits.
Every finite one is a whole number of *units* of 2⁻¹⁰⁷⁴, so a sign and a
natural number say exactly which number it is, and two finite amounts
have the same bits exactly when sign and units agree.  `Fits` is the
condition on the units: below 2²⁰⁹⁸ (which is 2¹⁰²⁴ units of 2⁻¹⁰⁷⁴) and
no more than 53 significant bits.

`nearest n d` rounds the rational `n / d` (in units) to the closest
number of units with 53 significant bits, a tie going to the even
neighbour.  The operations that the readers need (a product, a quotient,
a decimal scaled by a power of ten) are one exact `Nat` computation
followed by one such rounding.
-/

namespace OrderDesk

namespace Binary64

/-- How many low bits of a number of units fall outside its 53
significant bits. -/
def coarseness (units : Nat) : Nat := units.log2 + 1 - 53

/-- The numbers of units that a finite amount can have. -/
def Fits (units : Nat) : Prop :=
  units < Nat.pow 2 2098 ∧ Nat.pow 2 (coarseness units) ∣ units

instance (units : Nat) : Decidable (Fits units) := by
  unfold Fits; infer_instance

theorem fits_zero : Fits 0 := by decide +kernel

end Binary64

/-- A binary floating-point number: not a number, an infinity, or a sign
and a number of units of 2⁻¹⁰⁷⁴. -/
inductive Binary64 where
  | nan
  | infinite (negative : Bool)
  | finite (negative : Bool) (units : Nat) (fits : Binary64.Fits units)
  deriving DecidableEq

namespace Binary64

/-- Positive zero. -/
def zero : Binary64 := .finite false 0 fits_zero

instance : Inhabited Binary64 := ⟨zero⟩

/-- One, in units. -/
def unitsPerOne : Nat := Nat.pow 2 1074

/-- The whole number closest to `n / d`, a half going to the even
neighbour. -/
def roundHalfEven (n d : Nat) : Nat :=
  let q := n / d
  let r := n % d
  if d < 2 * r ∨ (2 * r = d ∧ q % 2 = 1) then q + 1 else q

/-- The number of units with 53 significant bits that is closest to
`n / d`, a half going to the even neighbour. -/
def nearest (n d : Nat) : Nat :=
  let step := Nat.pow 2 (coarseness (n / d))
  roundHalfEven n (d * step) * step

/-- The amount closest to `n / d` units; what is too large to fit is an
infinity. -/
def ofUnits (negative : Bool) (n d : Nat) : Binary64 :=
  let units := nearest n d
  if fits : Fits units then .finite negative units fits else .infinite negative

/-- The amount closest to a whole number. -/
def ofNat (negative : Bool) (n : Nat) : Binary64 :=
  ofUnits negative (n * unitsPerOne) 1

/-- Comparison as numbers: what is not a number differs from everything,
itself included, and the two zeros are equal. -/
def equals : Binary64 → Binary64 → Bool
  | .infinite s, .infinite t => s == t
  | .finite s u _, .finite t v _ => u == v && (s == t || u == 0)
  | _, _ => false

/-- Finite amounts are those that are written with digits. -/
def isFinite : Binary64 → Bool
  | .finite .. => true
  | _ => false

/-- The amount closest to `± significand · 10 ^ exponent`.  Beyond ±400
decimal places the result is an infinity or zero whatever the digits
are, so the power of ten stays small. -/
def ofDecimal (negative : Bool) (significand : Nat) (exponent : Int) : Binary64 :=
  let magnitude : Int := (Nat.toDigits 10 significand).length + exponent
  if significand = 0 then .finite negative 0 fits_zero
  else if magnitude < -400 then .finite negative 0 fits_zero
  else if 400 < magnitude then .infinite negative
  else if 0 ≤ exponent then
    ofUnits negative (significand * Nat.pow 10 exponent.toNat * unitsPerOne) 1
  else ofUnits negative (significand * unitsPerOne) (Nat.pow 10 (-exponent).toNat)

end Binary64

end OrderDesk
