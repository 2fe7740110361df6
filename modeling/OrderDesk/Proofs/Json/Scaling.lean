/-
# `Proofs.Json.Scaling` — when a scaled amount is in range

The reader rounds a significand and a power of ten, multiplies the two
and rounds the product, so it may overshoot by three roundings.  It does
not leave the range as long as the exact number stays below the bound of
the amounts by seven quarters of the last step (`scaled?_ne_none`).  Below
the point nothing can leave the range.
-/
import Mathlib.Algebra.Order.Field.Power
import Mathlib.Algebra.Order.Ring.Rat
import Mathlib.Data.Rat.Cast.Order
import OrderDesk.Proofs.Decimal.Rounding
import OrderDesk.Proofs.Json.Numbers

namespace OrderDesk.Json

open Binary64 (nearest unitsPerOne halfStep)

theorem scale_negative (units : Nat) {exponent : Int} (h : exponent < 0) :
    scale units exponent ≠ none := by
  fun_induction scale units exponent with
  | case1 => nofun
  | case2 units exponent _ _ ih => exact ih (by omega)
  | case3 => nofun
  | case4 => omega
  | case5 => omega
  | case6 => nofun
  | case7 => omega

theorem nearest_units {n : Nat} (h : 0 < n) :
    2 ^ 53 * nearest (n * unitsPerOne) 1 ≤ (2 ^ 53 + 1) * (n * unitsPerOne) :=
  Binary64.nearest_le (Nat.le_trans Binary64.le_unitsPerOne (Nat.le_mul_of_pos_left _ h))

/-- Two rounded factors, and a bound with room for both errors. -/
theorem product_lt {a b x y p u : Nat} (ha : 2 ^ 53 * a ≤ (2 ^ 53 + 1) * x)
    (hb : 2 ^ 53 * b ≤ (2 ^ 53 + 1) * y) (hxy : x * y ≤ (2 ^ 54 - 7) * p * u) (hpu : 0 < p * u) :
    a * b + u * p < u * (2 ^ 54 * p) := by
  have hab : (2 ^ 53 * a) * (2 ^ 53 * b) ≤ ((2 ^ 53 + 1) * x) * ((2 ^ 53 + 1) * y) :=
    Nat.mul_le_mul ha hb
  have hbound : 2 ^ 106 * (a * b) ≤ (2 ^ 53 + 1) * (2 ^ 53 + 1) * (2 ^ 54 - 7) * (p * u) :=
    calc 2 ^ 106 * (a * b) = (2 ^ 53 * a) * (2 ^ 53 * b) := by ring
      _ ≤ ((2 ^ 53 + 1) * x) * ((2 ^ 53 + 1) * y) := hab
      _ = (2 ^ 53 + 1) * (2 ^ 53 + 1) * (x * y) := by ring
      _ ≤ (2 ^ 53 + 1) * (2 ^ 53 + 1) * ((2 ^ 54 - 7) * p * u) := Nat.mul_le_mul_left _ hxy
      _ = (2 ^ 53 + 1) * (2 ^ 53 + 1) * (2 ^ 54 - 7) * (p * u) := by ring
  have hup : u * p = p * u := Nat.mul_comm u p
  have hupp : u * (2 ^ 54 * p) = 2 ^ 54 * (p * u) := by ring
  rw [hup, hupp]
  generalize p * u = q at *
  omega

theorem scale_of_lt {units e : Nat} (he : e < 309)
    (h : nearest (units * powerOfTen e) unitsPerOne < Nat.pow 2 2098) :
    scale units e ≠ none := by
  rw [scale, if_neg (by omega), if_neg (by omega), if_neg (by omega), Int.toNat_natCast]
  rw [if_pos h]
  exact Option.some_ne_none _

theorem scale_ne_none {n e : Nat} (hn : 0 < n)
    (h : n * Nat.pow 10 e * unitsPerOne ≤ (2 ^ 54 - 7) * halfStep) :
    scale (nearest (n * unitsPerOne) 1) e ≠ none := by
  obtain ⟨k, hk, hbound⟩ := Binary64.exists_bound_lt_pow
  have he : e < k := by
    have hpow : Nat.pow 10 e * unitsPerOne < Nat.pow 10 k * unitsPerOne :=
      calc Nat.pow 10 e * unitsPerOne ≤ n * Nat.pow 10 e * unitsPerOne :=
            Nat.mul_le_mul_right _ (Nat.le_mul_of_pos_left _ hn)
        _ ≤ (2 ^ 54 - 7) * halfStep := h
        _ ≤ 2 ^ 54 * halfStep := Nat.mul_le_mul_right _ (Nat.sub_le _ _)
        _ < Nat.pow 10 k * unitsPerOne := hbound
    exact (Nat.pow_lt_pow_iff_right (by decide)).mp (Nat.lt_of_mul_lt_mul_right hpow)
  have hproduct : n * unitsPerOne * (Nat.pow 10 e * unitsPerOne) ≤
      (2 ^ 54 - 7) * halfStep * unitsPerOne :=
    calc n * unitsPerOne * (Nat.pow 10 e * unitsPerOne)
        = n * Nat.pow 10 e * unitsPerOne * unitsPerOne := by ring
      _ ≤ (2 ^ 54 - 7) * halfStep * unitsPerOne := Nat.mul_le_mul_right _ h
  have hlt := Binary64.nearest_lt_bound (product_lt (nearest_units hn)
    (nearest_units (Nat.pow_pos (by decide))) hproduct
    (Nat.mul_pos Binary64.halfStep_pos Binary64.unitsPerOne_pos))
  exact scale_of_lt (by omega) hlt

/-- A significand scaled below the bound has an amount. -/
theorem scaled?_ne_none (negative : Bool) {n : Nat} {e : Int} (hn : 0 < n)
    (h : (n * 10 ^ e * unitsPerOne : ℚ) ≤ ((2 ^ 54 - 7) * halfStep : Nat)) :
    scaled? negative n e ≠ none := by
  rw [scaled?, Ne, Option.map_eq_none_iff]
  rcases lt_or_ge e 0 with he | he
  · exact scale_negative _ he
  · obtain ⟨k, rfl⟩ := Int.eq_ofNat_of_zero_le he
    rw [zpow_natCast] at h
    exact scale_ne_none hn (by exact_mod_cast h)

end OrderDesk.Json
