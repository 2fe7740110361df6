/-
# `Proofs.Decimal.Shortest` — the decimal of an amount is inside its interval

Whatever decimal the search ends with, it is one of the numbers that
round to the amount (`shortest_within`), unless the search finds none at
all.  Values are compared as rationals; the quarters of a unit in which
the program counts are `quarters`.

| | |
| :-- | :-- |
| `Decimal.value`   | the number that a decimal is |
| `Within units d`  | the decimal lies in the interval of the units |
| `shortest_within` | so does the shortest decimal |
-/
import Mathlib.Algebra.Order.Field.Power
import Mathlib.Algebra.Order.Ring.Rat
import Mathlib.Data.Rat.Cast.Order
import Mathlib.Tactic.FieldSimp
import Mathlib.Tactic.Linarith
import Mathlib.Tactic.Positivity
import Mathlib.Tactic.Ring
import OrderDesk.Decimal
import OrderDesk.Proofs.Decimal.Rounding

namespace OrderDesk.Decimal

/-- The number that a decimal is. -/
def value (d : Decimal) : ℚ := d.digits * 10 ^ d.exponent

/-- One, in quarters of a unit. -/
def quarters : Nat := 4 * Binary64.unitsPerOne

/-- The decimal is one of the numbers that round to the units. -/
structure Within (units : Nat) (d : Decimal) : Prop where
  low : ((Interval.of units).low : ℚ) ≤ d.value * quarters
  high : d.value * quarters ≤ (Interval.of units).high

theorem Interval.high_of (units : Nat) :
    (Interval.of units).high = 4 * units + 2 * 2 ^ Binary64.coarseness units := rfl

theorem Interval.low_pos {units : Nat} (h : 0 < units) : 0 < (Interval.of units).low := by
  have hstep : 2 ^ Binary64.coarseness units ≤ units := by
    by_cases hc : Binary64.coarseness units = 0
    · rw [hc]
      exact h
    · exact Nat.le_trans (Nat.pow_le_pow_right (by decide) (Nat.le_add_left _ 52))
        (Binary64.pow_coarseness_le hc)
  simp only [of, Nat.pow_eq]
  split <;> omega

/-- A positive amount has no zero in its interval. -/
theorem Within.digits_pos {units : Nat} {d : Decimal} (h : Within units d) (hunits : 0 < units) :
    0 < d.digits := by
  refine Nat.pos_of_ne_zero ?_
  intro hzero
  have hlow := h.low
  rw [value, hzero, Nat.cast_zero, zero_mul, zero_mul] at hlow
  have hle : (Interval.of units).low ≤ 0 := by exact_mod_cast hlow
  exact absurd (Interval.low_pos hunits) (Nat.not_lt.mpr hle)

/-- A decimal in the interval of an amount is at most half a step above it. -/
theorem Within.value_le {units b : Nat} {d : Decimal} (h : Within units d)
    (hb : 2 * units + 2 ^ Binary64.coarseness units ≤ 2 * b) :
    d.value * Binary64.unitsPerOne ≤ b := by
  have hhigh := h.high
  rw [quarters, Interval.high_of] at hhigh
  have hbq : (2 * units + 2 ^ Binary64.coarseness units : ℚ) ≤ 2 * b := by exact_mod_cast hb
  push_cast at hhigh
  linarith

/-! ## Trailing zeros -/

theorem normalize_value (digits : Nat) (exponent : Int) :
    (normalize digits exponent).value = digits * 10 ^ exponent := by
  fun_induction normalize digits exponent with
  | case1 digits exponent h ih =>
      obtain ⟨m, rfl⟩ : 10 ∣ digits := Nat.dvd_of_mod_eq_zero h.2
      rw [ih, Nat.mul_div_cancel_left m (by decide), zpow_add_one₀ (by norm_num)]
      push_cast
      ring
  | case2 => rfl

/-! ## Grids -/

theorem gridStep_pos (exponent : Int) : 0 < (gridStep exponent).2 := by
  rw [gridStep]
  split
  · exact Nat.one_pos
  · exact Nat.pow_pos (by decide)

theorem gridStep_eq (exponent : Int) :
    ((gridStep exponent).1 : ℚ) = 10 ^ exponent * quarters * (gridStep exponent).2 := by
  rw [gridStep]
  split
  · next h =>
      obtain ⟨k, rfl⟩ := Int.eq_ofNat_of_zero_le h
      simp only [Int.toNat_natCast, Nat.pow_eq, zpow_natCast]
      rw [← quarters]
      push_cast
      ring
  · next h =>
      obtain ⟨k, hk⟩ := Int.eq_ofNat_of_zero_le (show 0 ≤ -exponent by omega)
      obtain rfl : exponent = -(k : Int) := by omega
      simp only [neg_neg, Int.toNat_natCast, Nat.pow_eq, zpow_neg, zpow_natCast]
      rw [← quarters]
      push_cast
      rw [mul_right_comm, inv_mul_cancel₀ (pow_ne_zero k (by norm_num)), one_mul]

/-- What an interval contains lies between its ends. -/
theorem Interval.contains_bounds {i : Interval} {n d : Nat} (h : i.contains n d = true) :
    i.low * d ≤ n ∧ n ≤ i.high * d := by
  rw [contains] at h
  split at h
  · simpa using h
  · simp only [Bool.and_eq_true, decide_eq_true_eq] at h
    exact ⟨Nat.le_of_lt h.1, Nat.le_of_lt h.2⟩

/-- A point of a grid that is taken is one that the interval contains. -/
theorem onGrid?_contains {tie : Tie} {units digits : Nat} {exponent : Int}
    (h : onGrid? tie units exponent = some digits) :
    (Interval.of units).contains (digits * (gridStep exponent).1) (gridStep exponent).2 = true := by
  simp only [onGrid?] at h
  split at h
  · next hbelow _ => cases h; exact hbelow
  · next habove => cases h; exact habove
  · cases h
  · next hbelow habove =>
      split at h
      · cases h; exact hbelow
      split at h
      · cases h; exact habove
      split at h
      · cases h; exact habove
      · split at h
        · cases h; exact hbelow
        · cases h; exact habove

theorem onGrid?_within {tie : Tie} {units digits : Nat} {exponent : Int}
    (h : onGrid? tie units exponent = some digits) : Within units (normalize digits exponent) := by
  obtain ⟨hlow, hhigh⟩ := Interval.contains_bounds (onGrid?_contains h)
  have hpos : (0 : ℚ) < (gridStep exponent).2 := by exact_mod_cast gridStep_pos exponent
  have hpoint : ((digits * (gridStep exponent).1 : Nat) : ℚ) =
      (normalize digits exponent).value * quarters * (gridStep exponent).2 := by
    rw [normalize_value, Nat.cast_mul, gridStep_eq]
    ring
  constructor
  · refine le_of_mul_le_mul_right ?_ hpos
    rw [← hpoint]
    exact_mod_cast hlow
  · refine le_of_mul_le_mul_right ?_ hpos
    rw [← hpoint]
    exact_mod_cast hhigh

/-! ## The search -/

/-- The search ends with a point of a grid, or without any. -/
theorem search_within (tie : Tie) (units : Nat) (lead : Int) (fuel count : Nat) :
    search tie units lead fuel count = ⟨0, 0⟩ ∨
      Within units (search tie units lead fuel count) := by
  induction fuel generalizing count with
  | zero => exact .inl rfl
  | succ fuel ih =>
      simp only [search]
      split
      · next h => exact .inr (onGrid?_within h)
      · exact ih (count + 1)

/-- The search takes the first grid that has a point. -/
theorem search_eq {tie : Tie} {units digits k : Nat} {lead : Int} {fuel count : Nat}
    (hnone : ∀ j < k, onGrid? tie units (lead - (count + j : Nat)) = none)
    (hsome : onGrid? tie units (lead - (count + k : Nat)) = some digits) (hk : k < fuel) :
    search tie units lead fuel count = normalize digits (lead - (count + k : Nat)) := by
  induction k generalizing fuel count with
  | zero =>
      obtain ⟨fuel, rfl⟩ := Nat.exists_eq_succ_of_ne_zero (Nat.ne_of_gt hk)
      rw [Nat.add_zero] at hsome ⊢
      simp only [search, hsome]
  | succ k ih =>
      obtain ⟨fuel, rfl⟩ := Nat.exists_eq_succ_of_ne_zero (Nat.ne_of_gt (Nat.zero_lt_of_lt hk))
      have hfirst := hnone 0 (Nat.succ_pos k)
      rw [Nat.add_zero] at hfirst
      simp only [search, hfirst]
      rw [show count + (k + 1) = count + 1 + k by omega] at hsome ⊢
      refine ih ?_ hsome (Nat.lt_of_succ_lt_succ hk)
      intro j hj
      rw [show count + 1 + j = count + (j + 1) by omega]
      exact hnone (j + 1) (Nat.succ_lt_succ hj)

theorem shortest_within (tie : Tie) (units : Nat) :
    shortest tie units = ⟨0, 0⟩ ∨ Within units (shortest tie units) := by
  rw [shortest]
  split
  · exact .inl rfl
  · exact search_within tie units _ _ _

end OrderDesk.Decimal
