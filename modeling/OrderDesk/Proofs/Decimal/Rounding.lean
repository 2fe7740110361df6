/-
# `Proofs.Decimal.Rounding` — how far a rounding moves a number

One rounding moves a number by at most half a step of the significand,
and a step is at most the number itself divided by 2⁵² (`nearest_le`).
So a number stays below the bound of the amounts if it was less than half
a step of the last binade below it (`nearest_lt`).

`Fits.near_bound` counts the amounts that are too close to the bound for
an argument by error bounds alone: there are three.
-/
import Mathlib.Tactic.Linarith
import Mathlib.Tactic.Ring
import Mathlib.Algebra.Order.Ring.Nat
import OrderDesk.Binary64

namespace OrderDesk.Binary64

/-- Half a step of the last binade. -/
def halfStep : Nat := Nat.pow 2 2044

theorem bound_eq : Nat.pow 2 2098 = 2 ^ 54 * halfStep := by decide +kernel

theorem halfStep_eq_pow : ∃ k, halfStep = 2 ^ k := by
  unfold halfStep
  generalize 2044 = k
  exact ⟨k, rfl⟩

theorem halfStep_pos : 0 < halfStep := by decide +kernel

theorem le_unitsPerOne : 2 ^ 52 ≤ unitsPerOne := by decide +kernel

theorem unitsPerOne_pos : 0 < unitsPerOne := Nat.lt_of_lt_of_le (by decide) le_unitsPerOne

/-- No power of ten from the 309th on is below the bound. -/
theorem exists_bound_lt_pow : ∃ k, k = 309 ∧ 2 ^ 54 * halfStep < Nat.pow 10 k * unitsPerOne :=
  ⟨309, rfl, by decide +kernel⟩

/-! ## Coarseness -/

theorem lt_pow_coarseness (n : Nat) : n < 2 ^ (53 + coarseness n) := by
  have hlt : n < 2 ^ (n.log2 + 1) := Nat.lt_log2_self
  refine Nat.lt_of_lt_of_le hlt (Nat.pow_le_pow_right (by decide) ?_)
  rw [coarseness]
  omega

theorem pow_coarseness_le {n : Nat} (h : coarseness n ≠ 0) : 2 ^ (52 + coarseness n) ≤ n := by
  rw [coarseness] at h ⊢
  have hn : n ≠ 0 := by
    rintro rfl
    exact h (by decide)
  have hlog : 52 + (n.log2 + 1 - 53) = n.log2 := by omega
  rw [hlog]
  exact Nat.log2_self_le hn

/-- A step of the significand is small against the number. -/
theorem step_le {n : Nat} (h : 2 ^ 52 ≤ n) : 2 ^ 52 * 2 ^ coarseness n ≤ n := by
  by_cases hc : coarseness n = 0
  · rw [hc]
    omega
  · rw [← Nat.pow_add]
    exact pow_coarseness_le hc

theorem coarseness_le {n k : Nat} (h : n < 2 ^ (k + 54)) : coarseness n ≤ k + 1 := by
  by_cases hc : coarseness n = 0
  · omega
  · have hlt := Nat.lt_of_le_of_lt (pow_coarseness_le hc) h
    have := (Nat.pow_lt_pow_iff_right (by decide : 1 < 2)).mp hlt
    omega

/-! ## Rounding -/

/-- Rounding to a whole number adds at most a half. -/
theorem roundHalfEven_mul_le (n d : Nat) : 2 * (roundHalfEven n d * d) ≤ 2 * n + d := by
  have hn : d * (n / d) + n % d = n := Nat.div_add_mod n d
  rw [roundHalfEven]
  split
  · next h =>
      have hhalf : d ≤ 2 * (n % d) := by
        rcases h with h | ⟨h, -⟩ <;> omega
      calc 2 * ((n / d + 1) * d) = 2 * (d * (n / d)) + d + d := by ring
        _ ≤ 2 * (d * (n / d)) + 2 * (n % d) + d := by omega
        _ = 2 * n + d := by omega
  · calc 2 * (n / d * d) = 2 * (d * (n / d)) := by ring
      _ ≤ 2 * n + d := by omega

theorem nearest_mul_le (n d : Nat) :
    2 * (nearest n d * d) ≤ 2 * n + d * 2 ^ coarseness (n / d) := by
  have h := roundHalfEven_mul_le n (d * 2 ^ coarseness (n / d))
  calc 2 * (nearest n d * d)
      = 2 * (roundHalfEven n (d * 2 ^ coarseness (n / d)) * (d * 2 ^ coarseness (n / d))) := by
        show 2 * (roundHalfEven n (d * 2 ^ _) * 2 ^ _ * d) = _
        ring
    _ ≤ 2 * n + d * 2 ^ coarseness (n / d) := h

/-- The error of a rounding, relative to the number. -/
theorem nearest_le {n : Nat} (h : 2 ^ 52 ≤ n) : 2 ^ 53 * nearest n 1 ≤ (2 ^ 53 + 1) * n := by
  have hround : 2 * nearest n 1 ≤ 2 * n + 2 ^ coarseness n := by
    simpa using nearest_mul_le n 1
  have hstep := step_le h
  generalize nearest n 1 = m at hround ⊢
  omega

/-- A number that is less than half a step of the last binade below its end
is not rounded up to the end. -/
theorem nearest_lt {n d k : Nat} (h : n + d * 2 ^ k < d * 2 ^ (k + 54)) :
    nearest n d < 2 ^ (k + 54) := by
  have hd : 0 < d := by
    refine Nat.pos_of_ne_zero ?_
    rintro rfl
    simp at h
  have hquotient : n / d < 2 ^ (k + 54) := by
    refine (Nat.div_lt_iff_lt_mul hd).mpr ?_
    rw [Nat.mul_comm]
    exact Nat.lt_of_le_of_lt (Nat.le_add_right _ _) h
  have hstep : d * 2 ^ coarseness (n / d) ≤ d * 2 ^ (k + 1) :=
    Nat.mul_le_mul_left d (Nat.pow_le_pow_right (by decide) (coarseness_le hquotient))
  have hround := nearest_mul_le n d
  have hdouble : d * 2 ^ (k + 1) = 2 * (d * 2 ^ k) := by ring
  have hlt : d * nearest n d < d * 2 ^ (k + 54) := by
    rw [Nat.mul_comm d (nearest n d)]
    omega
  exact Nat.lt_of_mul_lt_mul_left hlt

/-- A number of units half a step below the bound is not rounded out of
range. -/
theorem nearest_lt_bound {n d : Nat} (h : n + d * halfStep < d * (2 ^ 54 * halfStep)) :
    nearest n d < Nat.pow 2 2098 := by
  obtain ⟨k, hk⟩ := halfStep_eq_pow
  have hpow : 2 ^ 54 * halfStep = 2 ^ (k + 54) := by rw [hk, Nat.pow_add, Nat.mul_comm]
  rw [hpow, hk] at h
  rw [bound_eq, hpow]
  exact nearest_lt h

/-! ## Amounts close to the bound -/

/-- An amount and half a step stay below the bound by seven quarters of the
last step, but for the three largest amounts. -/
theorem near_bound {units k : Nat} (hlt : units < 2 ^ (k + 54))
    (hdvd : 2 ^ coarseness units ∣ units) :
    (∃ j, 1 ≤ j ∧ j ≤ 3 ∧ units = (2 ^ 53 - j) * 2 ^ (k + 1)) ∨
      2 * units + 2 ^ coarseness units ≤ 2 * ((2 ^ 54 - 7) * 2 ^ k) := by
  have hcoarse := coarseness_le hlt
  rcases Nat.lt_or_eq_of_le hcoarse with hc | hc
  · -- in front of the last binade there is room for the whole of it
    have hunits : units < 2 ^ (53 + k) := Nat.lt_of_lt_of_le (lt_pow_coarseness units)
      (Nat.pow_le_pow_right (by decide) (by omega))
    have hstep : 2 ^ coarseness units ≤ 2 ^ k := Nat.pow_le_pow_right (by decide) (by omega)
    rw [Nat.pow_add] at hunits
    right
    omega
  · -- in the last binade the significand decides
    rw [hc] at hdvd ⊢
    obtain ⟨m, rfl⟩ := hdvd
    have hm : m < 2 ^ 53 := by
      have : 2 ^ (k + 1) * m < 2 ^ (k + 1) * 2 ^ 53 := by
        rw [← Nat.pow_add]
        exact hlt
      exact Nat.lt_of_mul_lt_mul_left this
    by_cases hclose : 2 ^ 53 - 3 ≤ m
    · refine .inl ⟨2 ^ 53 - m, by omega, by omega, ?_⟩
      rw [Nat.mul_comm, Nat.sub_sub_self (Nat.le_of_lt hm)]
    · have hprod : 2 ^ (k + 1) * m ≤ 2 ^ (k + 1) * (2 ^ 53 - 4) :=
        Nat.mul_le_mul_left _ (by omega)
      right
      rw [Nat.pow_succ] at hprod ⊢
      omega

theorem Fits.near_bound {units : Nat} (h : Fits units) :
    (∃ j, 1 ≤ j ∧ j ≤ 3 ∧ units = (2 ^ 53 - j) * (2 * halfStep)) ∨
      2 * units + 2 ^ coarseness units ≤ 2 * ((2 ^ 54 - 7) * halfStep) := by
  obtain ⟨k, hk⟩ := halfStep_eq_pow
  obtain ⟨hlt, hdvd⟩ := h
  rw [bound_eq, hk, Nat.mul_comm, ← Nat.pow_add] at hlt
  rw [hk, Nat.mul_comm 2, ← Nat.pow_succ]
  exact Binary64.near_bound hlt hdvd

end OrderDesk.Binary64
