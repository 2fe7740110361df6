/-
# `Proofs.Decimal.Nearest` — the interval of an amount holds what rounds to it

`IsNearest q units` says without any computation that no other number of
53 significant bits is as close to the rational `q` as `units` is, but for
a tie, which the even significand wins.  The numbers compared with have no
upper bound, so what is nearest to an infinity is nearest to no amount.

| | |
| :-- | :-- |
| `Spaced units`        | the number has 53 significant bits |
| `IsNearest q units`   | no such number is closer to the rational |
| `RoundsTo units q`    | the rational is in the interval of the number |
| `isNearest_iff`       | the two say the same |
| `RoundsTo.nearest_eq` | and the rounding of the program goes there |
| `RoundsTo.unique`     | so a rational rounds to one number |

The neighbours of a number carry all of it: the next larger one is one step
away, the next smaller one as well, unless the number begins a binade; then
the step in front of it is half as wide (`add_step_le`, `add_below_le`).
-/
import Mathlib.Algebra.Order.Field.Basic
import Mathlib.Algebra.Order.AbsoluteValue.Basic
import OrderDesk.Proofs.Decimal.Shortest

namespace OrderDesk

namespace Binary64

/-- The number that a number of units is. -/
def magnitude (units : Nat) : ℚ := units / unitsPerOne

/-- The numbers of 53 significant bits. -/
def Spaced (units : Nat) : Prop := 2 ^ coarseness units ∣ units

theorem Fits.spaced {units : Nat} (h : Fits units) : Spaced units := h.2

/-- No number of 53 significant bits is as close to `q`, but for a tie that
the even significand wins. -/
def IsNearest (q : ℚ) (units : Nat) : Prop :=
  ∀ v, Spaced v → v ≠ units →
    |q - magnitude units| < |q - magnitude v| ∨
      |q - magnitude units| = |q - magnitude v| ∧ units / 2 ^ coarseness units % 2 = 0

/-! ## Neighbours -/

/-- How far the next smaller number is. -/
def below (units : Nat) : Nat :=
  if coarseness units ≠ 0 ∧ units = 2 ^ (52 + coarseness units) then 2 ^ (coarseness units - 1)
  else 2 ^ coarseness units

theorem coarseness_mono {u v : Nat} (h : u ≤ v) : coarseness u ≤ coarseness v := by
  have hlog : u.log2 ≤ v.log2 := by
    by_cases hu : u = 0
    · rw [hu]
      exact Nat.zero_le _
    · exact (Nat.le_log2 (by omega)).mpr (Nat.le_trans (Nat.log2_self_le hu) h)
  rw [coarseness, coarseness]
  omega

/-- The binade of a number decides its coarseness. -/
theorem coarseness_eq {n c : Nat} (hlow : c ≠ 0 → 2 ^ (52 + c) ≤ n) (hhigh : n < 2 ^ (53 + c)) :
    coarseness n = c := by
  refine Nat.le_antisymm ?_ ?_
  · by_cases hn : coarseness n = 0
    · omega
    · have hlt := Nat.lt_of_le_of_lt (pow_coarseness_le hn) hhigh
      have := (Nat.pow_lt_pow_iff_right Nat.one_lt_two).mp hlt
      omega
  · by_cases hc : c = 0
    · omega
    · have hlt := Nat.lt_of_le_of_lt (hlow hc) (lt_pow_coarseness n)
      have := (Nat.pow_lt_pow_iff_right Nat.one_lt_two).mp hlt
      omega

/-- Multiples of one number are apart by it. -/
theorem add_le_of_dvd {a u v : Nat} (hu : a ∣ u) (hv : a ∣ v) (h : u < v) : u + a ≤ v := by
  have := Nat.le_of_dvd (Nat.sub_pos_of_lt h) (Nat.dvd_sub hv hu)
  omega

section Neighbours

variable {u v : Nat}

theorem add_step_le (hu : Spaced u) (hv : Spaced v) (h : u < v) : u + 2 ^ coarseness u ≤ v := by
  refine add_le_of_dvd hu (Nat.dvd_trans ?_ hv) h
  exact Nat.pow_dvd_pow 2 (coarseness_mono (Nat.le_of_lt h))

/-- The step is at most to the end of the binade. -/
theorem add_step_le_end (hu : Spaced u) : u + 2 ^ coarseness u ≤ 2 ^ (53 + coarseness u) :=
  add_le_of_dvd hu (Nat.pow_dvd_pow 2 (Nat.le_add_left _ _)) (lt_pow_coarseness u)

theorem below_le_step (u : Nat) : below u ≤ 2 ^ coarseness u := by
  rw [below]
  split
  · exact Nat.pow_le_pow_right Nat.two_pos (Nat.sub_le _ _)
  · exact Nat.le_refl _

theorem below_pos (u : Nat) : 0 < below u := by
  rw [below]
  split <;> exact Nat.two_pow_pos _

theorem add_below_le (hu : Spaced u) (hv : Spaced v) (h : v < u) : v + below u ≤ u := by
  rcases Nat.lt_or_eq_of_le (coarseness_mono (Nat.le_of_lt h)) with hlt | heq
  · -- the smaller number is of an earlier binade
    have hc : coarseness u ≠ 0 := by omega
    have hbinade : 2 ^ (53 + coarseness v) ≤ 2 ^ (52 + coarseness u) :=
      Nat.pow_le_pow_right Nat.two_pos (by omega)
    have hend := add_step_le_end hv
    have hpos := Nat.two_pow_pos (coarseness v)
    by_cases hfirst : u = 2 ^ (52 + coarseness u)
    · rw [below, if_pos ⟨hc, hfirst⟩]
      by_cases hnext : coarseness v = coarseness u - 1
      · rw [← hnext]
        omega
      · have hhalf : 2 ^ (53 + coarseness v) ≤ 2 ^ (51 + coarseness u) :=
          Nat.pow_le_pow_right Nat.two_pos (by omega)
        have hstep : 2 ^ (coarseness u - 1) ≤ 2 ^ (51 + coarseness u) :=
          Nat.pow_le_pow_right Nat.two_pos (by omega)
        have hdouble : 2 ^ (52 + coarseness u) = 2 * 2 ^ (51 + coarseness u) := by
          rw [← Nat.pow_succ']
          congr 1
          omega
        omega
    · have hle := pow_coarseness_le hc
      have hstart : 2 ^ (52 + coarseness u) + 2 ^ coarseness u ≤ u :=
        add_le_of_dvd (Nat.pow_dvd_pow 2 (Nat.le_add_left _ _)) hu (by omega)
      have := below_le_step u
      omega
  · rw [Spaced, heq] at hv
    exact Nat.le_trans (Nat.add_le_add_left (below_le_step u) v) (add_le_of_dvd hv hu h)

theorem spaced_add_step (hu : Spaced u) : Spaced (u + 2 ^ coarseness u) := by
  rcases Nat.lt_or_eq_of_le (add_step_le_end hu) with hlt | heq
  · have hc : coarseness (u + 2 ^ coarseness u) = coarseness u := by
      refine coarseness_eq ?_ hlt
      intro hne
      exact Nat.le_trans (pow_coarseness_le hne) (Nat.le_add_right _ _)
    rw [Spaced, hc]
    exact Nat.dvd_add hu (Nat.dvd_refl _)
  · have hc : coarseness (2 ^ (53 + coarseness u)) = coarseness u + 1 := by
      refine coarseness_eq ?_ (Nat.pow_lt_pow_right Nat.one_lt_two (by omega))
      intro _
      exact Nat.pow_le_pow_right Nat.two_pos (by omega)
    rw [heq, Spaced, hc]
    exact Nat.pow_dvd_pow 2 (by omega)

theorem below_le (hu : Spaced u) (h : 0 < u) : below u ≤ u := by
  have := add_below_le hu (v := 0) (by rw [Spaced]; exact Nat.dvd_zero _) h
  omega

theorem spaced_sub_below (hu : Spaced u) (h : 0 < u) : Spaced (u - below u) := by
  have hlt := lt_pow_coarseness u
  by_cases hfirst : coarseness u ≠ 0 ∧ u = 2 ^ (52 + coarseness u)
  · -- the number in front is the last one of the binade below
    obtain ⟨c, hc⟩ := Nat.exists_eq_succ_of_ne_zero hfirst.1
    have hu' : u = 2 ^ 53 * 2 ^ c := by
      rw [← Nat.pow_add, hfirst.2, hc]
      congr 1
      omega
    have hdiff : u - below u = (2 ^ 53 - 1) * 2 ^ c := by
      rw [below, if_pos hfirst, hc, Nat.succ_sub_one, hu', Nat.sub_mul, Nat.one_mul]
    have hc' : coarseness ((2 ^ 53 - 1) * 2 ^ c) = c := by
      refine coarseness_eq ?_ ?_
      · intro _
        rw [Nat.pow_add]
        exact Nat.mul_le_mul_right _ (by decide)
      · rw [Nat.pow_add]
        exact Nat.mul_lt_mul_of_pos_right (by decide) (Nat.pow_pos (by decide))
    rw [hdiff, Spaced, hc']
    exact Nat.dvd_mul_left _ _
  · have hc : coarseness (u - below u) = coarseness u := by
      refine coarseness_eq ?_ (by omega)
      intro hne
      rw [below, if_neg hfirst]
      have hle := pow_coarseness_le hne
      have := add_le_of_dvd (Nat.pow_dvd_pow 2 (Nat.le_add_left (coarseness u) 52)) hu
        (Nat.lt_of_le_of_ne hle fun heq => hfirst ⟨hne, heq.symm⟩)
      omega
    rw [Spaced, hc, below, if_neg hfirst]
    exact Nat.dvd_sub hu (Nat.dvd_refl _)

end Neighbours

end Binary64

namespace Decimal

open Binary64 (unitsPerOne coarseness Spaced below magnitude IsNearest nearest)

/-! ## Intervals -/

/-- Membership of a rational, in quarters of a unit. -/
def Interval.Holds (i : Interval) (x : ℚ) : Prop :=
  if i.closed then i.low ≤ x ∧ x ≤ i.high else i.low < x ∧ x < i.high

/-- The rational is one of those that round to the units. -/
def RoundsTo (units : Nat) (q : ℚ) : Prop := (Interval.of units).Holds (q * quarters)

theorem Interval.contains_iff {i : Interval} {n d : Nat} (hd : 0 < d) :
    i.contains n d = true ↔ i.Holds (n / d) := by
  have hpos : (0 : ℚ) < d := by exact_mod_cast hd
  rw [contains, Holds]
  split
  · simp only [Bool.and_eq_true, decide_eq_true_eq, le_div_iff₀ hpos, div_le_iff₀ hpos]
    exact_mod_cast Iff.rfl
  · simp only [Bool.and_eq_true, decide_eq_true_eq, lt_div_iff₀ hpos, div_lt_iff₀ hpos]
    exact_mod_cast Iff.rfl

/-- What lies between two members is a member. -/
theorem Interval.Holds.between {i : Interval} {x y z : ℚ} (hx : i.Holds x) (hz : i.Holds z)
    (hxy : x ≤ y) (hyz : y ≤ z) : i.Holds y := by
  rw [Holds] at hx hz ⊢
  split at hx
  · next h =>
      rw [if_pos h] at hz ⊢
      exact ⟨le_trans hx.1 hxy, le_trans hyz hz.2⟩
  · next h =>
      rw [if_neg h] at hz ⊢
      exact ⟨lt_of_lt_of_le hx.1 hxy, lt_of_le_of_lt hyz hz.2⟩

/-- The ends are members of a closed interval only. -/
theorem Interval.holds_iff {i : Interval} {x : ℚ} :
    i.Holds x ↔ (i.low < x ∨ i.low = x ∧ i.closed = true) ∧
      (x < i.high ∨ x = i.high ∧ i.closed = true) := by
  rw [Holds]
  split
  · next h => simp only [h, and_true, le_iff_lt_or_eq]
  · next h => simp only [h, and_false, or_false, Bool.false_eq_true]

theorem Interval.Holds.bounds {i : Interval} {x : ℚ} (h : i.Holds x) :
    (i.low : ℚ) ≤ x ∧ x ≤ i.high := by
  rw [Holds] at h
  split at h
  · exact h
  · exact ⟨le_of_lt h.1, le_of_lt h.2⟩

theorem Interval.holds_of_lt {i : Interval} {x : ℚ} (hlow : i.low < x) (hhigh : x < i.high) :
    i.Holds x := by
  rw [Holds]
  split
  · exact ⟨le_of_lt hlow, le_of_lt hhigh⟩
  · exact ⟨hlow, hhigh⟩

theorem Interval.low_of {units : Nat} :
    (Interval.of units).low = 4 * units - 2 * below units := by
  simp only [Interval.of, below, Nat.pow_eq]
  split
  · next h =>
      obtain ⟨c, hc⟩ := Nat.exists_eq_succ_of_ne_zero h.1
      rw [hc, Nat.succ_sub_one, Nat.pow_succ, Nat.mul_comm (2 ^ c) 2]
  · rfl

theorem Interval.closed_iff {units : Nat} :
    (Interval.of units).closed = true ↔ units / 2 ^ coarseness units % 2 = 0 :=
  beq_iff_eq

/-! ## Closeness -/

section Closeness

variable {a b x : ℚ}

/-- The middle decides which of two numbers is closer. -/
theorem closer_left_iff (h : a < b) : |x - a| < |x - b| ↔ 2 * x < a + b := by
  rw [← sq_lt_sq]
  constructor
  · intro hsq
    by_contra hle
    nlinarith [mul_nonneg (sub_nonneg.mpr (not_lt.mp hle)) (le_of_lt (sub_pos.mpr h))]
  · intro hlt
    nlinarith [mul_pos (sub_pos.mpr hlt) (sub_pos.mpr h)]

theorem closer_right_iff (h : a < b) : |x - b| < |x - a| ↔ a + b < 2 * x := by
  have hflip : |-x - -b| < |-x - -a| ↔ 2 * -x < -b + -a := closer_left_iff (neg_lt_neg h)
  rw [neg_sub_neg, neg_sub_neg, abs_sub_comm b, abs_sub_comm a] at hflip
  rw [hflip]
  constructor
  · intro hlt
    linarith
  · intro hlt
    linarith

theorem equally_close_iff (h : a < b) : |x - a| = |x - b| ↔ 2 * x = a + b := by
  rw [eq_iff_le_not_lt, ← not_lt, closer_left_iff h, closer_right_iff h, eq_iff_le_not_lt, not_lt]

theorem magnitude_mul (units : Nat) : magnitude units * unitsPerOne = units :=
  div_mul_cancel₀ _ (by exact_mod_cast Nat.ne_of_gt Binary64.unitsPerOne_pos)

theorem magnitude_quarters (units : Nat) : magnitude units * quarters = 4 * units := by
  rw [quarters, Nat.cast_mul, mul_left_comm, magnitude_mul, Nat.cast_ofNat]

/-- Closeness is the same in quarters of a unit. -/
theorem abs_sub_magnitude (q : ℚ) (units : Nat) :
    |q - magnitude units| * quarters = |q * quarters - 4 * units| := by
  have hquarters : (0 : ℚ) ≤ quarters := Nat.cast_nonneg _
  rw [← magnitude_quarters, ← sub_mul, abs_mul, abs_of_nonneg hquarters]

theorem quarters_pos : (0 : ℚ) < quarters := by
  exact_mod_cast Nat.mul_pos (by decide : 0 < 4) Binary64.unitsPerOne_pos

/-- The units win against others exactly in front of the middle. -/
theorem wins_larger_iff {q : ℚ} {u v : Nat} {even : Prop} (h : u < v) :
    (|q - magnitude u| < |q - magnitude v| ∨ |q - magnitude u| = |q - magnitude v| ∧ even) ↔
      q * quarters < 2 * u + 2 * v ∨ q * quarters = 2 * u + 2 * v ∧ even := by
  have hlt : (4 * u : ℚ) < 4 * v := by exact_mod_cast (by omega : 4 * u < 4 * v)
  rw [← mul_lt_mul_iff_of_pos_right quarters_pos, ← mul_left_inj' (ne_of_gt quarters_pos),
    abs_sub_magnitude, abs_sub_magnitude, closer_left_iff hlt, equally_close_iff hlt]
  constructor
  · rintro (hx | ⟨hx, heven⟩)
    · exact .inl (by linarith)
    · exact .inr ⟨by linarith, heven⟩
  · rintro (hx | ⟨hx, heven⟩)
    · exact .inl (by linarith)
    · exact .inr ⟨by linarith, heven⟩

theorem wins_smaller_iff {q : ℚ} {u v : Nat} {even : Prop} (h : v < u) :
    (|q - magnitude u| < |q - magnitude v| ∨ |q - magnitude u| = |q - magnitude v| ∧ even) ↔
      2 * v + 2 * u < q * quarters ∨ 2 * v + 2 * u = q * quarters ∧ even := by
  have hlt : (4 * v : ℚ) < 4 * u := by exact_mod_cast (by omega : 4 * v < 4 * u)
  rw [← mul_lt_mul_iff_of_pos_right quarters_pos, ← mul_left_inj' (ne_of_gt quarters_pos),
    abs_sub_magnitude, abs_sub_magnitude, closer_right_iff hlt,
    eq_comm (a := |q * quarters - 4 * u|), equally_close_iff hlt]
  constructor
  · rintro (hx | ⟨hx, heven⟩)
    · exact .inl (by linarith)
    · exact .inr ⟨by linarith, heven⟩
  · rintro (hx | ⟨hx, heven⟩)
    · exact .inl (by linarith)
    · exact .inr ⟨by linarith, heven⟩

end Closeness

/-- The ends of the interval are the middles between a number and its neighbours. -/
theorem Interval.high_middle (u : Nat) :
    ((Interval.of u).high : ℚ) = 2 * u + 2 * (u + 2 ^ coarseness u : Nat) := by
  rw [Interval.high_of]
  push_cast
  ring

theorem Interval.low_middle {u : Nat} (hu : Spaced u) (hpos : 0 < u) :
    ((Interval.of u).low : ℚ) = 2 * (u - below u : Nat) + 2 * u := by
  have hle := Binary64.below_le hu hpos
  have hnat : (Interval.of u).low = 2 * (u - below u) + 2 * u := by
    rw [Interval.low_of]
    omega
  rw [hnat]
  push_cast
  rfl

theorem Interval.low_zero : ((Interval.of 0).low : ℚ) = 0 := by
  rw [Interval.low_of, Nat.mul_zero, Nat.zero_sub, Nat.cast_zero]

/-- What a number is nearest to lies between the middles, for the number wins
against its neighbours. -/
theorem IsNearest.roundsTo {u : Nat} {q : ℚ} (hu : Spaced u) (hq : 0 ≤ q)
    (h : IsNearest q u) : RoundsTo u q := by
  rw [RoundsTo, Interval.holds_iff, Interval.closed_iff]
  constructor
  · rcases Nat.eq_zero_or_pos u with rfl | hpos
    · rw [Interval.low_zero]
      rcases lt_or_eq_of_le (mul_nonneg hq (le_of_lt quarters_pos)) with hx | hx
      · exact .inl hx
      · exact .inr ⟨hx, by rw [Nat.zero_div]⟩
    · have hlt : u - below u < u := Nat.sub_lt hpos (Binary64.below_pos u)
      rw [Interval.low_middle hu hpos]
      exact (wins_smaller_iff hlt).mp
        (h _ (Binary64.spaced_sub_below hu hpos) (Nat.ne_of_lt hlt))
  · have hlt : u < u + 2 ^ coarseness u := Nat.lt_add_of_pos_right (Nat.two_pow_pos _)
    rw [Interval.high_middle]
    exact (wins_larger_iff hlt).mp (h _ (Binary64.spaced_add_step hu) (Nat.ne_of_gt hlt))

/-- Between the middles a number wins against all others, for these lie beyond
its neighbours. -/
theorem RoundsTo.isNearest {u : Nat} {q : ℚ} (hu : Spaced u) (h : RoundsTo u q) :
    IsNearest q u := by
  rw [RoundsTo, Interval.holds_iff, Interval.closed_iff] at h
  obtain ⟨hleft, hright⟩ := h
  intro v hv hne
  rcases Nat.lt_or_gt_of_ne hne with hlt | hlt
  · have hpos : 0 < u := by omega
    have hle : (v : ℚ) ≤ (u - below u : Nat) := by
      exact_mod_cast Nat.le_sub_of_add_le (Binary64.add_below_le hu hv hlt)
    rw [Interval.low_middle hu hpos] at hleft
    rw [wins_smaller_iff hlt]
    rcases hleft with hx | ⟨hx, heven⟩
    · exact .inl (by linarith)
    · -- On the middle only the neighbour itself is as close.
      rcases lt_or_eq_of_le hle with hle | hle
      · exact .inl (by linarith)
      · exact .inr ⟨by linarith, heven⟩
  · have hle : ((u + 2 ^ coarseness u : Nat) : ℚ) ≤ v := by
      exact_mod_cast Binary64.add_step_le hu hv hlt
    rw [Interval.high_middle] at hright
    rw [wins_larger_iff hlt]
    rcases hright with hx | ⟨hx, heven⟩
    · exact .inl (by linarith)
    · rcases lt_or_eq_of_le hle with hle | hle
      · exact .inl (by linarith)
      · exact .inr ⟨by linarith, heven⟩

/-- The interval of a number is what it is nearest to. -/
theorem isNearest_iff {u : Nat} {q : ℚ} (hu : Spaced u) (hq : 0 ≤ q) :
    IsNearest q u ↔ RoundsTo u q :=
  ⟨IsNearest.roundsTo hu hq, RoundsTo.isNearest hu⟩

/-! ## The rounding of the program -/

/-- Half a step to either side decides the rounding to a whole number. -/
theorem roundHalfEven_eq {n d k : Nat} (hd : 0 < d) (hlow : 2 * (k * d) ≤ 2 * n + d)
    (hhigh : 2 * n ≤ 2 * (k * d) + d)
    (htie : 2 * (k * d) = 2 * n + d ∨ 2 * n = 2 * (k * d) + d → k % 2 = 0) :
    Binary64.roundHalfEven n d = k := by
  have hmod := Nat.div_add_mod' n d
  have hlt := Nat.mod_lt n hd
  rw [Binary64.roundHalfEven]
  by_cases hle : k * d ≤ n
  · -- `k` is the quotient, and the rest is too small to round up
    have hk : n / d = k := by
      refine Nat.div_eq_of_lt_le hle ?_
      rw [Nat.add_one_mul]
      omega
    rw [hk] at hmod ⊢
    refine if_neg ?_
    rintro (h | ⟨h, hodd⟩)
    · omega
    · have := htie (.inr (by omega))
      omega
  · obtain ⟨j, rfl⟩ : ∃ j, k = j + 1 := Nat.exists_eq_succ_of_ne_zero (by
      rintro rfl
      omega)
    rw [Nat.add_one_mul j d] at hlow htie hle
    -- the quotient is one less, and the rest rounds up
    have hj : n / d = j := by
      refine Nat.div_eq_of_lt_le (by omega) ?_
      rw [Nat.add_one_mul]
      omega
    rw [hj] at hmod ⊢
    refine if_pos ?_
    by_cases htwice : 2 * (n % d) = d
    · have := htie (.inl (by omega))
      exact .inr ⟨htwice, by omega⟩
    · exact .inl (by omega)

/-- A number that is an end of its interval has an even significand. -/
theorem Interval.closed_of_contains {i : Interval} {n d : Nat} (h : i.contains n d = true)
    (hend : i.low * d = n ∨ n = i.high * d) : i.closed = true := by
  by_contra hopen
  rw [contains, if_neg hopen] at h
  simp only [Bool.and_eq_true, decide_eq_true_eq] at h
  omega

/-- Rounding in a known binade. -/
theorem nearest_of_coarseness {n d c k : Nat} (hd : 0 < d) (hc : coarseness (n / d) = c)
    (hlow : 2 * (k * 2 ^ c * d) ≤ 2 * n + 2 ^ c * d)
    (hhigh : 2 * n ≤ 2 * (k * 2 ^ c * d) + 2 ^ c * d)
    (htie : 2 * (k * 2 ^ c * d) = 2 * n + 2 ^ c * d ∨ 2 * n = 2 * (k * 2 ^ c * d) + 2 ^ c * d →
      k % 2 = 0) :
    nearest n d = k * 2 ^ c := by
  rw [Nat.mul_assoc, Nat.mul_comm _ d] at hlow hhigh htie
  rw [nearest, hc]
  exact congrArg (· * 2 ^ c) (roundHalfEven_eq (Nat.mul_pos hd (Nat.two_pow_pos c)) hlow hhigh htie)

theorem Interval.low_add {u : Nat} (hu : Spaced u) (hpos : 0 < u) :
    (Interval.of u).low + 2 * below u = 4 * u := by
  have := Binary64.below_le hu hpos
  rw [low_of]
  omega

section Rounding

variable {n d u : Nat}

/-- The number is the rounding of what is in its binade, and of what is in
front of it if the step is the same there. -/
theorem nearest_eq_of_binade (hd : 0 < d) (hu : Spaced u)
    (hstart : coarseness u ≠ 0 → 2 ^ (52 + coarseness u) * d ≤ n)
    (hbelow : u * d ≤ n ∨ below u = 2 ^ coarseness u)
    (h : (Interval.of u).contains (4 * n) d = true) : nearest n d = u := by
  obtain ⟨hleft, hright⟩ := Interval.contains_bounds h
  have hclosed := Interval.closed_of_contains h
  rw [Interval.closed_iff] at hclosed
  rw [Interval.high_of, Nat.add_mul, Nat.mul_assoc, Nat.mul_assoc] at hright hclosed
  have hstep : 0 < 2 ^ coarseness u * d := Nat.mul_pos (Nat.two_pow_pos _) hd
  -- The quotient is in the binade of `u`, so what is rounded to are the steps of `u`.
  have hc : coarseness (n / d) = coarseness u := by
    refine Binary64.coarseness_eq ?_ ?_
    · intro hne
      exact (Nat.le_div_iff_mul_le hd).mpr (hstart hne)
    · have hend := Nat.mul_le_mul_right d (Binary64.add_step_le_end hu)
      rw [Nat.add_mul] at hend
      rw [Nat.div_lt_iff_lt_mul hd]
      omega
  have hround := nearest_of_coarseness (k := u / 2 ^ coarseness u) hd hc
  rw [Nat.div_mul_cancel hu] at hround
  rcases hbelow with hle | hbelow
  · refine hround (by omega) (by omega) ?_
    intro htie
    exact hclosed (by omega)
  · rcases Nat.eq_zero_or_pos u with rfl | hpos
    · exact hround (by omega) (by omega) fun _ => by rw [Nat.zero_div]
    · have hlow := congrArg (· * d) (Interval.low_add hu hpos)
      simp only [hbelow, Nat.add_mul, Nat.mul_assoc] at hlow
      refine hround (by omega) (by omega) ?_
      intro htie
      exact hclosed (by omega)

/-- In front of the first number of a binade the steps are half as wide,
and it is an even number of them. -/
theorem nearest_eq_of_first {c : Nat} (hd : 0 < d) (hu : Spaced u)
    (hbelow : below u = 2 ^ c) (hfirst : u = 2 ^ 53 * 2 ^ c) (hlt : n < u * d)
    (h : (Interval.of u).contains (4 * n) d = true) : nearest n d = u := by
  have hleft := (Interval.contains_bounds h).1
  have hpos : 0 < u := Nat.pos_of_ne_zero (by
    rintro rfl
    omega)
  have hlow := congrArg (· * d) (Interval.low_add hu hpos)
  simp only [hbelow, Nat.add_mul, Nat.mul_assoc] at hlow
  have hscaled : u * d = 2 ^ 53 * (2 ^ c * d) := by rw [hfirst, Nat.mul_assoc]
  have hc : coarseness (n / d) = c := by
    refine Binary64.coarseness_eq ?_ ?_
    · intro _
      rw [Nat.le_div_iff_mul_le hd, Nat.pow_add, Nat.mul_assoc]
      omega
    · rwa [Nat.div_lt_iff_lt_mul hd, Nat.pow_add, ← hfirst]
  have hround := nearest_of_coarseness (k := 2 ^ 53) hd hc
  rw [← hfirst] at hround
  exact hround (by omega) (by omega) fun _ => rfl

/-- What is nearest to a quotient of naturals is what the program rounds it
to. -/
theorem nearest_eq (hd : 0 < d) (hu : Spaced u)
    (h : (Interval.of u).contains (4 * n) d = true) : nearest n d = u := by
  have hleft := (Interval.contains_bounds h).1
  by_cases hle : u * d ≤ n
  · refine nearest_eq_of_binade hd hu ?_ (.inl hle) h
    intro hne
    exact Nat.le_trans (Nat.mul_le_mul_right d (Binary64.pow_coarseness_le hne)) hle
  have hpos : 0 < u := Nat.pos_of_ne_zero (by
    rintro rfl
    omega)
  by_cases hfirst : coarseness u ≠ 0 ∧ u = 2 ^ (52 + coarseness u)
  · obtain ⟨c, hc⟩ := Nat.exists_eq_succ_of_ne_zero hfirst.1
    have hbelow : below u = 2 ^ c := by rw [below, if_pos hfirst, hc, Nat.succ_sub_one]
    have hstart : u = 2 ^ 53 * 2 ^ c := by
      rw [← Nat.pow_add, hfirst.2, hc, Nat.succ_eq_add_one, Nat.add_comm c 1, ← Nat.add_assoc]
    exact nearest_eq_of_first hd hu hbelow hstart (Nat.lt_of_not_le hle) h
  · have hbelow : below u = 2 ^ coarseness u := if_neg hfirst
    refine nearest_eq_of_binade hd hu ?_ (.inr hbelow) h
    intro hne
    have hbinade : 2 ^ (52 + coarseness u) + 2 ^ coarseness u ≤ u :=
      Binary64.add_le_of_dvd (Nat.pow_dvd_pow 2 (Nat.le_add_left _ _)) hu
        (Nat.lt_of_le_of_ne (Binary64.pow_coarseness_le hne) fun heq => hfirst ⟨hne, heq.symm⟩)
    have hscaled := Nat.mul_le_mul_right d hbinade
    have hlow := congrArg (· * d) (Interval.low_add hu hpos)
    simp only [hbelow, Nat.add_mul, Nat.mul_assoc] at hlow hscaled
    omega

/-- The same of a rational, which is a quotient of naturals. -/
theorem RoundsTo.nearest_eq {q : ℚ} (h : RoundsTo u q) (hd : 0 < d) (hu : Spaced u)
    (hq : q * unitsPerOne = n / d) : nearest n d = u := by
  have hquarters : q * quarters = (4 * n : Nat) / d := by
    rw [quarters, Nat.cast_mul, mul_left_comm, hq]
    push_cast
    ring
  refine Decimal.nearest_eq hd hu (Interval.contains_iff hd |>.mpr ?_)
  rw [← hquarters]
  exact h

/-- What lies between two rationals that round to a number rounds to it. -/
theorem RoundsTo.between {p q r : ℚ} (hp : RoundsTo u p) (hr : RoundsTo u r) (hpq : p ≤ q)
    (hqr : q ≤ r) : RoundsTo u q :=
  Interval.Holds.between hp hr (mul_le_mul_of_nonneg_right hpq (le_of_lt quarters_pos))
    (mul_le_mul_of_nonneg_right hqr (le_of_lt quarters_pos))

/-- A rational rounds to one number only. -/
theorem RoundsTo.unique {v : Nat} {q : ℚ} (h : RoundsTo u q) (h' : RoundsTo v q) (hu : Spaced u)
    (hv : Spaced v) (hq : 0 ≤ q) : u = v := by
  have hquotient : q * unitsPerOne = (q.num.toNat * unitsPerOne : Nat) / q.den := by
    have hnum : ((q.num.toNat : Nat) : ℚ) = q.num := by
      exact_mod_cast Int.toNat_of_nonneg (Rat.num_nonneg.mpr hq)
    rw [Nat.cast_mul, hnum, mul_div_right_comm, Rat.num_div_den]
  rw [← h.nearest_eq q.den_pos hu hquotient, h'.nearest_eq q.den_pos hv hquotient]

/-- A number rounds to itself. -/
theorem roundsTo_magnitude (u : Nat) : RoundsTo u (magnitude u) := by
  have hlow := Binary64.below_pos u
  have hstep := Nat.two_pow_pos (coarseness u)
  rw [RoundsTo, magnitude_quarters]
  rcases Nat.eq_zero_or_pos u with rfl | hpos
  · simp [Interval.Holds, Interval.of]
  · refine Interval.holds_of_lt ?_ ?_
    · rw [Interval.low_of]
      exact_mod_cast (by omega : 4 * u - 2 * below u < 4 * u)
    · rw [Interval.high_of]
      exact_mod_cast (by omega : 4 * u < 4 * u + 2 * 2 ^ coarseness u)

theorem nearest_spaced (hu : Spaced u) : nearest u 1 = u := by
  refine (roundsTo_magnitude u).nearest_eq Nat.one_pos hu ?_
  rw [magnitude_mul, Nat.cast_one, div_one]

end Rounding

end Decimal

end OrderDesk
