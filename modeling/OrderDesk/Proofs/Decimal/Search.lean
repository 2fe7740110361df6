/-
# `Proofs.Decimal.Search` — what the search for digits finds

The search begins at the power of ten of the first digit and ends at the
first grid with a point that rounds to the amount.  It always ends there:
seventeen digits behind the first one are closer together than the numbers
of 53 significant bits (`search_found`).

Of a grid only the two neighbours of the amount matter, since the numbers
that round to it lie together (`roundsTo_neighbour`).

| | |
| :-- | :-- |
| `leading_spec`        | the search begins at the first digit |
| `Found units lead e`  | it passes the grids in front of the one at `e` |
| `shortest_roundsTo`   | what it finds rounds to the amount |
| `exists_decade`       | and is in the decade of the amount, or at its end |
-/
import Mathlib.Tactic.NormNum
import OrderDesk.Proofs.Decimal.Digits
import OrderDesk.Proofs.Decimal.Nearest

namespace OrderDesk.Decimal

open Binary64 (Fits Spaced IsNearest magnitude unitsPerOne coarseness)

theorem ten_zpow_pos (e : Int) : (0 : ℚ) < 10 ^ e := zpow_pos (by norm_num) e

theorem ten_zpow_le {e f : Int} (h : e ≤ f) : (10 ^ e : ℚ) ≤ 10 ^ f :=
  zpow_le_zpow_right₀ (by norm_num) h

/-! ## Grids -/

/-- The last point of the grid that is not above the amount. -/
def gridBelow (units : Nat) (e : Int) : Nat := 4 * units * (gridStep e).2 / (gridStep e).1

section Grids

/-- Points of a grid and multiples of the amount are compared as the
numbers they are. -/
theorem grid_lt_eq_iff (units : Nat) (e : Int) (k d : Nat) :
    (k * (4 * units * (gridStep e).2) < d * (gridStep e).1 ↔
      (k * magnitude units : ℚ) < d * 10 ^ e) ∧
    (k * (4 * units * (gridStep e).2) = d * (gridStep e).1 ↔
      (k * magnitude units : ℚ) = d * 10 ^ e) := by
  have hpos : (0 : ℚ) < quarters * (gridStep e).2 :=
    mul_pos quarters_pos (by exact_mod_cast gridStep_pos e)
  have hvalue : ((k * (4 * units * (gridStep e).2) : Nat) : ℚ) =
      k * magnitude units * (quarters * (gridStep e).2) := by
    push_cast
    rw [← magnitude_quarters]
    ring
  have hpoint : ((d * (gridStep e).1 : Nat) : ℚ) = d * 10 ^ e * (quarters * (gridStep e).2) := by
    rw [Nat.cast_mul, gridStep_eq]
    ring
  rw [← Nat.cast_lt (α := ℚ), ← Nat.cast_inj (R := ℚ), hvalue, hpoint,
    mul_lt_mul_iff_of_pos_right hpos, mul_left_inj' (ne_of_gt hpos)]
  exact ⟨Iff.rfl, Iff.rfl⟩

theorem grid_lt_iff (units : Nat) (e : Int) (k d : Nat) :
    k * (4 * units * (gridStep e).2) < d * (gridStep e).1 ↔
      (k * magnitude units : ℚ) < d * 10 ^ e :=
  (grid_lt_eq_iff units e k d).1

theorem grid_le_iff (units : Nat) (e : Int) (k d : Nat) :
    d * (gridStep e).1 ≤ k * (4 * units * (gridStep e).2) ↔
      (d * 10 ^ e : ℚ) ≤ k * magnitude units := by
  rw [← not_lt, grid_lt_iff, not_lt]

variable {units : Nat} {e : Int}

theorem reaches_iff : reaches units e = true ↔ (10 ^ e : ℚ) ≤ magnitude units := by
  have h := grid_le_iff units e 1 1
  rw [Nat.one_mul, Nat.one_mul, Nat.cast_one, one_mul, one_mul] at h
  rw [reaches, decide_eq_true_eq]
  exact h

theorem gridStep_fst_pos (e : Int) : 0 < (gridStep e).1 := by
  have hpos : (0 : ℚ) < (gridStep e).1 := by
    rw [gridStep_eq]
    exact mul_pos (mul_pos (ten_zpow_pos e) quarters_pos) (by exact_mod_cast gridStep_pos e)
  exact_mod_cast hpos

theorem gridBelow_le (units : Nat) (e : Int) :
    (gridBelow units e * 10 ^ e : ℚ) ≤ magnitude units := by
  have h := grid_le_iff units e 1 (gridBelow units e)
  rw [Nat.one_mul, Nat.cast_one, one_mul] at h
  exact h.mp (Nat.div_mul_le_self _ _)

theorem lt_gridBelow (units : Nat) (e : Int) :
    magnitude units < ((gridBelow units e + 1 : Nat) * 10 ^ e : ℚ) := by
  have h := grid_lt_iff units e 1 (gridBelow units e + 1)
  rw [Nat.one_mul, Nat.cast_one, one_mul] at h
  refine h.mp ?_
  rw [Nat.mul_comm (gridBelow units e + 1)]
  exact Nat.lt_mul_div_succ _ (gridStep_fst_pos e)

/-- A point of the grid that is not above the amount is at most that one. -/
theorem le_gridBelow {d : Nat} (h : (d * 10 ^ e : ℚ) ≤ magnitude units) :
    d ≤ gridBelow units e := by
  have hlt := lt_of_le_of_lt h (lt_gridBelow units e)
  have := lt_of_mul_lt_mul_right hlt (le_of_lt (ten_zpow_pos e))
  exact Nat.le_of_lt_succ (by exact_mod_cast this)

theorem contains_grid (d : Nat) :
    (Interval.of units).contains (d * (gridStep e).1) (gridStep e).2 = true ↔
      RoundsTo units (d * 10 ^ e) := by
  have hne : ((gridStep e).2 : ℚ) ≠ 0 := by exact_mod_cast Nat.ne_of_gt (gridStep_pos e)
  rw [Interval.contains_iff (gridStep_pos e), RoundsTo, Nat.cast_mul, gridStep_eq, ← mul_assoc,
    mul_div_cancel_right₀ _ hne, mul_assoc]

/-- If any point of a grid rounds to the amount, a neighbour of the amount
does. -/
theorem roundsTo_neighbour {d : Nat} (h : RoundsTo units (d * 10 ^ e)) :
    RoundsTo units (gridBelow units e * 10 ^ e) ∨
      RoundsTo units ((gridBelow units e + 1 : Nat) * 10 ^ e) := by
  have hself := roundsTo_magnitude units
  have hpow := le_of_lt (ten_zpow_pos e)
  rcases le_or_gt (d * 10 ^ e : ℚ) (magnitude units) with hle | hgt
  · have hd : (d : ℚ) ≤ gridBelow units e := by exact_mod_cast le_gridBelow hle
    exact .inl (h.between hself (mul_le_mul_of_nonneg_right hd hpow) (gridBelow_le units e))
  · have hlt := lt_of_mul_lt_mul_right (lt_of_le_of_lt (gridBelow_le units e) hgt) hpow
    have hd : ((gridBelow units e + 1 : Nat) : ℚ) ≤ d := by exact_mod_cast hlt
    exact .inr (hself.between h (le_of_lt (lt_gridBelow units e))
      (mul_le_mul_of_nonneg_right hd hpow))

/-- A grid without a point for the search has no number that rounds to the
amount. -/
theorem onGrid?_eq_none_iff {tie : Tie} :
    onGrid? tie units e = none ↔ ∀ d : Nat, ¬ RoundsTo units (d * 10 ^ e) := by
  constructor
  · intro h d hd
    simp only [onGrid?] at h
    split at h
    · cases h
    · cases h
    · next hleft hright =>
        rcases roundsTo_neighbour hd with hd | hd
        · exact Bool.false_ne_true (hleft.symm.trans ((contains_grid _).mpr hd))
        · exact Bool.false_ne_true (hright.symm.trans ((contains_grid _).mpr hd))
    · split at h
      · cases h
      split at h
      · cases h
      split at h
      · cases h
      · split at h <;> cases h
  · intro h
    cases hsome : onGrid? tie units e with
    | none => rfl
    | some d => exact absurd ((contains_grid d).mp (onGrid?_contains hsome)) (h d)

/-- The point that is taken is a neighbour of the amount and rounds to it. -/
theorem onGrid?_some {tie : Tie} {d : Nat} (h : onGrid? tie units e = some d) :
    RoundsTo units (d * 10 ^ e) ∧ (d = gridBelow units e ∨ d = gridBelow units e + 1) := by
  refine ⟨(contains_grid d).mp (onGrid?_contains h), ?_⟩
  simp only [onGrid?] at h
  split at h
  · exact .inl (Option.some.inj h).symm
  · exact .inr (Option.some.inj h).symm
  · cases h
  · split at h
    · exact .inl (Option.some.inj h).symm
    split at h
    · exact .inr (Option.some.inj h).symm
    split at h
    · exact .inr (Option.some.inj h).symm
    · split at h
      · exact .inl (Option.some.inj h).symm
      · exact .inr (Option.some.inj h).symm

end Grids

/-! ## The first digit -/

section Leading

variable {units : Nat}

/-- Downwards from a power of ten above the amount, the first one that it
reaches is found, if the fuel lasts until then. -/
theorem leading_spec (fuel : Nat) {e : Int} (hlt : magnitude units < 10 ^ (e + 1))
    (hle : (10 ^ (e - fuel + 1) : ℚ) ≤ magnitude units) :
    (10 ^ leading units fuel e : ℚ) ≤ magnitude units ∧
      magnitude units < 10 ^ (leading units fuel e + 1) := by
  induction fuel generalizing e with
  | zero =>
      rw [Nat.cast_zero, sub_zero] at hle
      exact absurd hlt (not_lt.mpr hle)
  | succ fuel ih =>
      rw [leading]
      split
      · next h => exact ⟨reaches_iff.mp h, hlt⟩
      · next h =>
          refine ih ?_ ?_
          · rw [sub_add_cancel]
            exact not_le.mp fun hreach => h (reaches_iff.mpr hreach)
          · have hexponent : e - 1 - fuel + 1 = e - (fuel + 1 : Nat) + 1 := by omega
            rwa [hexponent]

/-- No amount is as small as the power of ten where the search would end. -/
theorem exists_unitsPerOne_le_pow : ∃ k, k = 324 ∧ unitsPerOne ≤ 10 ^ k :=
  ⟨324, rfl, by decide +kernel⟩

theorem magnitude_lt (h : Fits units) : magnitude units < 10 ^ (309 : Int) := by
  obtain ⟨k, hk, hbound⟩ := Binary64.exists_bound_lt_pow
  have hunits : units < Nat.pow 10 k * unitsPerOne := by
    refine Nat.lt_trans ?_ hbound
    rw [← Binary64.bound_eq]
    exact h.1
  have hcast : (309 : Int) = k := by omega
  rw [hcast, magnitude, div_lt_iff₀ (by exact_mod_cast Binary64.unitsPerOne_pos), zpow_natCast]
  exact_mod_cast hunits

theorem le_magnitude (h : 0 < units) : (10 ^ (-324 : Int) : ℚ) ≤ magnitude units := by
  obtain ⟨k, hk, hbound⟩ := exists_unitsPerOne_le_pow
  have hcast : (-324 : Int) = -(k : Int) := by omega
  have hpow : (unitsPerOne : ℚ) ≤ 10 ^ k := by exact_mod_cast hbound
  have hone : (1 : ℚ) ≤ units := by exact_mod_cast h
  rw [hcast, magnitude, le_div_iff₀ (by exact_mod_cast Binary64.unitsPerOne_pos), zpow_neg,
    zpow_natCast, inv_mul_le_iff₀ (by positivity)]
  exact le_trans hpow (le_mul_of_one_le_right (by positivity) hone)

/-- Seventeen places behind the first digit, a grid is finer than the
numbers of 53 significant bits. -/
theorem roundsTo_seventeen {lead : Int} (h : (10 ^ lead : ℚ) ≤ magnitude units) :
    ∃ d : Nat, RoundsTo units (d * 10 ^ (lead - 17)) := by
  have hle := gridBelow_le units (lead - 17)
  have hlt := lt_gridBelow units (lead - 17)
  have hscaled : (10 ^ lead : ℚ) = 10 ^ (lead - 17) * 10 ^ 17 := by
    rw [← zpow_natCast (10 : ℚ) 17, ← zpow_add₀ (by norm_num), Nat.cast_ofNat, sub_add_cancel]
  have hvalue := magnitude_quarters units
  have hunits : (units : ℚ) < 2 ^ 53 * 2 ^ coarseness units := by
    have := Binary64.lt_pow_coarseness units
    rw [Nat.pow_add] at this
    exact_mod_cast this
  -- a step of the grid is less than half a step of the amount
  have hstep : (10 ^ (lead - 17) * quarters : ℚ) < 2 * 2 ^ coarseness units := by
    have hpow := mul_le_mul_of_nonneg_right h (le_of_lt quarters_pos)
    rw [hscaled, hvalue] at hpow
    linarith
  refine ⟨gridBelow units (lead - 17) + 1, Interval.holds_of_lt ?_ ?_⟩
  · have hlow : ((Interval.of units).low : ℚ) ≤ 4 * units := by
      rw [Interval.low_of]
      exact_mod_cast Nat.sub_le _ _
    refine lt_of_le_of_lt hlow ?_
    rw [← hvalue]
    exact mul_lt_mul_of_pos_right hlt quarters_pos
  · have hnext := mul_le_mul_of_nonneg_right hle (le_of_lt quarters_pos)
    rw [hvalue] at hnext
    rw [Interval.high_of]
    push_cast
    linarith

end Leading

/-! ## The first grid -/

/-- The first digit of the amount, and the first grid from there on with a
point that rounds to it. -/
structure Found (units : Nat) (lead e : Int) : Prop where
  low : (10 ^ lead : ℚ) ≤ magnitude units
  high : magnitude units < 10 ^ (lead + 1)
  le_lead : e ≤ lead
  passed : ∀ f, e < f → f ≤ lead → ∀ d : Nat, ¬ RoundsTo units (d * 10 ^ f)

section Found

variable {units : Nat} {lead e : Int}

/-- The search ends at the first grid, whatever the rule for ties. -/
theorem search_found (h : Fits units) (hpos : 0 < units) :
    ∃ lead e, Found units lead e ∧
      ∀ tie, ∃ d, onGrid? tie units e = some d ∧ shortest tie units = normalize d e := by
  classical
  obtain ⟨hlow, hhigh⟩ := leading_spec 633 (e := 308) (magnitude_lt h) (le_magnitude hpos)
  generalize hlead : leading units 633 308 = lead at hlow hhigh
  -- The search stops at the first grid with a number on it; 17 places always do.
  have hexists : ∃ k : Nat, ∃ d : Nat, RoundsTo units (d * 10 ^ (lead - k)) :=
    ⟨17, roundsTo_seventeen hlow⟩
  have hle := Nat.find_min' hexists (m := 17) (roundsTo_seventeen hlow)
  have hmin : ∀ j < Nat.find hexists, ∀ d : Nat, ¬ RoundsTo units (d * 10 ^ (lead - j)) := by
    intro j hj d hd
    exact Nat.find_min hexists hj ⟨d, hd⟩
  obtain ⟨d, hd⟩ := Nat.find_spec hexists
  generalize Nat.find hexists = k at hle hmin hd
  refine ⟨lead, lead - k, ⟨hlow, hhigh, by omega, ?_⟩, ?_⟩
  · intro f hf hflead
    obtain ⟨j, hj⟩ := Int.eq_ofNat_of_zero_le (show 0 ≤ lead - f by omega)
    obtain rfl : f = lead - j := by omega
    exact hmin j (by omega)
  · intro tie
    have hsome : onGrid? tie units (lead - k) ≠ none := by
      intro hnone
      exact onGrid?_eq_none_iff.mp hnone d hd
    obtain ⟨d', hd'⟩ := Option.ne_none_iff_exists'.mp hsome
    refine ⟨d', hd', ?_⟩
    have hnone : ∀ j < k, onGrid? tie units (lead - (0 + j : Nat)) = none := by
      intro j hj
      rw [Nat.zero_add]
      exact onGrid?_eq_none_iff.mpr (hmin j hj)
    rw [← Nat.zero_add k] at hd' ⊢
    rw [shortest, if_neg (Nat.ne_of_gt hpos), hlead, search_eq hnone hd' (by omega)]

/-- The number of places from the first digit to the grid. -/
theorem Found.exists_places (h : Found units lead e) : ∃ k : Nat, lead = e + k := by
  obtain ⟨k, hk⟩ := Int.eq_ofNat_of_zero_le (Int.sub_nonneg_of_le h.le_lead)
  exact ⟨k, by omega⟩

theorem ten_zpow_add (e : Int) (k : Nat) : (10 ^ (e + k) : ℚ) = (10 ^ k : Nat) * 10 ^ e := by
  rw [zpow_add₀ (by norm_num), zpow_natCast, mul_comm]
  push_cast
  rfl

/-- The neighbour below has a digit in each of these places. -/
theorem Found.gridBelow_bounds {k : Nat} (h : Found units (e + k) e) :
    10 ^ k ≤ gridBelow units e ∧ gridBelow units e < 10 ^ (k + 1) := by
  refine ⟨le_gridBelow ?_, ?_⟩
  · rw [← ten_zpow_add]
    exact h.low
  · have hhigh := h.high
    rw [add_assoc, ← Nat.cast_succ, ten_zpow_add] at hhigh
    have hlt := lt_of_le_of_lt (gridBelow_le units e) hhigh
    exact_mod_cast lt_of_mul_lt_mul_right hlt (le_of_lt (ten_zpow_pos e))

/-- So has the point that is found, unless it is the next power of ten. -/
theorem Found.onGrid?_bounds {k d : Nat} {tie : Tie} (h : Found units (e + k) e)
    (hd : onGrid? tie units e = some d) : 10 ^ k ≤ d ∧ d ≤ 10 ^ (k + 1) := by
  obtain ⟨hlow, hhigh⟩ := h.gridBelow_bounds
  rcases (onGrid?_some hd).2 with rfl | rfl <;> omega

end Found

/-! ## The shortest decimal -/

section Shortest

variable {units : Nat}

/-- The shortest decimal of an amount rounds to the amount. -/
theorem shortest_roundsTo (h : Fits units) (tie : Tie) :
    RoundsTo units (shortest tie units).value := by
  rcases Nat.eq_zero_or_pos units with rfl | hpos
  · have hzero : (shortest tie 0).value = magnitude 0 := by
      rw [shortest, if_pos rfl, value, magnitude, Nat.cast_zero, zero_mul, zero_div]
    rw [hzero]
    exact roundsTo_magnitude 0
  · obtain ⟨lead, e, -, hshortest⟩ := search_found h hpos
    obtain ⟨d, hd, hvalue⟩ := hshortest tie
    rw [hvalue, normalize_value]
    exact (onGrid?_some hd).1

/-- It is in the same decade as the amount, or at its end. -/
theorem exists_decade (h : Fits units) (hpos : 0 < units) :
    ∃ lead : Int, (10 ^ lead : ℚ) ≤ magnitude units ∧ magnitude units < 10 ^ (lead + 1) ∧
      ∀ tie, (10 ^ lead : ℚ) ≤ (shortest tie units).value ∧
        (shortest tie units).value ≤ 10 ^ (lead + 1) := by
  obtain ⟨lead, e, hfound, hshortest⟩ := search_found h hpos
  obtain ⟨k, rfl⟩ := hfound.exists_places
  refine ⟨e + k, hfound.low, hfound.high, ?_⟩
  intro tie
  obtain ⟨d, hd, hvalue⟩ := hshortest tie
  obtain ⟨hlow, hhigh⟩ := hfound.onGrid?_bounds hd
  have hpow := le_of_lt (ten_zpow_pos e)
  rw [hvalue, normalize_value, add_assoc, ← Nat.cast_succ, ten_zpow_add, ten_zpow_add]
  exact ⟨mul_le_mul_of_nonneg_right (by exact_mod_cast hlow) hpow,
    mul_le_mul_of_nonneg_right (by exact_mod_cast hhigh) hpow⟩

theorem value_pos_iff {d : Decimal} : 0 < d.value ↔ 0 < d.digits := by
  rw [value, mul_pos_iff_of_pos_right (ten_zpow_pos _), Nat.cast_pos]

theorem shortest_digits_pos (h : Fits units) (hpos : 0 < units) (tie : Tie) :
    0 < (shortest tie units).digits := by
  obtain ⟨lead, -, -, hvalue⟩ := exists_decade h hpos
  exact value_pos_iff.mp (lt_of_lt_of_le (ten_zpow_pos lead) (hvalue tie).1)

/-- A power of ten that rounds to nothing below it separates the amounts as it
separates their decimals. -/
theorem le_shortest_iff (h : Fits units) (hpos : 0 < units) (tie : Tie) {e : Int}
    (hround : RoundsTo units (10 ^ e) → (10 ^ e : ℚ) ≤ magnitude units) :
    (10 ^ e : ℚ) ≤ (shortest tie units).value ↔ (10 ^ e : ℚ) ≤ magnitude units := by
  obtain ⟨lead, hlow, hhigh, hvalue⟩ := exists_decade h hpos
  obtain ⟨hvlow, hvhigh⟩ := hvalue tie
  constructor
  · intro hle
    have hself := shortest_roundsTo h tie
    by_contra hlt
    rw [not_le] at hlt
    have hlead := lt_of_le_of_lt hlow hlt
    rw [zpow_lt_zpow_iff_right₀ (by norm_num)] at hlead
    -- the decimal is at the end of its decade, and that is the power of ten
    have heq : (shortest tie units).value = 10 ^ e :=
      le_antisymm (le_trans hvhigh (ten_zpow_le hlead)) hle
    exact absurd (hround (heq ▸ hself)) (not_le.mpr hlt)
  · intro hle
    have hlead := lt_of_le_of_lt hle hhigh
    rw [zpow_lt_zpow_iff_right₀ (by norm_num)] at hlead
    exact le_trans (ten_zpow_le (by omega)) hvlow

end Shortest

/-! ## The exponent of a decimal -/

/-- The exponent of the first digit. -/
def lead (d : Decimal) : Int := d.exponent + (text d.digits).length - 1

theorem length_text_le_iff {n k : Nat} : (text n).length ≤ k + 1 ↔ n < 10 ^ (k + 1) :=
  Nat.length_toDigits_le_iff (by decide) (Nat.succ_pos k)

section Lead

variable {d : Decimal} {e : Int}

theorem le_lead_iff (hd : 0 < d.digits) : e ≤ d.lead ↔ (10 ^ e : ℚ) ≤ d.value := by
  have hlength := List.length_pos_iff.mpr (text_ne_nil d.digits)
  obtain ⟨k, hk⟩ := Nat.exists_eq_succ_of_ne_zero (Nat.ne_of_gt hlength)
  have hlead : d.lead = d.exponent + k := by
    rw [lead, hk]
    omega
  rw [hlead]
  constructor
  · intro hle
    have hdigits := pow_length_le hd
    rw [hk, Nat.succ_sub_one] at hdigits
    refine le_trans (ten_zpow_le hle) ?_
    rw [ten_zpow_add]
    exact mul_le_mul_of_nonneg_right (by exact_mod_cast hdigits) (le_of_lt (ten_zpow_pos _))
  · intro hle
    have hdigits : d.digits < 10 ^ (k + 1) := length_text_le_iff.mp (Nat.le_of_eq hk)
    have hlt : (10 ^ e : ℚ) < 10 ^ (d.exponent + (k + 1 : Nat)) := by
      refine lt_of_le_of_lt hle ?_
      rw [ten_zpow_add]
      exact mul_lt_mul_of_pos_right (by exact_mod_cast hdigits) (ten_zpow_pos _)
    rw [zpow_lt_zpow_iff_right₀ (by norm_num)] at hlt
    omega

theorem lead_lt_iff (hd : 0 < d.digits) : d.lead < e ↔ d.value < 10 ^ e := by
  rw [← not_le, le_lead_iff hd, not_le]

/-- The decimals of amounts have exponents of three digits. -/
theorem lead_shortest {units : Nat} (h : Fits units) (hpos : 0 < units) (tie : Tie) :
    -324 ≤ (shortest tie units).lead ∧ (shortest tie units).lead < 310 := by
  have hd := shortest_digits_pos h hpos tie
  obtain ⟨lead, hlow, hhigh, hvalue⟩ := exists_decade h hpos
  obtain ⟨hvlow, hvhigh⟩ := hvalue tie
  have hleast := lt_of_le_of_lt (le_magnitude hpos) hhigh
  have hmost := lt_of_le_of_lt hlow (magnitude_lt h)
  rw [zpow_lt_zpow_iff_right₀ (by norm_num)] at hleast hmost
  constructor
  · exact (le_lead_iff hd).mpr (le_trans (ten_zpow_le (by omega)) hvlow)
  · refine (lead_lt_iff hd).mpr (lt_of_le_of_lt (le_trans hvhigh (ten_zpow_le (f := 309) ?_)) ?_)
    · omega
    · exact zpow_lt_zpow_right₀ (by norm_num) (by norm_num)

end Lead

end OrderDesk.Decimal
