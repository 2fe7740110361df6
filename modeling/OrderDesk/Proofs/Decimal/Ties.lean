/-
# `Proofs.Decimal.Ties` — two decimals that are as short and as close

The rule for ties decides between two neighbours on a grid, and only if the
amount is half way between them and both round to it (`Halfway`).  The rules
then disagree if the first of the two has the even digit.

`Fork` says the same without any grid: the search does not occur in it, only
the numbers that round to the amount and how many digits they have.  A fork is
on the grid where the search ends, since a grid with larger steps would give
fewer digits (`Fork.eq_first`), and a tie on that grid is a fork, since fewer
digits would have been found before (`Found.fork`).
-/
import OrderDesk.Proofs.Decimal.Search

namespace OrderDesk.Decimal

open Binary64 (Fits Spaced IsNearest magnitude)

/-! ## Ties -/

/-- The amount is half way between two points of a grid, of which the even
one comes first, and both round to it. -/
structure Halfway (units d : Nat) (e : Int) : Prop where
  even : d % 2 = 0
  middle : 2 * magnitude units = (2 * d + 1 : Nat) * 10 ^ e
  left : RoundsTo units (d * 10 ^ e)
  right : RoundsTo units ((d + 1 : Nat) * 10 ^ e)

section Ties

variable {units d : Nat} {e : Int}

theorem Halfway.gridBelow_eq (h : Halfway units d e) : gridBelow units e = d := by
  have hpow := ten_zpow_pos e
  have hmiddle := h.middle
  push_cast at hmiddle
  refine Nat.le_antisymm ?_ (le_gridBelow (by linarith))
  have hlt : (gridBelow units e * 10 ^ e : ℚ) < (d + 1 : Nat) * 10 ^ e := by
    refine lt_of_le_of_lt (gridBelow_le units e) ?_
    push_cast
    linarith
  have := lt_of_mul_lt_mul_right hlt (le_of_lt hpow)
  exact Nat.le_of_lt_succ (by exact_mod_cast this)

/-- The middle of two points, in whole numbers. -/
theorem twice_rest_eq_iff :
    2 * (4 * units * (gridStep e).2 % (gridStep e).1) = (gridStep e).1 ↔
      2 * magnitude units = (2 * gridBelow units e + 1 : Nat) * 10 ^ e := by
  have hmiddle := (grid_lt_eq_iff units e 2 (2 * gridBelow units e + 1)).2
  have hdiv : gridBelow units e * (gridStep e).1 + 4 * units * (gridStep e).2 % (gridStep e).1 =
      4 * units * (gridStep e).2 := Nat.div_add_mod' _ _
  rw [Nat.cast_ofNat] at hmiddle
  rw [← hmiddle, Nat.add_one_mul (2 * gridBelow units e), Nat.mul_assoc 2 (gridBelow units e)]
  omega

/-- Half way between two points the rule for ties decides. -/
theorem Halfway.onGrid? (h : Halfway units d e) :
    Decimal.onGrid? .even units e = some d ∧ Decimal.onGrid? .up units e = some (d + 1) := by
  have hbelow := h.gridBelow_eq
  have hleft := (contains_grid d).mpr h.left
  have hright := (contains_grid (d + 1)).mpr h.right
  have htie := twice_rest_eq_iff.mpr (hbelow.symm ▸ h.middle)
  rw [gridBelow] at hbelow
  have hlt : ¬ 2 * (4 * units * (gridStep e).2 % (gridStep e).1) < (gridStep e).1 := by omega
  have hgt : ¬ (gridStep e).1 < 2 * (4 * units * (gridStep e).2 % (gridStep e).1) := by omega
  simp only [Decimal.onGrid?, hbelow, hleft, hright, if_neg hlt, if_neg hgt, h.even, if_true,
    and_self]

/-- Only there it does. -/
theorem onGrid?_congr (h : ∀ d, ¬ Halfway units d e) :
    onGrid? .even units e = onGrid? .up units e := by
  simp only [onGrid?]
  split
  · rfl
  · rfl
  · rfl
  · next hleft hright =>
      split
      · rfl
      · next hlt =>
          split
          · rfl
          · next hgt =>
              by_cases heven : gridBelow units e % 2 = 0
              · have hmiddle := twice_rest_eq_iff.mp (Nat.le_antisymm (Nat.not_lt.mp hgt)
                  (Nat.not_lt.mp hlt))
                exact absurd ⟨heven, hmiddle, (contains_grid _).mp hleft,
                  (contains_grid _).mp hright⟩ (h (gridBelow units e))
              · exact if_neg heven

end Ties

/-! ## Forks -/

/-- Half way between two decimals the amount has no shortest one: both are
as close, both round to it, and nothing that does has fewer digits. -/
structure Fork (units d : Nat) (e : Int) : Prop where
  even : d % 2 = 0
  middle : 2 * magnitude units = (2 * d + 1 : Nat) * 10 ^ e
  left : IsNearest (d * 10 ^ e) units
  right : IsNearest ((d + 1 : Nat) * 10 ^ e) units
  fewest : ∀ (d' : Nat) (e' : Int), IsNearest (d' * 10 ^ e') units →
    (text d).length ≤ (text d').length

section Forks

variable {units d k : Nat} {e : Int}

theorem isNearest_grid (hu : Spaced units) (d : Nat) (e : Int) :
    IsNearest (d * 10 ^ e) units ↔ RoundsTo units (d * 10 ^ e) :=
  isNearest_iff hu (mul_nonneg (Nat.cast_nonneg d) (le_of_lt (ten_zpow_pos e)))

theorem Fork.halfway (hu : Spaced units) (h : Fork units d e) : Halfway units d e :=
  ⟨h.even, h.middle, (isNearest_grid hu d e).mp h.left, (isNearest_grid hu (d + 1) e).mp h.right⟩

theorem lt_length_text {d k : Nat} (h : 10 ^ k ≤ d) : k < (text d).length := by
  cases k with
  | zero => exact List.length_pos_iff.mpr (text_ne_nil d)
  | succ k =>
      refine Nat.lt_of_not_le ?_
      intro hle
      exact Nat.not_lt.mpr h (length_text_le_iff.mp hle)

/-- No decimal with fewer digits than places to the first grid rounds to the
amount. -/
theorem Found.fewest (h : Found units (e + k) e) {d' : Nat} {e' : Int}
    (hround : RoundsTo units (d' * 10 ^ e')) : k < (text d').length := by
  rcases Nat.eq_zero_or_pos k with rfl | hk
  · exact List.length_pos_iff.mpr (text_ne_nil d')
  · have hle : e' ≤ e := by
      refine le_of_not_gt ?_
      intro hlt
      -- a multiple of a larger power of ten is one of the next
      obtain ⟨j, hj⟩ := Int.eq_ofNat_of_zero_le (show 0 ≤ e' - (e + 1) by omega)
      obtain rfl : e' = e + 1 + j := by omega
      rw [ten_zpow_add, ← mul_assoc, ← Nat.cast_mul] at hround
      exact h.passed (e + 1) (by omega) (by omega) _ hround
    have hreach : (10 ^ (e + k) : ℚ) ≤ d' * 10 ^ e' := by
      refine le_of_not_gt ?_
      intro hlt
      have hpow : RoundsTo units ((1 : Nat) * 10 ^ (e + k)) := by
        rw [Nat.cast_one, one_mul]
        exact hround.between (roundsTo_magnitude units) (le_of_lt hlt) h.low
      exact h.passed (e + k) (by omega) (by omega) 1 hpow
    obtain ⟨j, hj⟩ := Int.eq_ofNat_of_zero_le (show 0 ≤ e - e' by omega)
    have hplaces : e + k = e' + (j + k : Nat) := by omega
    rw [hplaces, ten_zpow_add] at hreach
    have hdigits : 10 ^ (j + k) ≤ d' := by
      exact_mod_cast le_of_mul_le_mul_right hreach (ten_zpow_pos e')
    have := lt_length_text hdigits
    omega

/-- Two points of the first grid that are as close are a fork. -/
theorem Found.fork (hu : Spaced units) (h : Found units (e + k) e) (hd : Halfway units d e) :
    Fork units d e := by
  refine ⟨hd.even, hd.middle, (isNearest_grid hu d e).mpr hd.left,
    (isNearest_grid hu (d + 1) e).mpr hd.right, ?_⟩
  intro d' e' hnearest
  have hfewest := h.fewest ((isNearest_grid hu d' e').mp hnearest)
  have hlength : (text d).length ≤ k + 1 := by
    rw [← hd.gridBelow_eq]
    exact length_text_le_iff.mpr h.gridBelow_bounds.2
  omega

theorem RoundsTo.pos {q : ℚ} (h : RoundsTo units q) (hpos : 0 < units) : 0 < q := by
  have hlow : (0 : ℚ) < (Interval.of units).low := by exact_mod_cast Interval.low_pos hpos
  exact pos_of_mul_pos_left (lt_of_lt_of_le hlow h.bounds.1) (le_of_lt quarters_pos)

/-- The points of a fork are on no grid with larger steps than the first
one. -/
theorem Fork.le_first (hu : Spaced units) (hpos : 0 < units) (h : Fork units d e) {lead f : Int}
    (hfound : Found units lead f) : e ≤ f := by
  have hleft := (h.halfway hu).left
  have hd : (1 : ℚ) ≤ d := by
    have := pos_of_mul_pos_left (hleft.pos hpos) (le_of_lt (ten_zpow_pos e))
    exact_mod_cast this
  have hbelow := gridBelow_le units e
  rw [(h.halfway hu).gridBelow_eq] at hbelow
  have hlead : (10 ^ e : ℚ) < 10 ^ (lead + 1) :=
    calc (10 ^ e : ℚ) = 1 * 10 ^ e := (one_mul _).symm
      _ ≤ d * 10 ^ e := mul_le_mul_of_nonneg_right hd (le_of_lt (ten_zpow_pos e))
      _ ≤ magnitude units := hbelow
      _ < 10 ^ (lead + 1) := hfound.high
  rw [zpow_lt_zpow_iff_right₀ (by norm_num)] at hlead
  refine le_of_not_gt ?_
  intro hlt
  exact hfound.passed e hlt (by omega) d hleft

/-- A fork is on the first grid. -/
theorem Fork.eq_first (hu : Spaced units) (hpos : 0 < units) (h : Fork units d e) {f : Int}
    (hfound : Found units (f + k) f) {d' : Nat} {tie : Tie} (hd' : onGrid? tie units f = some d') :
    e = f := by
  refine le_antisymm (h.le_first hu hpos hfound) (le_of_not_gt ?_)
  intro hlt
  obtain ⟨j, hj⟩ := Int.eq_ofNat_of_zero_le (show 0 ≤ f - e by omega)
  have hdigits : 10 ^ (j + k) ≤ d := by
    rw [← (h.halfway hu).gridBelow_eq]
    refine le_gridBelow ?_
    rw [← ten_zpow_add, Nat.cast_add, ← add_assoc, ← hj, add_sub_cancel]
    exact hfound.low
  have hlength := lt_length_text hdigits
  rcases Nat.lt_or_eq_of_le (hfound.onGrid?_bounds hd').2 with hlt' | heq
  · have hfewest := h.fewest d' f ((isNearest_grid hu d' f).mpr (onGrid?_some hd').1)
    have := length_text_le_iff.mpr hlt'
    omega
  · -- the next power of ten has a single digit
    have hround := (onGrid?_some hd').1
    rw [heq, ← ten_zpow_add, ← one_mul (10 ^ _ : ℚ), ← Nat.cast_one] at hround
    have hfewest := h.fewest 1 _ ((isNearest_grid hu 1 _).mpr hround)
    have hone : (text 1).length = 1 := rfl
    omega

/-- At a fork, each rule for ties has a point of its own. -/
theorem Fork.shortest (hfits : Fits units) (h : Fork units d e) :
    (Decimal.shortest .even units).value = d * 10 ^ e ∧
      (Decimal.shortest .up units).value = (d + 1 : Nat) * 10 ^ e := by
  have hu := hfits.spaced
  have hpos : 0 < units := by
    refine Nat.pos_of_ne_zero ?_
    rintro rfl
    have hmiddle := h.middle
    rw [magnitude, Nat.cast_zero, zero_div, mul_zero] at hmiddle
    have : (0 : ℚ) < (2 * d + 1 : Nat) * 10 ^ e :=
      mul_pos (by exact_mod_cast Nat.succ_pos _) (ten_zpow_pos e)
    exact absurd hmiddle (ne_of_lt this)
  obtain ⟨lead, f, hfound, hshortest⟩ := search_found hfits hpos
  obtain ⟨k, rfl⟩ := hfound.exists_places
  obtain ⟨l, hl, hleft⟩ := hshortest .even
  obtain ⟨r, hr, hright⟩ := hshortest .up
  obtain rfl := h.eq_first hu hpos hfound hl
  obtain ⟨heven, hup⟩ := (h.halfway hu).onGrid?
  rw [hleft, hright, normalize_value, normalize_value, Option.some.inj (hl.symm.trans heven),
    Option.some.inj (hr.symm.trans hup)]
  exact ⟨rfl, rfl⟩

/-- Without a fork, the rules for ties are not asked. -/
theorem shortest_congr (hfits : Fits units) (h : ∀ d e, ¬ Fork units d e) :
    Decimal.shortest .even units = Decimal.shortest .up units := by
  rcases Nat.eq_zero_or_pos units with rfl | hpos
  · rw [Decimal.shortest, Decimal.shortest, if_pos rfl, if_pos rfl]
  · obtain ⟨lead, e, hfound, hshortest⟩ := search_found hfits hpos
    obtain ⟨k, rfl⟩ := hfound.exists_places
    obtain ⟨l, hl, hleft⟩ := hshortest .even
    obtain ⟨r, hr, hright⟩ := hshortest .up
    have hcongr := onGrid?_congr fun d hd => h d e (hfound.fork hfits.spaced hd)
    rw [hleft, hright, Option.some.inj (hl.symm.trans (hcongr.trans hr))]

end Forks

end OrderDesk.Decimal
