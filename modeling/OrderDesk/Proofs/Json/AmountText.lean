/-
# `Proofs.Json.AmountText` — a written amount is a number in range

The text of a finite amount is a number by the grammar, and the reader
never calls it out of range, although it may read another amount
(`finite_number`).

| layout | why it is in range |
| :-- | :-- |
| plain | a digit behind the point is taken, so the exponent is negative |
| scientific, below one | the exponent is negative |
| scientific, large | the decimal is close to the amount (`Scales`) |

The reader's errors could carry the largest amounts beyond the bound.
Only three of them are so close to it that their digits have to be looked
at (`scales_largest`); below these the errors cannot add up.
-/
import OrderDesk.Proofs.Decimal.Digits
import OrderDesk.Proofs.Decimal.Shortest
import OrderDesk.Proofs.Json.Layout
import OrderDesk.Proofs.Json.Scaling

namespace OrderDesk.Json

open Binary64 (Fits unitsPerOne halfStep coarseness)
open Decimal (Within Interval quarters)

/-! ## Digits taken -/

theorem ofDigitChars_cons (c : Char) (ds : List Char) (n : Nat) :
    Nat.ofDigitChars 10 (c :: ds) n = Nat.ofDigitChars 10 ds (n * 10 + digitValue c) := by
  rw [Nat.ofDigitChars_cons, Nat.mul_comm]
  rfl

/-- Digits that stay below the bound are all taken. -/
theorem gather_eq {n : Nat} {ds : List Char} (h : Nat.ofDigitChars 10 ds n < significandBound) :
    gather n ds = (Nat.ofDigitChars 10 ds n, ds.length) := by
  induction ds generalizing n with
  | nil => rfl
  | cons c ds ih =>
      rw [ofDigitChars_cons] at h ⊢
      have hlt := Nat.lt_of_le_of_lt (Decimal.self_le_ofDigitChars (n * 10 + digitValue c) ds) h
      rw [gather, if_pos hlt, ih h]
      rfl

/-- Digits that are left out make the number no larger. -/
theorem gather_mul_le (n : Nat) (ds : List Char) :
    (gather n ds).1 * 10 ^ (ds.length - (gather n ds).2) ≤ Nat.ofDigitChars 10 ds n := by
  induction ds generalizing n with
  | nil => simp [gather]
  | cons c ds ih =>
      rw [gather]
      split
      · rw [ofDigitChars_cons, List.length_cons, Nat.add_sub_add_right]
        exact ih _
      · exact Decimal.le_ofDigitChars n (c :: ds)

theorem le_gather (n : Nat) (ds : List Char) : n ≤ (gather n ds).1 := by
  induction ds generalizing n with
  | nil => exact Nat.le_refl n
  | cons c ds ih =>
      rw [gather]
      split
      · exact Nat.le_trans (by omega) (ih _)
      · exact Nat.le_refl n

theorem ofDigitChars_lt {n : Nat} {ds : List Char} (hds : Digits ds) :
    Nat.ofDigitChars 10 ds n < (n + 1) * 10 ^ ds.length := by
  induction ds generalizing n with
  | nil => simp
  | cons c ds ih =>
      obtain ⟨hc, hrest⟩ := digits_cons.mp hds
      have hlt := digitValue_lt hc
      rw [ofDigitChars_cons, List.length_cons, Nat.pow_succ, Nat.mul_comm (10 ^ _) 10,
        ← Nat.mul_assoc]
      refine Nat.lt_of_lt_of_le (ih hrest) ?_
      exact Nat.mul_le_mul_right _ (by omega)

theorem exponentValue?_eq {k : Nat} {ds : List Char}
    (h : Nat.ofDigitChars 10 ds k < exponentBound) :
    exponentValue? k ds = some (Nat.ofDigitChars 10 ds k) := by
  induction ds generalizing k with
  | nil => rfl
  | cons c ds ih =>
      rw [ofDigitChars_cons] at h ⊢
      have hlt := Nat.lt_of_le_of_lt (Decimal.self_le_ofDigitChars (k * 10 + digitValue c) ds) h
      rw [exponentValue?, if_pos hlt, ih h]

theorem exponentValue?_some {k m : Nat} {ds : List Char} (h : exponentValue? k ds = some m) :
    m = Nat.ofDigitChars 10 ds k := by
  induction ds generalizing k with
  | nil => exact (Option.some.inj h).symm
  | cons c ds ih =>
      rw [exponentValue?] at h
      split at h
      · rw [ofDigitChars_cons]
        exact ih h
      · cases h

/-! ## Plain layout -/

theorem scaled?_negative (negative : Bool) (n : Nat) {e : Int} (h : e < 0) :
    scaled? negative n e ≠ none := by
  rw [scaled?, Ne, Option.map_eq_none_iff]
  exact scale_negative _ h

/-- A number with few digits in front of its point, some behind it, and no
exponent, is in range. -/
theorem value?_of_point {n : Numeral} (hfraction : n.fraction ≠ []) (he : n.exponent = none)
    (hwhole : n.whole.length ≤ 18) : n.value? ≠ none := by
  obtain ⟨c, cs, hcs⟩ := List.exists_cons_of_ne_nil hfraction
  have hdigit := digitValue_lt (n.fraction_digits c (hcs ▸ List.mem_cons_self))
  have hlt : Nat.ofDigitChars 10 n.whole 0 < 10 ^ 18 := by
    refine Nat.lt_of_lt_of_le (ofDigitChars_lt n.whole_digits) ?_
    rw [Nat.zero_add, Nat.one_mul]
    exact Nat.pow_le_pow_right (by decide) hwhole
  have hbound : 10 ^ 19 ≤ significandBound := by decide
  have hall : gather 0 n.whole = (Nat.ofDigitChars 10 n.whole 0, n.whole.length) :=
    gather_eq (by omega)
  have hfirst : Nat.ofDigitChars 10 n.whole 0 * 10 + digitValue c < significandBound := by omega
  have htaken : 1 ≤ (gather (Nat.ofDigitChars 10 n.whole 0) n.fraction).2 := by
    rw [hcs, gather, if_pos hfirst]
    exact Nat.succ_pos _
  rw [Numeral.value?_of_fraction hfraction, hall, he, finished?, Ne, Option.map_eq_none_iff]
  refine scaled?_negative _ _ ?_
  simp only [Nat.sub_self]
  omega

theorem digits_text (n : Nat) : Digits (Decimal.text n) := by
  intro c hc
  exact Decimal.isDigit_of_mem_text hc

theorem digits_zeros (k : Nat) : Digits (List.replicate k '0') := by
  intro c hc
  rw [List.eq_of_mem_replicate hc]
  rfl

theorem Digits.append {ds ds' : List Char} (h : Digits ds) (h' : Digits ds') :
    Digits (ds ++ ds') := by
  intro c hc
  rcases List.mem_append.mp hc with hc | hc
  · exact h c hc
  · exact h' c hc

theorem Digits.take {ds : List Char} (h : Digits ds) (k : Nat) : Digits (ds.take k) := by
  intro c hc
  exact h c (List.mem_of_mem_take hc)

/-- The digits of a positive number do not begin with a zero. -/
theorem head?_text_append {digits : Nat} (h : digits ≠ 0) (ds : List Char) :
    (Decimal.text digits ++ ds).head? ≠ some '0' := by
  obtain ⟨c, cs, hcs⟩ := List.exists_cons_of_ne_nil (Decimal.text_ne_nil digits)
  have hhead := Decimal.head?_text (Nat.pos_of_ne_zero h)
  rw [hcs] at hhead ⊢
  exact hhead

namespace Numeral

/-- The number with all its digits in front of the point, and zeros behind
them. -/
def padded (negative : Bool) (digits k : Nat) (h : digits = 0 → k = 0) : Numeral where
  negative := negative
  whole := Decimal.text digits ++ List.replicate k '0'
  fraction := ['0']
  exponent := none
  whole_ne_nil := List.append_ne_nil_of_left_ne_nil (Decimal.text_ne_nil digits) _
  whole_digits := (digits_text digits).append (digits_zeros k)
  no_leading_zero := by
    intro h0
    by_cases hd : digits = 0
    · rw [hd, h hd]
      rfl
    · exact absurd h0 (head?_text_append hd _)
  fraction_digits := digits_zeros 1

theorem padded_magnitude (negative : Bool) (digits k : Nat) (h : digits = 0 → k = 0) :
    (padded negative digits k h).magnitude = Notation.plain true (Decimal.text digits) k := by
  simp [padded, magnitude, fractionText, exponentText, Notation.plain]

/-- The number with the point between its digits, `k` of them behind it. -/
def pointed (negative : Bool) (digits k : Nat) (hd : digits ≠ 0)
    (hk : k < (Decimal.text digits).length) : Numeral where
  negative := negative
  whole := (Decimal.text digits).take ((Decimal.text digits).length - k)
  fraction := (Decimal.text digits).drop ((Decimal.text digits).length - k)
  exponent := none
  whole_ne_nil := by
    intro hnil
    rcases List.take_eq_nil_iff.mp hnil with h | h
    · omega
    · exact Decimal.text_ne_nil digits h
  whole_digits := (digits_text digits).take _
  no_leading_zero := by
    intro h0
    rw [List.head?_take, if_neg (by omega)] at h0
    exact absurd h0 (Decimal.head?_text (Nat.pos_of_ne_zero hd))
  fraction_digits := (digits_text digits).drop _

theorem pointed_fraction {negative : Bool} {digits k : Nat} {hd : digits ≠ 0}
    {hk : k < (Decimal.text digits).length} (h : 0 < k) :
    (pointed negative digits k hd hk).fraction ≠ [] := by
  intro hnil
  have hle := List.drop_eq_nil_iff.mp hnil
  omega

theorem pointed_magnitude (negative : Bool) {digits k : Nat} (hd : digits ≠ 0)
    (hk : k < (Decimal.text digits).length) (h : 0 < k) :
    (pointed negative digits k hd hk).magnitude =
      Notation.plain true (Decimal.text digits) (-k) := by
  have hneg : ¬ (0 : Int) ≤ -(k : Int) := by omega
  simp only [magnitude, fractionText, if_neg (pointed_fraction h), Notation.plain, if_neg hneg,
    neg_neg, Int.toNat_natCast, if_pos hk]
  simp [pointed, exponentText]

/-- The number with all its digits behind the point, and zeros in front of
them. -/
def small (negative : Bool) (digits k : Nat) : Numeral where
  negative := negative
  whole := ['0']
  fraction := List.replicate (k - (Decimal.text digits).length) '0' ++ Decimal.text digits
  exponent := none
  whole_ne_nil := List.cons_ne_nil _ _
  whole_digits := digits_zeros 1
  no_leading_zero := by
    intro _
    rfl
  fraction_digits := (digits_zeros _).append (digits_text digits)

theorem small_fraction (negative : Bool) (digits k : Nat) :
    (small negative digits k).fraction ≠ [] :=
  List.append_ne_nil_of_right_ne_nil _ (Decimal.text_ne_nil digits)

theorem small_magnitude (negative : Bool) {digits k : Nat}
    (hk : ¬ k < (Decimal.text digits).length) (h : 0 < k) :
    (small negative digits k).magnitude = Notation.plain true (Decimal.text digits) (-k) := by
  have hneg : ¬ (0 : Int) ≤ -(k : Int) := by omega
  simp only [magnitude, fractionText, if_neg (small_fraction negative digits k), Notation.plain,
    if_neg hneg, neg_neg, Int.toNat_natCast, if_neg hk]
  simp [small, exponentText]

end Numeral

/-- Plain layout is a number in range, if not too many digits stand in front
of the point. -/
theorem plain_numeral (negative : Bool) {digits : Nat} {exponent : Int}
    (hzero : digits = 0 → exponent = 0)
    (hlead : exponent + (Decimal.text digits).length ≤ 18) :
    ∃ n : Numeral, n.negative = negative ∧
      n.magnitude = Notation.plain true (Decimal.text digits) exponent ∧ n.value? ≠ none := by
  have hpos := List.length_pos_iff.mpr (Decimal.text_ne_nil digits)
  by_cases hle : 0 ≤ exponent
  · obtain ⟨k, rfl⟩ := Int.eq_ofNat_of_zero_le hle
    have hk : digits = 0 → k = 0 := by
      intro hd
      exact Int.natCast_eq_zero.mp (hzero hd)
    have hwhole : (Numeral.padded negative digits k hk).whole.length ≤ 18 := by
      rw [Numeral.padded, List.length_append, List.length_replicate]
      omega
    exact ⟨.padded negative digits k hk, rfl, Numeral.padded_magnitude negative digits k hk,
      value?_of_point (List.cons_ne_nil _ _) rfl hwhole⟩
  · obtain ⟨k, hk⟩ := Int.eq_ofNat_of_zero_le (show 0 ≤ -exponent by omega)
    obtain rfl : exponent = -(k : Int) := by omega
    have hdigits : digits ≠ 0 := by
      intro hd
      have := hzero hd
      omega
    have hplaces : 0 < k := by omega
    by_cases hlt : k < (Decimal.text digits).length
    · have hwhole : (Numeral.pointed negative digits k hdigits hlt).whole.length ≤ 18 := by
        rw [Numeral.pointed, List.length_take]
        omega
      exact ⟨.pointed negative digits k hdigits hlt, rfl,
        Numeral.pointed_magnitude negative hdigits hlt hplaces,
        value?_of_point (Numeral.pointed_fraction hplaces) rfl hwhole⟩
    · have hwhole : (Numeral.small negative digits k).whole.length ≤ 18 := by
        show 1 ≤ 18
        decide
      exact ⟨.small negative digits k, rfl, Numeral.small_magnitude negative hlt hplaces,
        value?_of_point (Numeral.small_fraction negative digits k) rfl hwhole⟩

/-! ## Scientific layout -/

/-- Whatever the reader takes of the digits is scaled to an amount: no more
than the decimal, and the decimal itself if its digits can be taken. -/
def Scales (d : Decimal) : Prop :=
  ∀ (negative : Bool) (n : Nat) (e : Int), 0 < n → (n * 10 ^ e : ℚ) ≤ d.value →
    (d.digits < significandBound → n = d.digits ∧ e = d.exponent) → scaled? negative n e ≠ none

/-- The exponent of scientific layout. -/
def leadExponent (lead : Int) : Exponent where
  letter := 'e'
  sign := if lead < 0 then some '-' else some '+'
  digits := Decimal.text lead.natAbs
  letter_eq := .inl rfl
  sign_eq := by
    intro c hc
    split at hc
    · exact .inr (Option.mem_some.mp hc).symm
    · exact .inl (Option.mem_some.mp hc).symm
  digits_ne_nil := Decimal.text_ne_nil _
  isDigits := digits_text _

theorem leadExponent_text (lead : Int) :
    (leadExponent lead).text =
      'e' :: ((if true && decide (0 ≤ lead) then ['+'] else []) ++ Decimal.intText lead) := by
  by_cases h : lead < 0
  · have hle : ¬ 0 ≤ lead := by omega
    simp [Exponent.text, leadExponent, Decimal.intText, h, hle]
  · have hle : 0 ≤ lead := by omega
    simp [Exponent.text, leadExponent, Decimal.intText, h, hle]

theorem leadExponent_minus (lead : Int) : (leadExponent lead).minus = decide (lead < 0) := by
  by_cases h : lead < 0 <;> simp [Exponent.minus, leadExponent, h]

/-- An amount below one cannot be out of range. -/
theorem finished?_below (negative : Bool) (n : Nat) {start lead : Int} (hstart : start ≤ 0)
    (hlead : lead < 0) : finished? negative n start (some (leadExponent lead)) ≠ none := by
  rw [finished?, leadExponent_minus, decide_eq_true hlead]
  cases hk : exponentValue? 0 (leadExponent lead).digits with
  | none => simp [raised?]
  | some k =>
      have hvalue := exponentValue?_some hk
      rw [leadExponent, Decimal.ofDigitChars_text] at hvalue
      have hshifted : shifted true start k < 0 := by
        simp only [shifted, if_true]
        omega
      exact scaled?_negative _ _ hshifted

theorem finished?_above (negative : Bool) (n : Nat) (start : Int) {lead : Int} (hlead : 0 ≤ lead)
    (hbound : lead < exponentBound) :
    finished? negative n start (some (leadExponent lead)) = scaled? negative n (start + lead) := by
  have hworth := Decimal.ofDigitChars_text lead.natAbs
  have hvalue : exponentValue? 0 (leadExponent lead).digits = some lead.natAbs := by
    rw [leadExponent, exponentValue?_eq (by rw [hworth]; omega), hworth]
  have hshifted : shifted false start lead.natAbs = start + lead := by
    simp only [shifted, Bool.false_eq_true, if_false]
    omega
  rw [finished?, leadExponent_minus, decide_eq_false (Int.not_lt.mpr hlead), hvalue]
  simp only [raised?, hshifted]

/-- The significand and the exponent of a leading digit and some more. -/
theorem finished?_ne_none {d : Decimal} (hscales : Scales d) {c : Char} {cs : List Char}
    (hcs : Decimal.text d.digits = c :: cs) (hc : 0 < digitValue c) (negative : Bool)
    (hlead : d.exponent + cs.length < exponentBound) :
    finished? negative (gather (digitValue c) cs).1 (-(gather (digitValue c) cs).2)
      (some (leadExponent (d.exponent + cs.length))) ≠ none := by
  rcases lt_or_ge (d.exponent + cs.length) 0 with hneg | hpos
  · exact finished?_below negative _ (by omega) hneg
  · -- the digits left out and the written exponent add up to the exponent of what was taken
    have hworth := Decimal.ofDigitChars_text d.digits
    rw [hcs, ofDigitChars_cons, Nat.zero_mul, Nat.zero_add] at hworth
    have htaken := gather_le (digitValue c) cs
    have hle := gather_mul_le (digitValue c) cs
    have hshift : -((gather (digitValue c) cs).2 : Int) + (d.exponent + cs.length) =
        d.exponent + ((cs.length - (gather (digitValue c) cs).2 : Nat) : Int) := by
      omega
    rw [finished?_above negative _ _ hpos hlead, hshift]
    rw [hworth] at hle
    refine hscales negative _ _ ?_ ?_ ?_
    · exact Nat.lt_of_lt_of_le hc (le_gather _ _)
    · rw [Decimal.value, zpow_add₀ (by norm_num), zpow_natCast, mul_left_comm, mul_comm]
      refine mul_le_mul_of_nonneg_right ?_ (by positivity)
      exact_mod_cast hle
    · intro hlt
      rw [gather_eq (hworth.symm ▸ hlt), hworth]
      simp

theorem scientific_eq (c : Char) (cs : List Char) (exponent : Int) :
    Notation.scientific true (c :: cs) exponent =
      [c] ++ ((if cs = [] then [] else '.' :: cs) ++
        (leadExponent (exponent + cs.length)).text) := by
  have hlead : exponent + (c :: cs).length - 1 = exponent + cs.length := by
    rw [List.length_cons]
    omega
  rw [leadExponent_text]
  cases cs with
  | nil =>
      simp only [Notation.scientific, hlead]
      rfl
  | cons c' cs =>
      simp only [Notation.scientific, hlead]
      rfl

namespace Numeral

/-- The number with one digit in front of the point, and an exponent. -/
def leading (negative : Bool) {c : Char} {cs : List Char} (lead : Int) (h : Digits (c :: cs)) :
    Numeral where
  negative := negative
  whole := [c]
  fraction := cs
  exponent := some (leadExponent lead)
  whole_ne_nil := List.cons_ne_nil _ _
  whole_digits := by
    intro d hd
    rw [List.mem_singleton.mp hd]
    exact (digits_cons.mp h).1
  no_leading_zero := by
    intro h0
    rw [Option.some.inj h0]
  fraction_digits := (digits_cons.mp h).2

theorem leading_value? (negative : Bool) {c : Char} {cs : List Char} (lead : Int)
    (h : Digits (c :: cs)) :
    (leading negative lead h).value? =
      (finished? negative (gather (digitValue c) cs).1 (-(gather (digitValue c) cs).2)
        (some (leadExponent lead))).map .amount := by
  have hfirst : digitValue c < significandBound :=
    Nat.lt_of_lt_of_le (digitValue_lt (digits_cons.mp h).1) (by decide : 10 ≤ significandBound)
  have hwhole : gather 0 (leading negative lead h).whole = (digitValue c, 1) := by
    simp [leading, gather, hfirst]
  rw [value?, hwhole]
  simp [leading]

end Numeral

/-- Scientific layout is a number in range, if the decimal scales. -/
theorem scientific_numeral (negative : Bool) {d : Decimal} (hd : 0 < d.digits)
    (hscales : Scales d)
    (hlead : d.exponent + (Decimal.text d.digits).length - 1 < exponentBound) :
    ∃ n : Numeral, n.negative = negative ∧
      n.magnitude = Notation.scientific true (Decimal.text d.digits) d.exponent ∧
        n.value? ≠ none := by
  obtain ⟨c, cs, hcs⟩ := List.exists_cons_of_ne_nil (Decimal.text_ne_nil d.digits)
  have hdigits : Digits (c :: cs) := hcs ▸ digits_text d.digits
  have hpos : 0 < digitValue c := by
    refine Nat.pos_of_ne_zero ?_
    intro hzero
    refine Decimal.head?_text hd ?_
    rw [hcs, digitValue_eq_zero (digits_cons.mp hdigits).1 hzero]
    rfl
  have hadd : d.exponent + (Decimal.text d.digits).length - 1 = d.exponent + cs.length := by
    rw [hcs, List.length_cons]
    omega
  rw [hadd] at hlead
  refine ⟨.leading negative (d.exponent + cs.length) hdigits, rfl, ?_, ?_⟩
  · rw [hcs, scientific_eq]
    rfl
  · rw [Numeral.leading_value?, Ne, Option.map_eq_none_iff]
    exact finished?_ne_none hscales hcs hpos negative hlead

/-! ## Decimals of amounts -/

/-- The largest amounts: their shortest decimals. -/
theorem shortest_largest {j : Nat} (hj : 1 ≤ j) (hj' : j ≤ 3) :
    Decimal.shortest .even ((2 ^ 53 - j) * (2 * halfStep)) = ⟨17976931348623159 - 2 * j, 292⟩ := by
  have hreaches : ∀ j < 4, Decimal.reaches ((2 ^ 53 - j) * (2 * halfStep)) 308 = true := by
    decide +kernel
  have hnone : ∀ j < 4, 1 ≤ j → ∀ i < 16, Decimal.onGrid? .even ((2 ^ 53 - j) * (2 * halfStep))
      (308 - (0 + i : Nat)) = none := by
    decide +kernel
  have hsome : ∀ j < 4, 1 ≤ j → Decimal.onGrid? .even ((2 ^ 53 - j) * (2 * halfStep))
      (308 - (0 + 16 : Nat)) = some (17976931348623159 - 2 * j) := by
    decide +kernel
  have hpos : ∀ j < 4, (2 ^ 53 - j) * (2 * halfStep) ≠ 0 := by decide +kernel
  have hlt : j < 4 := by omega
  have hlead : Decimal.leading ((2 ^ 53 - j) * (2 * halfStep)) (632 + 1) 308 = 308 := by
    rw [Decimal.leading, if_pos (hreaches j hlt)]
  rw [Decimal.shortest, if_neg (hpos j hlt), hlead,
    Decimal.search_eq (hnone j hlt hj) (hsome j hlt hj) (by decide), Decimal.normalize,
    dif_neg (by omega)]
  rfl

theorem scales_largest {j : Nat} (hj : 1 ≤ j) (hj' : j ≤ 3) :
    Scales ⟨17976931348623159 - 2 * j, 292⟩ := by
  intro negative n e _ _ hexact
  have hbound : 17976931348623159 ≤ significandBound := by decide
  obtain ⟨rfl, rfl⟩ := hexact (by simp only; omega)
  have hlt : ∀ j < 4, 1 ≤ j → Binary64.nearest (Binary64.nearest
      ((17976931348623159 - 2 * j) * unitsPerOne) 1 * powerOfTen 292) unitsPerOne
        < Nat.pow 2 2098 := by
    decide +kernel
  rw [scaled?, Ne, Option.map_eq_none_iff]
  exact scale_of_lt (by decide) (hlt j (by omega) hj)

theorem lead_largest {j : Nat} (hj : 1 ≤ j) (hj' : j ≤ 3) :
    (292 : Int) + (Decimal.text (17976931348623159 - 2 * j)).length - 1 < 309 := by
  have hlead : ∀ j < 4, 1 ≤ j →
      (292 : Int) + (Decimal.text (17976931348623159 - 2 * j)).length - 1 < 309 := by
    decide
  exact hlead j (by omega) hj

/-- A decimal that stays clear of the bound scales: the three roundings of
the reader are not enough to reach it. -/
theorem scales_of_le {d : Decimal}
    (h : d.value * unitsPerOne ≤ ((2 ^ 54 - 7) * halfStep : Nat)) : Scales d := by
  intro negative n e hn hle _
  refine scaled?_ne_none negative hn (le_trans ?_ h)
  exact mul_le_mul_of_nonneg_right hle (Nat.cast_nonneg _)

theorem lead_lt {d : Decimal} (hd : 0 < d.digits)
    (h : d.value * unitsPerOne ≤ ((2 ^ 54 - 7) * halfStep : Nat)) :
    d.exponent + (Decimal.text d.digits).length - 1 < 309 := by
  obtain ⟨k, hk, hbound⟩ := Binary64.exists_bound_lt_pow
  have hlength := List.length_pos_iff.mpr (Decimal.text_ne_nil d.digits)
  have hdigits : (10 ^ ((Decimal.text d.digits).length - 1) : ℚ) ≤ d.digits := by
    exact_mod_cast Decimal.pow_length_le hd
  have hexponent : (((Decimal.text d.digits).length - 1 : Nat) : Int) + d.exponent =
      d.exponent + (Decimal.text d.digits).length - 1 := by
    omega
  have hvalue : (10 ^ (d.exponent + (Decimal.text d.digits).length - 1) : ℚ) ≤ d.value :=
    calc (10 ^ (d.exponent + (Decimal.text d.digits).length - 1) : ℚ)
        = 10 ^ (((Decimal.text d.digits).length - 1 : Nat) : Int) * 10 ^ d.exponent := by
          rw [← zpow_add₀ (by norm_num), hexponent]
      _ ≤ d.digits * 10 ^ d.exponent := by
          rw [zpow_natCast]
          exact mul_le_mul_of_nonneg_right hdigits (by positivity)
  have hlt : d.value * unitsPerOne < (10 ^ (k : Int) * unitsPerOne : ℚ) := by
    refine lt_of_le_of_lt h ?_
    have hle : (2 ^ 54 - 7) * halfStep ≤ 2 ^ 54 * halfStep :=
      Nat.mul_le_mul_right _ (Nat.sub_le _ _)
    rw [zpow_natCast]
    exact_mod_cast Nat.lt_of_le_of_lt hle hbound
  have hunits : (0 : ℚ) ≤ unitsPerOne := Nat.cast_nonneg _
  have hpow := lt_of_le_of_lt hvalue (lt_of_mul_lt_mul_right hlt hunits)
  rw [zpow_lt_zpow_iff_right₀ (by norm_num)] at hpow
  omega

/-- What the shortest decimal of a positive amount is to the reader. -/
theorem shortest_scales {units : Nat} (h : Fits units)
    (hd : 0 < (Decimal.shortest .even units).digits) :
    Scales (Decimal.shortest .even units) ∧
      (Decimal.shortest .even units).exponent +
        (Decimal.text (Decimal.shortest .even units).digits).length - 1 < 309 := by
  rcases h.near_bound with ⟨j, hj, hj', hunits⟩ | hle
  · rw [hunits, shortest_largest hj hj']
    exact ⟨scales_largest hj hj', lead_largest hj hj'⟩
  · rcases Decimal.shortest_within .even units with hnone | hwithin
    · rw [hnone] at hd
      exact absurd hd (Nat.lt_irrefl 0)
    · have hvalue := hwithin.value_le hle
      exact ⟨scales_of_le hvalue, lead_lt hd hvalue⟩

theorem shortest_zero {tie : Decimal.Tie} {units : Nat}
    (h : (Decimal.shortest tie units).digits = 0) : Decimal.shortest tie units = ⟨0, 0⟩ := by
  by_cases hunits : units = 0
  · rw [hunits]
    rfl
  · rcases Decimal.shortest_within tie units with hnone | hwithin
    · exact hnone
    · exact absurd h (Nat.ne_of_gt (hwithin.digits_pos (Nat.pos_of_ne_zero hunits)))

/-- The text of a finite amount is a number in range. -/
theorem finite_number (negative : Bool) {units : Nat} (h : Fits units) :
    ∃ n : Numeral, n.text = Notation.json.finite negative units ∧ n.value? ≠ none := by
  have hmagnitude : ∃ n : Numeral, n.negative = negative ∧
      n.magnitude = Notation.json.magnitude (Decimal.shortest .even units) ∧ n.value? ≠ none := by
    rw [Notation.magnitude]
    split
    · next hplain =>
        refine plain_numeral negative ?_ ?_
        · intro hzero
          rw [shortest_zero hzero]
        · rcases hplain with hzero | hlead
          · rw [shortest_zero hzero]
            decide
          · have := hlead.2
            simp only [Notation.json] at this
            omega
    · next hscientific =>
        have hd : 0 < (Decimal.shortest .even units).digits := by
          refine Nat.pos_of_ne_zero ?_
          intro hzero
          exact hscientific (.inl hzero)
        obtain ⟨hscales, hlead⟩ := shortest_scales h hd
        exact scientific_numeral negative hd hscales (lt_trans hlead (by decide))
  obtain ⟨n, rfl, hbody, hvalue⟩ := hmagnitude
  refine ⟨n, ?_, hvalue⟩
  rw [Numeral.text, hbody]
  rfl

end OrderDesk.Json
