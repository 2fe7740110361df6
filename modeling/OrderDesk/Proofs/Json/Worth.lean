/-
# `Proofs.Json.Worth` — the number that a numeral is

A numeral is worth the integer of all its digits, scaled by its exponent
without the places behind the point.  No reader of the program has a part in
this, so it can be asked of both forms of an order in which number they show
an amount.  The question has one answer because a text is one numeral at most
(`Numeral.text_inj`).

A decimal written in either layout is a numeral of the same worth
(`plain_worth`, `scientific_worth`): zeros that are added behind the digits are
worth their places, and zeros in front of them nothing.
-/
import OrderDesk.Proofs.Decimal.Search
import OrderDesk.Proofs.Json.AmountText
import OrderDesk.Proofs.Json.Unambiguous

namespace OrderDesk.Json

open Binary64 (Fits)

/-- The integer that an exponent is. -/
def Exponent.value (e : Exponent) : Int :=
  if e.minus then -Nat.ofDigitChars 10 e.digits 0 else Nat.ofDigitChars 10 e.digits 0

namespace Numeral

/-- The integer of all digits, in front of the point and behind it. -/
def significand (n : Numeral) : Nat := Nat.ofDigitChars 10 (n.whole ++ n.fraction) 0

/-- The power of ten that counts as one in the last digit. -/
def power (n : Numeral) : Int := n.exponent.elim 0 Exponent.value - n.fraction.length

/-- The number without its sign. -/
def worth (n : Numeral) : ℚ := n.significand * 10 ^ n.power

theorem worth_nonneg (n : Numeral) : 0 ≤ n.worth :=
  mul_nonneg (Nat.cast_nonneg _) (le_of_lt (zpow_pos (by norm_num) _))

end Numeral

/-! ## One numeral a text -/

/-- Digits end at the first character that is none. -/
theorem Digits.append_inj {ds ds' s s' : List Char} (hds : Digits ds) (hds' : Digits ds')
    (hs : NoDigit s) (hs' : NoDigit s') (h : ds ++ s = ds' ++ s') : ds = ds' ∧ s = s' := by
  have hdrop := dropDigits_digits hds hs
  rw [h, dropDigits_digits hds' hs', Prod.mk.injEq] at hdrop
  exact List.append_inj h hdrop.1.symm

theorem Exponent.text_inj {e e' : Exponent} (h : e.text = e'.text) : e = e' := by
  obtain ⟨d, ds, hds, -, hplus, hneg, -⟩ := e.digits_eq_cons
  obtain ⟨d', ds', hds', -, hplus', hneg', -⟩ := e'.digits_eq_cons
  obtain ⟨hletter, hrest⟩ := List.cons.inj h
  -- a sign is no digit, so both have one or none
  have hsigned : e.sign = e'.sign ∧ e.digits = e'.digits := by
    have hsign := e.sign_eq
    have hsign' := e'.sign_eq
    cases hs : e.sign with
    | none =>
        cases hs' : e'.sign with
        | none =>
            rw [hs, hs'] at hrest
            exact ⟨rfl, hrest⟩
        | some c' =>
            rw [hs, hs', hds] at hrest
            rw [(List.cons.inj hrest).1] at hplus hneg
            rcases hsign' c' hs' with rfl | rfl
            · exact absurd rfl hplus
            · exact absurd rfl hneg
    | some c =>
        cases hs' : e'.sign with
        | none =>
            rw [hs, hs', hds'] at hrest
            rw [← (List.cons.inj hrest).1] at hplus' hneg'
            rcases hsign c hs with rfl | rfl
            · exact absurd rfl hplus'
            · exact absurd rfl hneg'
        | some c' =>
            rw [hs, hs'] at hrest
            obtain ⟨hc, hdigits⟩ := List.cons.inj hrest
            exact ⟨congrArg some hc, hdigits⟩
  cases e
  cases e'
  obtain ⟨rfl, rfl⟩ := hsigned
  obtain rfl := hletter
  rfl

namespace Numeral

theorem exponentText_inj {n m : Numeral} (h : n.exponentText = m.exponentText) :
    n.exponent = m.exponent := by
  rw [exponentText, exponentText] at h
  cases hn : n.exponent with
  | none =>
      cases hm : m.exponent with
      | none => rfl
      | some e =>
          rw [hn, hm] at h
          cases h
  | some e =>
      cases hm : m.exponent with
      | none =>
          rw [hn, hm] at h
          cases h
      | some e' =>
          rw [hn, hm] at h
          exact congrArg some (Exponent.text_inj h)

theorem noDigit_exponentText (n : Numeral) : NoDigit n.exponentText := by
  have h := noDigit_exponent n.exponent stops_nil
  rwa [List.append_nil] at h

/-- The point is no letter of an exponent. -/
theorem exponentText_ne_point (n : Numeral) (s : List Char) : n.exponentText ≠ '.' :: s := by
  rw [exponentText]
  cases n.exponent with
  | none => exact (List.cons_ne_nil _ _).symm
  | some e =>
      intro h
      have hletter : e.letter = '.' := (List.cons.inj h).1
      rcases e.letter_eq with he | he
      · cases he.symm.trans hletter
      · cases he.symm.trans hletter

/-- Behind the digits in front of the point there is one way on. -/
theorem fraction_inj {n m : Numeral}
    (h : n.fractionText ++ n.exponentText = m.fractionText ++ m.exponentText) :
    n.fraction = m.fraction ∧ n.exponentText = m.exponentText := by
  rw [fractionText, fractionText] at h
  by_cases hn : n.fraction = []
  · by_cases hm : m.fraction = []
    · rw [if_pos hn, if_pos hm] at h
      exact ⟨hn.trans hm.symm, h⟩
    · rw [if_pos hn, if_neg hm] at h
      exact absurd h (n.exponentText_ne_point _)
  · by_cases hm : m.fraction = []
    · rw [if_neg hn, if_pos hm] at h
      exact absurd h.symm (m.exponentText_ne_point _)
    · rw [if_neg hn, if_neg hm] at h
      exact n.fraction_digits.append_inj m.fraction_digits n.noDigit_exponentText
        m.noDigit_exponentText (List.cons.inj h).2

theorem magnitude_inj {n m : Numeral} (h : n.magnitude = m.magnitude) :
    n.whole = m.whole ∧ n.fraction = m.fraction ∧ n.exponent = m.exponent := by
  have hnodigit : ∀ k : Numeral, NoDigit (k.fractionText ++ k.exponentText) := by
    intro k
    have hk := noDigit_fraction k stops_nil
    rwa [List.append_nil] at hk
  obtain ⟨hwhole, hrest⟩ := n.whole_digits.append_inj m.whole_digits (hnodigit n) (hnodigit m) h
  obtain ⟨hfraction, hexponent⟩ := fraction_inj hrest
  exact ⟨hwhole, hfraction, exponentText_inj hexponent⟩

/-- A text is one numeral at most. -/
theorem text_inj {n m : Numeral} (h : n.text = m.text) : n = m := by
  have hminus : ∀ (k : Numeral) (s : List Char), k.magnitude ≠ '-' :: s := by
    intro k s hk
    have hdigit : '-'.isDigit = true := isDigit_of_mem_head? (n := k) (s := []) '-' (by
      rw [List.append_nil, hk]
      rfl)
    cases hdigit
  have hsigned : n.negative = m.negative ∧ n.magnitude = m.magnitude := by
    rw [text, text] at h
    cases hn : n.negative <;> cases hm : m.negative <;> rw [hn, hm] at h
    case false.false => exact ⟨rfl, h⟩
    case false.true => exact absurd h (hminus n _)
    case true.false => exact absurd h.symm (hminus m _)
    case true.true => exact ⟨rfl, (List.cons.inj h).2⟩
  obtain ⟨hnegative, hmagnitude⟩ := hsigned
  obtain ⟨hwhole, hfraction, hexponent⟩ := magnitude_inj hmagnitude
  cases n
  cases m
  simp only [mk.injEq]
  exact ⟨hnegative, hwhole, hfraction, hexponent⟩

end Numeral

/-! ## Layouts -/

theorem ofDigitChars_zeros (n k : Nat) :
    Nat.ofDigitChars 10 (List.replicate k '0') n = n * 10 ^ k := by
  induction k generalizing n with
  | zero => simp
  | succ k ih =>
      rw [List.replicate_succ, ofDigitChars_cons, ih, Nat.pow_succ']
      show (n * 10 + 0) * 10 ^ k = _
      rw [Nat.add_zero, Nat.mul_assoc]

theorem ofDigitChars_append (ds ds' : List Char) (n : Nat) :
    Nat.ofDigitChars 10 (ds ++ ds') n = Nat.ofDigitChars 10 ds' (Nat.ofDigitChars 10 ds n) := by
  simp [Nat.ofDigitChars]

namespace Numeral

theorem padded_worth (negative : Bool) (digits k : Nat) (h : digits = 0 → k = 0) :
    (padded negative digits k h).worth = digits * 10 ^ (k : Int) := by
  have hdigits : (padded negative digits k h).significand = digits * 10 ^ (k + 1) := by
    show Nat.ofDigitChars 10 (Decimal.text digits ++ List.replicate k '0' ++
      List.replicate 1 '0') 0 = _
    rw [List.append_assoc, List.replicate_append_replicate, ofDigitChars_append,
      Decimal.ofDigitChars_text, ofDigitChars_zeros]
  have hpower : (padded negative digits k h).power = -1 := rfl
  rw [worth, hdigits, hpower, zpow_natCast]
  push_cast
  rw [pow_succ, mul_assoc, mul_assoc, zpow_neg, zpow_one, mul_inv_cancel₀ (by norm_num), mul_one]

/-- The number with all its digits in front of the point, and no point. -/
def unpointed (negative : Bool) (digits k : Nat) (h : digits = 0 → k = 0) : Numeral :=
  { padded negative digits k h with
    fraction := []
    fraction_digits := digits_zeros 0 }

theorem unpointed_magnitude (negative : Bool) (digits k : Nat) (h : digits = 0 → k = 0) :
    (unpointed negative digits k h).magnitude = Notation.plain false (Decimal.text digits) k := by
  simp [unpointed, padded, magnitude, fractionText, exponentText, Notation.plain]

theorem unpointed_worth (negative : Bool) (digits k : Nat) (h : digits = 0 → k = 0) :
    (unpointed negative digits k h).worth = digits * 10 ^ (k : Int) := by
  have hdigits : (unpointed negative digits k h).significand = digits * 10 ^ k := by
    rw [significand, unpointed, padded, List.append_nil, ofDigitChars_append,
      Decimal.ofDigitChars_text, ofDigitChars_zeros]
  have hpower : (unpointed negative digits k h).power = 0 := rfl
  rw [worth, hdigits, hpower, zpow_zero, mul_one, zpow_natCast]
  push_cast
  rfl

theorem pointed_worth (negative : Bool) {digits k : Nat} (hd : digits ≠ 0)
    (hk : k < (Decimal.text digits).length) :
    (pointed negative digits k hd hk).worth = digits * 10 ^ (-k : Int) := by
  have hdigits : (pointed negative digits k hd hk).significand = digits := by
    rw [significand, pointed, List.take_append_drop, Decimal.ofDigitChars_text]
  have hpower : (pointed negative digits k hd hk).power = -k := by
    simp only [power, pointed, Option.elim_none, List.length_drop]
    omega
  rw [worth, hdigits, hpower]

theorem small_worth (negative : Bool) {digits k : Nat} (hk : ¬ k < (Decimal.text digits).length) :
    (small negative digits k).worth = digits * 10 ^ (-k : Int) := by
  have hdigits : (small negative digits k).significand = digits := by
    rw [significand, small, List.singleton_append, ← List.cons_append, ← List.replicate_succ,
      ofDigitChars_append, ofDigitChars_zeros, Nat.zero_mul, Decimal.ofDigitChars_text]
  have hpower : (small negative digits k).power = -k := by
    simp only [power, small, Option.elim_none, List.length_append, List.length_replicate]
    omega
  rw [worth, hdigits, hpower]

theorem leadExponent_value (lead : Int) : (leadExponent lead).value = lead := by
  rw [Exponent.value, leadExponent_minus, leadExponent, Decimal.ofDigitChars_text]
  by_cases h : lead < 0
  · rw [decide_eq_true h, if_pos rfl]
    omega
  · rw [decide_eq_false h, if_neg Bool.false_ne_true]
    omega

theorem leading_worth (negative : Bool) {digits : Nat} {c : Char} {cs : List Char} (lead : Int)
    (h : Digits (c :: cs)) (hcs : Decimal.text digits = c :: cs) :
    (leading negative lead h).worth = digits * 10 ^ (lead - cs.length) := by
  have hdigits : (leading negative lead h).significand = digits := by
    rw [significand, leading, List.singleton_append, ← hcs, Decimal.ofDigitChars_text]
  have hpower : (leading negative lead h).power = lead - cs.length := by
    simp only [power, leading, Option.elim_some, leadExponent_value]
  rw [worth, hdigits, hpower]

end Numeral

/-- A decimal in plain layout is a numeral without an exponent. -/
theorem plain_worth (fraction negative : Bool) {d : Decimal}
    (hzero : d.digits = 0 → d.exponent = 0) :
    ∃ n : Numeral, n.negative = negative ∧
      n.magnitude = Notation.plain fraction (Decimal.text d.digits) d.exponent ∧
        n.exponent = none ∧ n.worth = d.value := by
  obtain ⟨digits, exponent⟩ := d
  by_cases hle : 0 ≤ exponent
  · obtain ⟨k, rfl⟩ := Int.eq_ofNat_of_zero_le hle
    have hk : digits = 0 → k = 0 := by
      intro hd
      exact Int.natCast_eq_zero.mp (hzero hd)
    cases fraction with
    | true =>
        exact ⟨.padded negative digits k hk, rfl,
          Numeral.padded_magnitude negative digits k hk, rfl,
          Numeral.padded_worth negative digits k hk⟩
    | false =>
        exact ⟨.unpointed negative digits k hk, rfl,
          Numeral.unpointed_magnitude negative digits k hk, rfl,
          Numeral.unpointed_worth negative digits k hk⟩
  · have hplain : Notation.plain fraction (Decimal.text digits) exponent =
        Notation.plain true (Decimal.text digits) exponent := by
      rw [Notation.plain, Notation.plain, if_neg hle, if_neg hle]
    obtain ⟨k, hk⟩ := Int.eq_ofNat_of_zero_le (show 0 ≤ -exponent by omega)
    obtain rfl : exponent = -(k : Int) := by omega
    have hdigits : digits ≠ 0 := by
      intro hd
      have : -(k : Int) = 0 := hzero hd
      omega
    have hplaces : 0 < k := by omega
    rw [hplain]
    by_cases hlt : k < (Decimal.text digits).length
    · exact ⟨.pointed negative digits k hdigits hlt, rfl,
        Numeral.pointed_magnitude negative hdigits hlt hplaces, rfl,
        Numeral.pointed_worth negative hdigits hlt⟩
    · exact ⟨.small negative digits k, rfl, Numeral.small_magnitude negative hlt hplaces, rfl,
        Numeral.small_worth negative hlt⟩

/-- A decimal in scientific layout is a numeral with the exponent of its
first digit. -/
theorem scientific_worth (negative : Bool) (d : Decimal) :
    ∃ n : Numeral, n.negative = negative ∧
      n.magnitude = Notation.scientific true (Decimal.text d.digits) d.exponent ∧
        n.exponent = some (leadExponent (d.exponent + (Decimal.text d.digits).length - 1)) ∧
          n.worth = d.value := by
  obtain ⟨c, cs, hcs⟩ := List.exists_cons_of_ne_nil (Decimal.text_ne_nil d.digits)
  have hdigits : Digits (c :: cs) := hcs ▸ digits_text d.digits
  have hlead : d.exponent + (Decimal.text d.digits).length - 1 = d.exponent + cs.length := by
    rw [hcs, List.length_cons]
    omega
  rw [hlead]
  refine ⟨.leading negative (d.exponent + cs.length) hdigits, rfl, ?_, rfl, ?_⟩
  · rw [hcs, scientific_eq]
    rfl
  · rw [Numeral.leading_worth negative _ hdigits hcs, Decimal.value, add_sub_cancel_right]

/-! ## Amounts -/

section Amounts

variable {units : Nat}

/-- The sign in front of the layout of a decimal. -/
theorem Numeral.text_eq_finite {n : Numeral} {form : Notation} {negative : Bool}
    (hnegative : n.negative = negative)
    (h : n.magnitude = form.magnitude (Decimal.shortest form.tie units)) :
    n.text = form.finite negative units := by
  rw [text, hnegative, h]
  rfl

/-- On the line of an order an amount never has an exponent. -/
theorem full_numeral (negative : Bool) (h : Fits units) :
    ∃ n : Numeral, n.text = Notation.full.finite negative units ∧ n.negative = negative ∧
      n.exponent = none ∧ n.worth = (Decimal.shortest .up units).value := by
  have hplain : (Decimal.shortest .up units).digits = 0 ∨
      (-1000 ≤ (Decimal.shortest .up units).lead ∧
        (Decimal.shortest .up units).lead < 1000) := by
    rcases Nat.eq_zero_or_pos units with hzero | hpos
    · rw [Decimal.shortest, if_pos hzero]
      exact .inl rfl
    · obtain ⟨hleast, hmost⟩ := Decimal.lead_shortest h hpos .up
      exact .inr ⟨by omega, by omega⟩
  obtain ⟨n, hnegative, hmagnitude, hexponent, hworth⟩ := plain_worth false negative
    (d := Decimal.shortest .up units) (fun hd => by rw [shortest_zero hd])
  refine ⟨n, Numeral.text_eq_finite hnegative ?_, hnegative, hexponent, hworth⟩
  rw [hmagnitude, Notation.magnitude]
  exact (if_pos hplain).symm

/-- In JSON it has one, unless it is zero or the exponent is small. -/
theorem json_numeral (negative : Bool) (units : Nat) :
    ∃ n : Numeral, n.text = Notation.json.finite negative units ∧ n.negative = negative ∧
      (n.exponent =
        if (Decimal.shortest .even units).digits = 0 ∨
          (-5 ≤ (Decimal.shortest .even units).lead ∧ (Decimal.shortest .even units).lead < 16)
        then none else some (leadExponent (Decimal.shortest .even units).lead)) ∧
      n.worth = (Decimal.shortest .even units).value := by
  by_cases hplain : (Decimal.shortest .even units).digits = 0 ∨
      (-5 ≤ (Decimal.shortest .even units).lead ∧ (Decimal.shortest .even units).lead < 16)
  · obtain ⟨n, hnegative, hmagnitude, hexponent, hworth⟩ := plain_worth true negative
      (d := Decimal.shortest .even units) (fun hd => by rw [shortest_zero hd])
    refine ⟨n, Numeral.text_eq_finite hnegative ?_, hnegative, ?_, hworth⟩
    · rw [hmagnitude, Notation.magnitude]
      exact (if_pos hplain).symm
    · rw [hexponent, if_pos hplain]
  · obtain ⟨n, hnegative, hmagnitude, hexponent, hworth⟩ := scientific_worth negative
      (Decimal.shortest .even units)
    refine ⟨n, Numeral.text_eq_finite hnegative ?_, hnegative, ?_, hworth⟩
    · rw [hmagnitude, Notation.magnitude]
      exact (if_neg hplain).symm
    · rw [hexponent, if_neg hplain]
      rfl

end Amounts

end OrderDesk.Json
