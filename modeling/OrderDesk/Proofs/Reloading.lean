/-
# `Proofs.Reloading` — ordinary amounts are read again as they were

The reader of numbers rounds the digits, rounds the power of ten, and rounds
what it makes of both.  With digits of at most 2⁵³ and a power of ten between
10⁻²² and 10²² the first two roundings change nothing: such numbers have 53
significant bits (`spaced_digits`, `powerOfTen_eq`).  One rounding of the exact
number is left, and that one gives the amount which the number names
(`Numeral.value?_exact`).

What an order writes names its amount, so orders of this kind come back from
their JSON form.  Beyond the bounds an order may come back with another amount
(`Order.ordinary_reload`).
-/
import OrderDesk.Proofs.Renderings

namespace OrderDesk

namespace Binary64

/-- A number of 53 bits is one of 53 significant bits wherever it stands, and
so is the first of 54. -/
theorem spaced_mul_pow {n : Nat} (h : n ≤ 2 ^ 53) (k : Nat) : Spaced (n * 2 ^ k) := by
  rcases Nat.lt_or_eq_of_le h with hlt | rfl
  · have hbound : n * 2 ^ k < 2 ^ (53 + k) := by
      rw [Nat.pow_add]
      exact Nat.mul_lt_mul_of_pos_right hlt (Nat.two_pow_pos k)
    have hcoarse : coarseness (n * 2 ^ k) ≤ k := by
      by_cases hc : coarseness (n * 2 ^ k) = 0
      · omega
      · have hpow := Nat.lt_of_le_of_lt (pow_coarseness_le hc) hbound
        have := (Nat.pow_lt_pow_iff_right Nat.one_lt_two).mp hpow
        omega
    exact Nat.dvd_trans (Nat.pow_dvd_pow 2 hcoarse) (Nat.dvd_mul_left _ _)
  · have hcoarse : coarseness (2 ^ (53 + k)) = k + 1 :=
      coarseness_eq (fun _ => Nat.pow_le_pow_right Nat.two_pos (by omega))
        (Nat.pow_lt_pow_right Nat.one_lt_two (by omega))
    rw [← Nat.pow_add, Spaced, hcoarse]
    exact Nat.pow_dvd_pow 2 (by omega)

theorem unitsPerOne_eq_pow : ∃ k, unitsPerOne = 2 ^ k := by
  unfold unitsPerOne
  generalize 1074 = k
  exact ⟨k, rfl⟩

theorem ofUnits_eq {n d units : Nat} (h : nearest n d = units) (hfits : Fits units)
    (negative : Bool) : ofUnits negative n d = .finite negative units hfits := by
  rw [ofUnits]
  simp only [h, dif_pos hfits]

end Binary64

namespace Json

open Binary64 (Fits Spaced IsNearest nearest unitsPerOne)
open Decimal (RoundsTo)

/-! ## Exact factors -/

/-- Whole numbers of 53 bits are not rounded. -/
theorem spaced_digits {n : Nat} (h : n ≤ 2 ^ 53) : Spaced (n * unitsPerOne) := by
  obtain ⟨k, hk⟩ := Binary64.unitsPerOne_eq_pow
  rw [hk]
  exact Binary64.spaced_mul_pow h k

/-- Neither are the first powers of ten: their odd parts have 53 bits. -/
theorem powerOfTen_eq {k : Nat} (h : k ≤ 22) : powerOfTen k = 10 ^ k * unitsPerOne := by
  obtain ⟨j, hj⟩ := Binary64.unitsPerOne_eq_pow
  have hodd : 5 ^ k ≤ 2 ^ 53 := Nat.le_trans (Nat.pow_le_pow_right (by decide) h) (by decide)
  have hparts : 10 ^ k * unitsPerOne = 5 ^ k * 2 ^ (k + j) := by
    rw [hj, Nat.pow_add, ← Nat.mul_assoc, ← Nat.mul_pow]
  show nearest (10 ^ k * unitsPerOne) 1 = _
  rw [hparts]
  exact Decimal.nearest_spaced (Binary64.spaced_mul_pow hodd _)

section Exact

variable {significand units : Nat} {e : Int}

/-- With exact factors one rounding is left. -/
theorem scale_exact (hdigits : significand ≤ 2 ^ 53) (hlow : -22 ≤ e) (hhigh : e ≤ 22)
    (hfits : Fits units) (h : RoundsTo units (significand * 10 ^ e)) :
    scale (nearest (significand * unitsPerOne) 1) e = some units := by
  have hpos := Binary64.unitsPerOne_pos
  have hne : (unitsPerOne : ℚ) ≠ 0 := by exact_mod_cast Nat.ne_of_gt hpos
  rw [Decimal.nearest_spaced (spaced_digits hdigits), scale, if_neg (by omega)]
  rcases lt_or_ge e 0 with hneg | hnonneg
  · obtain ⟨k, hk⟩ := Int.eq_ofNat_of_zero_le (show 0 ≤ -e by omega)
    obtain rfl : e = -(k : Int) := by omega
    have hround : nearest (significand * unitsPerOne * unitsPerOne) (powerOfTen k) = units := by
      rw [powerOfTen_eq (by omega)]
      refine h.nearest_eq (Nat.mul_pos (Nat.pow_pos (by decide)) hpos) hfits.spaced ?_
      push_cast
      rw [zpow_neg, zpow_natCast, mul_div_mul_right _ _ hne, mul_right_comm, div_eq_mul_inv]
    rw [if_pos hneg, neg_neg, Int.toNat_natCast, hround]
  · obtain ⟨k, rfl⟩ := Int.eq_ofNat_of_zero_le hnonneg
    have hround : nearest (significand * unitsPerOne * powerOfTen k) unitsPerOne = units := by
      rw [powerOfTen_eq (by omega)]
      refine h.nearest_eq hpos hfits.spaced ?_
      push_cast
      rw [zpow_natCast, eq_div_iff hne]
      ring
    rw [if_neg (by omega), if_neg (by omega), Int.toNat_natCast, hround]
    exact if_pos hfits.1

theorem scaled?_exact (negative : Bool) (hdigits : significand ≤ 2 ^ 53) (hlow : -22 ≤ e)
    (hhigh : e ≤ 22) (hfits : Fits units) (h : RoundsTo units (significand * 10 ^ e)) :
    scaled? negative significand e = some (.finite negative units hfits) := by
  rw [scaled?, scale_exact hdigits hlow hhigh hfits h, Option.map_some,
    Binary64.ofUnits_eq (Decimal.nearest_spaced hfits.spaced) hfits]

end Exact

/-! ## Short numerals -/

theorem wholeNumber_toAmount (negative : Bool) (n : Nat) :
    (wholeNumber negative n).toAmount = Binary64.ofNat negative n := by
  rw [wholeNumber]
  cases negative with
  | false => rfl
  | true =>
      rw [if_pos rfl]
      split <;> rfl

/-- The exponent of a numeral and the places behind its point add up. -/
theorem finished?_eq (negative : Bool) (significand places : Nat) (exponent : Option Exponent)
    (hbound : ∀ e ∈ exponent, Nat.ofDigitChars 10 e.digits 0 < exponentBound) :
    finished? negative significand (-places) exponent =
      scaled? negative significand (exponent.elim 0 Exponent.value - places) := by
  cases exponent with
  | none => rw [finished?, Option.elim_none, zero_sub]
  | some e =>
      have hshift : shifted e.minus (-places) (Nat.ofDigitChars 10 e.digits 0) =
          e.value - places := by
        rw [shifted, Exponent.value]
        split <;> omega
      rw [finished?, exponentValue?_eq (hbound e rfl), Option.elim_some, ← hshift]
      rfl

/-- A numeral of few digits and a small power of ten is read as the amount that
it names. -/
theorem Numeral.value?_exact {n : Numeral} {units : Nat} (hfits : Fits units)
    (hdigits : n.significand ≤ 2 ^ 53) (hlow : -22 ≤ n.power) (hhigh : n.power ≤ 22)
    (hbound : ∀ e ∈ n.exponent, Nat.ofDigitChars 10 e.digits 0 < exponentBound)
    (h : RoundsTo units n.worth) :
    n.value?.map Number.toAmount = some (.finite n.negative units hfits) := by
  have hall : Nat.ofDigitChars 10 n.fraction (Nat.ofDigitChars 10 n.whole 0) = n.significand :=
    (ofDigitChars_append _ _ _).symm
  have hlt : n.significand < significandBound := Nat.lt_of_le_of_lt hdigits (by decide)
  have hwhole : gather 0 n.whole = (Nat.ofDigitChars 10 n.whole 0, n.whole.length) := by
    refine gather_eq (Nat.lt_of_le_of_lt ?_ hlt)
    rw [← hall]
    exact Decimal.self_le_ofDigitChars _ _
  have hfraction : gather (Nat.ofDigitChars 10 n.whole 0) n.fraction =
      (n.significand, n.fraction.length) := by
    rw [gather_eq (hall ▸ hlt), hall]
  rw [worth] at h
  simp only [value?, hwhole, hfraction, Nat.sub_self, Nat.cast_zero, zero_sub]
  split
  · next hplain =>
      -- without fraction and exponent the digits are kept as they are
      obtain ⟨hnil, hnone, -⟩ := hplain
      have hpower : n.power = 0 := by rw [power, hnil, hnone]; rfl
      have hsame : Nat.ofDigitChars 10 n.whole 0 = n.significand := by rw [← hall, hnil]; rfl
      rw [hpower, zpow_zero, mul_one] at h
      rw [Option.map_some, wholeNumber_toAmount, hsame]
      refine congrArg some (Binary64.ofUnits_eq (h.nearest_eq Nat.one_pos hfits.spaced ?_) hfits _)
      rw [Nat.cast_one, div_one, Nat.cast_mul]
  · rw [finished?_eq _ _ _ _ hbound]
    have hscaled := scaled?_exact n.negative hdigits hlow hhigh hfits h
    rw [power] at hscaled
    rw [hscaled]
    rfl

end Json

/-! ## Orders -/

namespace Order

open Json
open Binary64 (nearest unitsPerOne)

/-- The number in the JSON form of an order is the one that is written for its
amount. -/
theorem ofAmount_of_hasAmount {o : Order} {m : Numeral} (h : HasAmount o.json.compact m) :
    Value.ofAmount o.amount = .number m.text := by
  obtain ⟨ms, hdocument, honly⟩ := h
  have hobject : Value.object ms = .object o.members :=
    hdocument.unique o.numbered.compact.document
  obtain rfl := Value.object.inj hobject
  have hown : Only o.members "amount" (.ofAmount o.amount) := by
    simp [Only, named, members]
  exact hown.unique honly

/-- The exponents that are written have three digits. -/
theorem exponent_lt {negative : Bool} {units : Nat} (h : Binary64.Fits units) {m : Numeral}
    (hm : m.text = Notation.json.finite negative units) :
    ∀ e ∈ m.exponent, Nat.ofDigitChars 10 e.digits 0 < exponentBound := by
  intro e he
  obtain ⟨n, hn, -, hexponent, -⟩ := json_numeral negative units
  obtain rfl := Numeral.text_inj (hm.trans hn.symm)
  rw [hexponent] at he
  split at he
  · cases he
  · next hscientific =>
      have hpos : 0 < units := by
        refine Nat.pos_of_ne_zero ?_
        rintro rfl
        exact hscientific (.inl rfl)
      obtain ⟨hleast, hmost⟩ := Decimal.lead_shortest h hpos .even
      have hbound : 324 < exponentBound := by decide
      rw [← Option.some.inj he, leadExponent, Decimal.ofDigitChars_text]
      omega

/-- An order whose amount is written with few digits and a small power of ten
comes back from its JSON form. -/
theorem decode_exact {o : Order} {m : Numeral} (h : HasAmount o.json.compact m)
    (hdigits : m.significand ≤ 2 ^ 53) (hlow : -22 ≤ m.power) (hhigh : m.power ≤ 22) :
    decode (Utf8.encode o.json.compact) = .ok o ∧ decode (Utf8.encode o.json.pretty) = .ok o := by
  have hwritten := ofAmount_of_hasAmount h
  cases hamount : o.amount with
  | nan => rw [hamount] at hwritten; cases hwritten
  | infinite => rw [hamount] at hwritten; cases hwritten
  | finite negative units hfits =>
      obtain ⟨n, m', hshows, -, hsign, -, -, -, hworth⟩ := exists_shown hamount
      obtain rfl := h.unique hshows.compact
      have htext : m.text = Notation.json.finite negative units := by
        rw [hamount] at hwritten
        exact (Value.number.inj hwritten).symm
      have hround := Decimal.shortest_roundsTo hfits .even
      rw [← hworth] at hround
      have hread := m.value?_exact hfits hdigits hlow hhigh (exponent_lt hfits htext) hround
      rw [hsign, ← hamount, Option.map_eq_some_iff] at hread
      obtain ⟨y, hy, hread⟩ := hread
      have hdenotes : Denotes o.json o := denotes_json ⟨y, ⟨m, hwritten, hy⟩, hread.symm⟩
      exact ⟨(decode_document o.numbered.compact.document o).mpr hdenotes,
        (decode_document o.numbered.pretty.document o).mpr hdenotes⟩

/-! ## The bounds are needed -/

/-- An order of 2⁵³ - 1. -/
def odd : Order :=
  .new "o" "c" (.finite false (9007199254740991 * Nat.pow 2 1074) (by decide +kernel))

/-- Its amount is written with a zero behind the point, and so with one digit
more than the reader has bits for. -/
def oddNumeral : Numeral := .padded false 9007199254740991 0 (by decide)

theorem odd_hasAmount : HasAmount odd.json.compact oddNumeral := by
  have htext : Notation.json.finite false (9007199254740991 * Nat.pow 2 1074) =
      oddNumeral.text := by
    decide +kernel
  exact (hasAmount (o := odd) (congrArg Value.number htext)).1

/-- The even neighbour is read. -/
theorem odd_read : oddNumeral.value?.map Number.toAmount =
    some (.finite false (9007199254740990 * Nat.pow 2 1074) (by decide +kernel)) := by
  decide +kernel

/-- An order whose amount is written with an integer of at most 2⁵³ and a power
of ten between 10⁻²² and 10²² comes back from both layouts of its JSON form as
it was.  Not every order does: the reader may miss the amount that a numeral
names. -/
theorem ordinary_reload :
    (∀ (o : Order) (m : Numeral), HasAmount o.json.compact m →
      m.significand ≤ 2 ^ 53 → -22 ≤ m.power → m.power ≤ 22 →
        decode (Utf8.encode o.json.compact) = .ok o ∧
          decode (Utf8.encode o.json.pretty) = .ok o) ∧
    ∃ (o : Order) (m : Numeral) (x : Binary64), HasAmount o.json.compact m ∧ Names m o.amount ∧
      decode (Utf8.encode o.json.compact) = .ok { o with amount := x } ∧ x ≠ o.amount := by
  refine ⟨fun o m h hdigits hlow hhigh => decode_exact h hdigits hlow hhigh, ?_⟩
  obtain ⟨n, m, hshows, -⟩ := exists_shown (o := odd) rfl
  obtain rfl := hshows.compact.unique odd_hasAmount
  obtain ⟨y, hy, hread⟩ := Option.map_eq_some_iff.mp odd_read
  have hdenotes := denotes_json (o := odd) ⟨y, ⟨_, ofAmount_of_hasAmount odd_hasAmount, hy⟩, rfl⟩
  refine ⟨odd, _, y.toAmount, odd_hasAmount, (hshows.names rfl).2,
    (decode_document odd.numbered.compact.document _).mpr hdenotes, ?_⟩
  rw [hread]
  decide +kernel

/-- An order of 19.99. -/
def priced : Order :=
  .new "o" "c" (.finite false (nearest (1999 * unitsPerOne) 100) (by decide +kernel))

def pricedNumeral : Numeral := .pointed false 1999 2 (by decide) (by decide)

theorem priced_hasAmount : HasAmount priced.json.compact pricedNumeral := by
  have htext : Notation.json.finite false (nearest (1999 * unitsPerOne) 100) =
      pricedNumeral.text := by
    decide +kernel
  exact (hasAmount (o := priced) (congrArg Value.number htext)).1

theorem priced_reload :
    pricedNumeral.significand = 1999 ∧ pricedNumeral.power = -2 ∧
      decode (Utf8.encode priced.json.compact) = .ok priced ∧
        decode (Utf8.encode priced.json.pretty) = .ok priced := by
  have hdigits : pricedNumeral.significand = 1999 := by decide
  have hpower : pricedNumeral.power = -2 := by decide
  refine ⟨hdigits, hpower, ordinary_reload.1 priced pricedNumeral priced_hasAmount ?_ ?_ ?_⟩
  · omega
  · omega
  · omega

end Order

end OrderDesk
