/-
# `Proofs.Renderings` — an amount, shown on one line and in JSON

An order shows its amount twice, and each time as a numeral.  Both numerals
*name* the amount: no other amount is as close to what the numeral is worth
(`Names`), so that no two amounts share a numeral, in neither form
(`Names.unique`).

That does not make the two numerals worth the same.  At a fork two shortest
decimals name the amount, and each form has its own rule for ties: JSON takes
the one with the even digit, the line the larger one.  A fork is the only place
where this happens.

| | |
| :-- | :-- |
| `Shows o n m`      | the line of the order has the numeral `n`, its JSON form `m` |
| `amount_shown`     | both name the amount, and are worth the same outside forks |
| `quartered`        | an order whose amount is at a fork |
-/
import OrderDesk.Proofs.Decimal.Ties
import OrderDesk.Proofs.Json.Worth
import OrderDesk.Proofs.RoundTrip

namespace OrderDesk

open Json
open Binary64 (Fits Spaced IsNearest magnitude nearest unitsPerOne)
open Decimal (Fork RoundsTo)

/-! ## Where an exponent is written -/

section Exponents

variable {units : Nat}

/-- What is rounded upwards is rounded to no smaller amount. -/
theorem le_of_roundsTo {q : ℚ} {n d : Nat} (hd : 0 < d) (hq : q * unitsPerOne = n / d)
    (hle : n ≤ d * nearest n d) (hu : Spaced units) (h : RoundsTo units q) :
    q ≤ magnitude units := by
  rw [h.nearest_eq hd hu hq] at hle
  have hpos : (0 : ℚ) < unitsPerOne := by exact_mod_cast Binary64.unitsPerOne_pos
  rw [magnitude, le_div_iff₀ hpos, hq, div_le_iff₀ (by exact_mod_cast hd), mul_comm]
  exact_mod_cast hle

/-- Neither of the two powers of ten where the layout changes is rounded
down: the first is no amount and its closest one is above it, the second is an
amount. -/
theorem hundredThousandth_le (hu : Spaced units) (h : RoundsTo units (10 ^ (-5 : Int))) :
    (10 ^ (-5 : Int) : ℚ) ≤ magnitude units := by
  refine le_of_roundsTo (n := unitsPerOne) (d := 10 ^ 5) (Nat.pow_pos (by decide)) ?_
    (by decide +kernel) hu h
  rw [zpow_neg, inv_mul_eq_div, zpow_ofNat, Nat.cast_pow, Nat.cast_ofNat]

theorem tenQuadrillion_le (hu : Spaced units) (h : RoundsTo units (10 ^ (16 : Int))) :
    (10 ^ (16 : Int) : ℚ) ≤ magnitude units := by
  refine le_of_roundsTo (n := 10 ^ 16 * unitsPerOne) (d := 1) Nat.one_pos ?_
    (by decide +kernel) hu h
  rw [Nat.cast_one, div_one, Nat.cast_mul, zpow_ofNat, Nat.cast_pow, Nat.cast_ofNat]

/-- The JSON form of an amount has an exponent if the amount is very small or
very large. -/
theorem plainly_iff (h : Fits units) :
    ((Decimal.shortest .even units).digits = 0 ∨
      (-5 ≤ (Decimal.shortest .even units).lead ∧ (Decimal.shortest .even units).lead < 16)) ↔
    (units = 0 ∨
      ((10 ^ (-5 : Int) : ℚ) ≤ magnitude units ∧ magnitude units < 10 ^ (16 : Int))) := by
  rcases Nat.eq_zero_or_pos units with hzero | hpos
  · rw [Decimal.shortest, if_pos hzero]
    exact iff_of_true (.inl rfl) (.inl hzero)
  · have hd := Decimal.shortest_digits_pos h hpos .even
    rw [or_iff_right (Nat.ne_of_gt hd), or_iff_right (Nat.ne_of_gt hpos), Decimal.le_lead_iff hd,
      Decimal.lead_lt_iff hd, Decimal.le_shortest_iff h hpos .even (hundredThousandth_le h.spaced),
      ← not_le, Decimal.le_shortest_iff h hpos .even (tenQuadrillion_le h.spaced), not_le]

end Exponents

/-! ## Names of amounts -/

/-- The numeral has the sign of the amount, and the amount is the closest one
to what it is worth. -/
def Names (n : Numeral) : Binary64 → Prop
  | .finite negative units _ => n.negative = negative ∧ IsNearest n.worth units
  | _ => False

/-- A numeral names one amount. -/
theorem Names.unique {n : Numeral} {x y : Binary64} (hx : Names n x) (hy : Names n y) : x = y := by
  cases x with
  | nan => exact hx.elim
  | infinite => exact hx.elim
  | finite negative units hfits =>
      cases y with
      | nan => exact hy.elim
      | infinite => exact hy.elim
      | finite negative' units' hfits' =>
          have hu := (Decimal.isNearest_iff hfits.spaced n.worth_nonneg).mp hx.2
          have hu' := (Decimal.isNearest_iff hfits'.spaced n.worth_nonneg).mp hy.2
          obtain rfl := hx.1.symm.trans hy.1
          obtain rfl := hu.unique hu' hfits.spaced hfits'.spaced n.worth_nonneg
          rfl

theorem names_of_shortest {n : Numeral} {tie : Decimal.Tie} {negative : Bool} {units : Nat}
    {hfits : Fits units} (hnegative : n.negative = negative)
    (hworth : n.worth = (Decimal.shortest tie units).value) :
    Names n (.finite negative units hfits) := by
  refine ⟨hnegative, (Decimal.isNearest_iff hfits.spaced n.worth_nonneg).mpr ?_⟩
  rw [hworth]
  exact Decimal.shortest_roundsTo hfits tie

/-! ## Forms of an order -/

/-- The text is an object of JSON, and its only amount is the numeral. -/
def HasAmount (text : List Char) (n : Numeral) : Prop :=
  ∃ ms, Document (.object ms) text ∧ Only ms "amount" (.number n.text)

theorem HasAmount.unique {text : List Char} {n m : Numeral} (hn : HasAmount text n)
    (hm : HasAmount text m) : n = m := by
  obtain ⟨ms, hdocument, honly⟩ := hn
  obtain ⟨ms', hdocument', honly'⟩ := hm
  obtain rfl := Value.object.inj (hdocument.unique hdocument')
  exact Numeral.text_inj (Value.number.inj (honly.unique honly'))

namespace Order

/-- The line of the order has the one numeral as its amount, its JSON form the
other, in either layout. -/
structure Shows (o : Order) (n m : Numeral) : Prop where
  line : o.line = "Order\x7bid='" ++ o.id ++ "', customerId='" ++ o.customerId ++ "', amount=" ++
    String.ofList n.text ++ ", status='" ++ o.status.getD "null" ++ "'\x7d"
  compact : HasAmount o.json.compact m
  pretty : HasAmount o.json.pretty m

theorem hasAmount {o : Order} {m : Numeral} (h : Value.ofAmount o.amount = .number m.text) :
    HasAmount o.json.compact m ∧ HasAmount o.json.pretty m := by
  have honly : Only o.members "amount" (.number m.text) := by
    simp [Only, named, members, h]
  exact ⟨⟨o.members, o.numbered.compact.document, honly⟩,
    ⟨o.members, o.numbered.pretty.document, honly⟩⟩

theorem shows {o : Order} {n m : Numeral} {negative : Bool} {units : Nat} {hfits : Fits units}
    (h : o.amount = .finite negative units hfits)
    (hn : n.text = Notation.full.finite negative units)
    (hm : m.text = Notation.json.finite negative units) : Shows o n m := by
  obtain ⟨hcompact, hpretty⟩ := hasAmount (o := o) (m := m) (by rw [h, hm]; rfl)
  have hrender : Notation.full.render o.amount = String.ofList n.text := by
    rw [h, Notation.render, hn]
  refine ⟨?_, hcompact, hpretty⟩
  rw [← hrender]
  rfl

theorem Shows.unique {o : Order} {n n' m m' : Numeral} (h : Shows o n m) (h' : Shows o n' m') :
    n = n' ∧ m = m' := by
  have hline := congrArg String.toList (h.line.symm.trans h'.line)
  simp only [String.toList_append, String.toList_ofList, List.append_assoc,
    List.append_cancel_left_eq, List.append_cancel_right_eq] at hline
  exact ⟨Numeral.text_inj hline, h.compact.unique h'.compact⟩

/-- The numerals of an order are those of the two shortest decimals. -/
theorem exists_shown {o : Order} {negative : Bool} {units : Nat} {hfits : Fits units}
    (h : o.amount = .finite negative units hfits) :
    ∃ n m : Numeral, Shows o n m ∧ n.negative = negative ∧ m.negative = negative ∧
      n.exponent = none ∧
      (m.exponent = none ↔ units = 0 ∨
        ((10 ^ (-5 : Int) : ℚ) ≤ magnitude units ∧ magnitude units < 10 ^ (16 : Int))) ∧
      n.worth = (Decimal.shortest .up units).value ∧
        m.worth = (Decimal.shortest .even units).value := by
  obtain ⟨n, hn, hsign, hexponent, hworth⟩ := full_numeral negative hfits
  obtain ⟨m, hm, hsign', hexponent', hworth'⟩ := json_numeral negative units
  refine ⟨n, m, shows h hn hm, hsign, hsign', hexponent, ?_, hworth, hworth'⟩
  rw [hexponent', ← plainly_iff hfits, ite_eq_left_iff]
  simp only [reduceCtorEq, imp_false, not_not]

/-- The numerals of a finite amount name it. -/
theorem Shows.names {o : Order} {n m : Numeral} (h : Shows o n m)
    (hfinite : o.amount.isFinite = true) : Names n o.amount ∧ Names m o.amount := by
  cases hamount : o.amount with
  | finite negative units hfits =>
      obtain ⟨n', m', hshows, hsign, hsign', -, -, hworth, hworth'⟩ := exists_shown hamount
      obtain ⟨rfl, rfl⟩ := h.unique hshows
      exact ⟨names_of_shortest hsign hworth, names_of_shortest hsign' hworth'⟩
  | nan => rw [hamount] at hfinite; cases hfinite
  | infinite => rw [hamount] at hfinite; cases hfinite

/-- Both forms of an order name its amount.  The line never has an exponent,
the JSON form has one when the amount is very small or very large.  The two
numerals are worth the same but for a fork, where each form takes its own of
the two shortest decimals.  Two orders with the same numeral in either form
have the same amount. -/
theorem amount_shown (o : Order) {negative : Bool} {units : Nat} {hfits : Fits units}
    (h : o.amount = .finite negative units hfits) :
    ∃ n m : Numeral, Shows o n m ∧ Names n o.amount ∧ Names m o.amount ∧
      n.exponent = none ∧
      (m.exponent = none ↔ units = 0 ∨
        ((10 ^ (-5 : Int) : ℚ) ≤ magnitude units ∧ magnitude units < 10 ^ (16 : Int))) ∧
      ((∀ d e, ¬ Fork units d e) → n.worth = m.worth) ∧
      (∀ d e, Fork units d e → m.worth = d * 10 ^ e ∧ n.worth = (d + 1 : Nat) * 10 ^ e) ∧
      ∀ (o' : Order) (n' m' : Numeral), o'.amount.isFinite = true → Shows o' n' m' →
        n'.text = n.text ∨ m'.text = m.text → o'.amount = o.amount := by
  obtain ⟨n, m, hshows, -, -, hexponent, hexponent', hworth, hworth'⟩ := exists_shown h
  obtain ⟨hn, hm⟩ := hshows.names (by rw [h]; rfl)
  refine ⟨n, m, hshows, hn, hm, hexponent, hexponent', ?_, ?_, ?_⟩
  · intro hfork
    rw [hworth, hworth', Decimal.shortest_congr hfits hfork]
  · intro d e hfork
    obtain ⟨heven, hup⟩ := hfork.shortest hfits
    exact ⟨hworth'.trans heven, hworth.trans hup⟩
  · intro o' n' m' hfinite hshows' htext
    obtain ⟨hn', hm'⟩ := hshows'.names hfinite
    rcases htext with htext | htext
    · rw [Numeral.text_inj htext] at hn'
      exact hn'.unique hn
    · rw [Numeral.text_inj htext] at hm'
      exact hm'.unique hm

/-! ## An amount at a fork -/

/-- An order of 2⁵⁰ and a quarter. -/
def quartered : Order :=
  .new "o" "c" (.finite false (4503599627370497 * Nat.pow 2 1072) (by decide +kernel))

/-- The two shortest decimals of its amount. -/
def lowerTenth : Numeral := .pointed false 11258999068426242 1 (by decide) (by decide)

def upperTenth : Numeral := .pointed false 11258999068426243 1 (by decide) (by decide)

theorem quartered_shows : Shows quartered upperTenth lowerTenth :=
  shows rfl (by decide +kernel) (by decide +kernel)

theorem upperTenth_ne : upperTenth.worth ≠ lowerTenth.worth := by
  rw [upperTenth, lowerTenth, Numeral.pointed_worth, Numeral.pointed_worth]
  norm_num

/-- The amount is at a fork. -/
theorem quartered_forks :
    ∃ d e, Fork (4503599627370497 * Nat.pow 2 1072) d e ∧ lowerTenth.worth = d * 10 ^ e := by
  obtain ⟨n, m, hshows, -, -, -, -, hsame, hfork, -⟩ := amount_shown quartered rfl
  obtain ⟨rfl, rfl⟩ := hshows.unique quartered_shows
  by_contra hnone
  refine upperTenth_ne (hsame ?_)
  intro d e h
  exact hnone ⟨d, e, h, (hfork d e h).1⟩

/-- So its two forms are not worth the same. -/
theorem quartered_differs :
    Shows quartered upperTenth lowerTenth ∧ upperTenth.text = "1125899906842624.3".toList ∧
      lowerTenth.text = "1125899906842624.2".toList ∧ upperTenth.worth ≠ lowerTenth.worth :=
  ⟨quartered_shows, by decide +kernel, by decide +kernel, upperTenth_ne⟩

end Order

end OrderDesk
