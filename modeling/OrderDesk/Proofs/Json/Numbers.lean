/-
# `Proofs.Json.Numbers` — what a written number is worth to the reader

`Numeral.value?` says what the reader makes of a number as a function of
its digits alone: no text, no place in it, nothing that follows.  The
significand takes digits in front of and behind the point as long as it
stays below 2⁶⁴ (`gather`); a digit in front of the point that is left
out raises the exponent, one behind it that is taken lowers it; and a
number without fraction and exponent whose digits are all taken is kept
exactly.  There is no value when the number is out of range.

`number_settled` is the statement that counts: in front of any text that
does not prolong the number the reader answers its value, or fails
because the number is out of range, and for no other reason.
-/
import OrderDesk.Json.Number
import OrderDesk.Proofs.Json.Strings

namespace OrderDesk.Json

open Utf8 (Piece ofText)

/-! ## Digits -/

/-- The value of a decimal digit. -/
def digitValue (c : Char) : Nat := c.toNat - '0'.toNat

theorem isDigit_iff {c : Char} : c.isDigit = true ↔ '0' ≤ c ∧ c ≤ '9' := by
  rw [Char.isDigit, Bool.and_eq_true, decide_eq_true_eq, decide_eq_true_eq]
  exact Iff.rfl

theorem digit?_of_isDigit {c : Char} (h : c.isDigit = true) :
    digit? (.char c) = some (digitValue c) := by
  rw [digit?, if_pos (isDigit_iff.mp h)]
  rfl

theorem digit?_eq_none {c : Char} (h : c.isDigit = false) : digit? (.char c) = none := by
  rw [digit?, if_neg fun hc => Bool.eq_false_iff.mp h (isDigit_iff.mpr hc)]

theorem digitValue_lt {c : Char} (h : c.isDigit = true) : digitValue c < 10 := by
  have hle : c.toNat ≤ 57 := (isDigit_iff.mp h).2
  have h0 : '0'.toNat = 48 := rfl
  rw [digitValue, h0]
  omega

/-- Does the text begin with no digit? -/
def NoDigit (s : List Char) : Prop := ∀ c ∈ s.head?, c.isDigit = false

/-- Does the text not prolong a number? -/
def Stops (s : List Char) : Prop :=
  ∀ c ∈ s.head?, c.isDigit = false ∧ c ≠ '.' ∧ c ≠ 'e' ∧ c ≠ 'E'

theorem Stops.noDigit {s : List Char} (h : Stops s) : NoDigit s := by
  intro c hc
  exact (h c hc).1

theorem stops_nil : Stops [] := by
  intro c hc
  cases hc

theorem startsWithDigit_false {s : List Char} (h : NoDigit s) :
    startsWithDigit (ofText s) = false := by
  cases s with
  | nil => rfl
  | cons c s => simp [startsWithDigit, digit?_eq_none (h c rfl)]

theorem startsWithDigit_cons {c : Char} (h : c.isDigit = true) (s : List Piece) :
    startsWithDigit (.char c :: s) = true := by
  simp [startsWithDigit, digit?_of_isDigit h]

theorem digits_cons {c : Char} {ds : List Char} :
    Digits (c :: ds) ↔ c.isDigit = true ∧ Digits ds :=
  List.forall_mem_cons

/-- The significand that digits lead to, and how many of them it takes. -/
def gather (n : Nat) : List Char → Nat × Nat
  | [] => (n, 0)
  | c :: cs =>
    if n * 10 + digitValue c < significandBound then
      ((gather (n * 10 + digitValue c) cs).1, (gather (n * 10 + digitValue c) cs).2 + 1)
    else (n, 0)

theorem gather_le (n : Nat) (ds : List Char) : (gather n ds).2 ≤ ds.length := by
  induction ds generalizing n with
  | nil => exact Nat.le_refl 0
  | cons c ds ih =>
      rw [gather]
      split
      · exact Nat.succ_le_succ (ih _)
      · exact Nat.zero_le _

theorem takeDigits_digits {ds s : List Char} (hds : Digits ds) (hs : NoDigit s) (n : Nat) :
    takeDigits n (ofText (ds ++ s)) =
      ((gather n ds).1, (gather n ds).2, ofText (ds.drop (gather n ds).2 ++ s)) := by
  induction ds generalizing n with
  | nil =>
      cases s with
      | nil => rfl
      | cons c s => simp [takeDigits, digit?_eq_none (hs c rfl), gather]
  | cons c ds ih =>
      obtain ⟨hc, hrest⟩ := digits_cons.mp hds
      rw [List.cons_append, Utf8.ofText_cons, takeDigits, digit?_of_isDigit hc, gather]
      by_cases hlt : n * 10 + digitValue c < significandBound
      · simp only [if_pos hlt, ih hrest, List.drop_succ_cons]
      · simp only [if_neg hlt, List.drop_zero, List.cons_append, Utf8.ofText_cons]

theorem dropDigits_digits {ds s : List Char} (hds : Digits ds) (hs : NoDigit s) :
    dropDigits (ofText (ds ++ s)) = (ds.length, ofText s) := by
  induction ds with
  | nil =>
      cases s with
      | nil => rfl
      | cons c s => simp [dropDigits, digit?_eq_none (hs c rfl)]
  | cons c ds ih =>
      obtain ⟨hc, hrest⟩ := digits_cons.mp hds
      simp [dropDigits, digit?_of_isDigit hc, ih hrest]

theorem Digits.drop {ds : List Char} (h : Digits ds) (k : Nat) : Digits (ds.drop k) := by
  intro c hc
  exact h c (List.mem_of_mem_drop hc)

/-- Some digits are left over exactly if not all of them are taken. -/
theorem startsWithDigit_drop {ds s : List Char} (hds : Digits ds) (hs : NoDigit s) (k : Nat) :
    startsWithDigit (ofText (ds.drop k ++ s)) = decide (k < ds.length) := by
  by_cases hk : k < ds.length
  · obtain ⟨c, cs, hcs⟩ := List.exists_cons_of_length_pos (show 0 < (ds.drop k).length by
      rw [List.length_drop]
      omega)
    have hc : c.isDigit = true := hds.drop k c (hcs ▸ List.mem_cons_self)
    rw [hcs, decide_eq_true hk]
    exact startsWithDigit_cons hc _
  · rw [List.drop_eq_nil_of_le (Nat.not_lt.mp hk), List.nil_append, startsWithDigit_false hs,
      decide_eq_false hk]

/-! ## Outcomes of numbers -/

/-- An outcome that is the value `x`, or a refusal because there is none. -/
def Settled (x : Option α) (s : List Char) : Outcome α → Prop
  | .ok (a, r) => x = some a ∧ r = ofText s
  | .error e => x = none ∧ e.cause = .numberOutOfRange

theorem Settled.map {x : Option α} {s : List Char} {o : Outcome α} (f : α → β)
    (h : Settled x s o) : Settled (x.map f) s (mapValue f o) := by
  cases o with
  | error e => exact ⟨by rw [h.1]; rfl, h.2⟩
  | ok p => exact ⟨by rw [h.1]; rfl, h.2⟩

theorem Settled.unique {x y : Option α} {s : List Char} {o : Outcome α} (h : Settled x s o)
    (h' : Settled y s o) : x = y := by
  cases o with
  | error e => rw [h.1, h'.1]
  | ok p => rw [h.1, h'.1]

/-- A settled outcome is a failure exactly without a value. -/
theorem Settled.none_iff {x : Option α} {s : List Char} {o : Outcome α} (h : Settled x s o) :
    x = none ↔ ∃ e, o = .error e ∧ e.cause = .numberOutOfRange := by
  constructor
  · rintro rfl
    cases o with
    | error e => exact ⟨e, rfl, h.2⟩
    | ok p => cases h.1
  · rintro ⟨e, rfl, -⟩
    exact h.1

/-- A settled outcome is a success exactly with the value. -/
theorem Settled.ok_iff {x : Option α} {s : List Char} {o : Outcome α} (h : Settled x s o)
    {a : α} {r : List Piece} : o = .ok (a, r) ↔ x = some a ∧ r = ofText s := by
  constructor
  · intro ho
    rwa [ho] at h
  · rintro ⟨hx, hr⟩
    cases o with
    | error e => cases h.1.symm.trans hx
    | ok p =>
        obtain ⟨h1, h2⟩ := h
        rw [hx] at h1
        cases h1
        rw [hr, ← h2]

/-! ## Amounts -/

/-- The amount of a significand and an exponent; nothing if it is out of
range. -/
def scaled? (negative : Bool) (significand : Nat) (exponent : Int) : Option Binary64 :=
  (scale (Binary64.nearest (significand * Binary64.unitsPerOne) 1) exponent).map
    fun units => Binary64.ofUnits negative units 1

theorem amount_settled (negative : Bool) (significand : Nat) (exponent : Int) (s : List Char) :
    Settled (scaled? negative significand exponent) s
      (amount negative significand exponent (ofText s)) := by
  rw [amount, scaled?]
  cases scale (Binary64.nearest (significand * Binary64.unitsPerOne) 1) exponent with
  | none => exact ⟨rfl, rfl⟩
  | some units => exact ⟨rfl, rfl⟩

/-- The value of the digits of an exponent behind `k`; nothing from the
bound on. -/
def exponentValue? (k : Nat) : List Char → Option Nat
  | [] => some k
  | c :: cs =>
    if k * 10 + digitValue c < exponentBound then exponentValue? (k * 10 + digitValue c) cs
    else none

/-- The exponent that is left when the digits of a written one are worth
`k`. -/
def shifted (minus : Bool) (start : Int) (k : Nat) : Int :=
  if minus then start - k else start + k

/-- The amount of a significand whose exponent is written with these
digits. -/
def raised? (negative : Bool) (significand : Nat) (start : Int) (minus : Bool)
    (k : Option Nat) : Option Binary64 :=
  match k with
  | some k => scaled? negative significand (shifted minus start k)
  | none =>
    if significand ≠ 0 ∧ minus = false then none
    else some (.finite negative 0 Binary64.fits_zero)

theorem exponentDigits_settled {ds s : List Char} (hds : Digits ds) (hs : NoDigit s)
    (negative minus : Bool) (significand : Nat) (start : Int) (k : Nat) :
    Settled (raised? negative significand start minus (exponentValue? k ds)) s
      (exponentDigits negative significand start minus k (ofText (ds ++ s))) := by
  induction ds generalizing k with
  | nil =>
      have hamount := amount_settled negative significand (shifted minus start k) s
      cases s with
      | nil => simpa [exponentDigits, raised?, exponentValue?, shifted] using hamount
      | cons c s =>
          simpa [exponentDigits, digit?_eq_none (hs c rfl), raised?, exponentValue?, shifted]
            using hamount
  | cons c ds ih =>
      obtain ⟨hc, hrest⟩ := digits_cons.mp hds
      rw [List.cons_append, Utf8.ofText_cons, exponentDigits, digit?_of_isDigit hc, exponentValue?]
      by_cases hlt : k * 10 + digitValue c < exponentBound
      · simp only [if_pos hlt]
        exact ih hrest _
      · simp only [if_neg hlt, raised?]
        split
        · exact ⟨rfl, rfl⟩
        · exact ⟨rfl, by rw [dropDigits_digits hrest hs]⟩

theorem Exponent.digits_eq_cons (e : Exponent) :
    ∃ d ds, e.digits = d :: ds ∧ d.isDigit = true ∧ d ≠ '+' ∧ d ≠ '-' ∧ Digits ds := by
  obtain ⟨d, ds, hds⟩ := List.exists_cons_of_ne_nil e.digits_ne_nil
  obtain ⟨hd, hrest⟩ := digits_cons.mp (hds ▸ e.isDigits)
  refine ⟨d, ds, hds, hd, ?_, ?_, hrest⟩
  · rintro rfl
    exact absurd hd (by decide)
  · rintro rfl
    exact absurd hd (by decide)

/-- The sign of an exponent is read off in front of its first digit. -/
theorem exponent_sign (e : Exponent) {d : Char} (hd : d.isDigit = true) (hplus : d ≠ '+')
    (hneg : d ≠ '-') (negative : Bool) (significand : Nat) (start : Int) (t : List Char) :
    exponent negative significand start (ofText (e.sign.toList ++ d :: t)) =
      exponentDigits negative significand start e.minus (digitValue d) (ofText t) := by
  rw [Exponent.minus]
  match e.sign, e.sign_eq with
  | none, _ =>
      show exponent negative significand start (.char d :: ofText t) = _
      simp [exponent, hplus, hneg, digit?_of_isDigit hd]
  | some c, hc =>
      rcases hc c rfl with rfl | rfl
      · show exponent negative significand start (.char '+' :: .char d :: ofText t) = _
        simp [exponent, digit?_of_isDigit hd]
      · show exponent negative significand start (.char '-' :: .char d :: ofText t) = _
        simp [exponent, digit?_of_isDigit hd]

theorem exponent_settled (e : Exponent) {s : List Char} (hs : NoDigit s) (negative : Bool)
    (significand : Nat) (start : Int) :
    Settled (raised? negative significand start e.minus (exponentValue? 0 e.digits)) s
      (exponent negative significand start (ofText (e.sign.toList ++ (e.digits ++ s)))) := by
  obtain ⟨d, ds, hds, hd, hplus, hneg, hrest⟩ := e.digits_eq_cons
  have hfirst := digitValue_lt hd
  have hten : 10 ≤ exponentBound := by decide
  have hlt : 0 * 10 + digitValue d < exponentBound := by omega
  have hvalue : exponentValue? 0 e.digits = exponentValue? (digitValue d) ds := by
    rw [hds, exponentValue?, if_pos hlt, Nat.zero_mul, Nat.zero_add]
  rw [hvalue, hds, List.cons_append, exponent_sign e hd hplus hneg]
  exact exponentDigits_settled hrest hs negative e.minus significand start (digitValue d)

/-- The amount of a significand in front of an exponent, if there is one. -/
def finished? (negative : Bool) (significand : Nat) (start : Int) :
    Option Exponent → Option Binary64
  | none => scaled? negative significand start
  | some e => raised? negative significand start e.minus (exponentValue? 0 e.digits)

theorem noDigit_exponent (e : Option Exponent) {s : List Char} (hs : Stops s) :
    NoDigit (e.elim [] Exponent.text ++ s) := by
  cases e with
  | none => exact hs.noDigit
  | some e =>
      intro c hc
      cases hc
      rcases e.letter_eq with h | h <;> rw [h] <;> rfl

theorem afterFraction_settled (e : Option Exponent) {s : List Char} (hs : Stops s)
    (negative : Bool) (significand : Nat) (start : Int) :
    Settled (finished? negative significand start e) s
      (afterFraction negative significand start (ofText (e.elim [] Exponent.text ++ s))) := by
  cases e with
  | none =>
      have hamount := amount_settled negative significand start s
      cases s with
      | nil => exact hamount
      | cons c s =>
          obtain ⟨-, -, he, hE⟩ := hs c rfl
          simpa [afterFraction, finished?, he, hE] using hamount
  | some e =>
      have hexponent := exponent_settled e hs.noDigit negative significand start
      rcases e.letter_eq with h | h <;>
        simpa [afterFraction, finished?, Exponent.text, h] using hexponent

theorem fraction_settled {ds : List Char} (hds : Digits ds) (hne : ds ≠ []) (e : Option Exponent)
    {s : List Char} (hs : Stops s) (negative : Bool) (significand : Nat) (start : Int) :
    Settled (finished? negative (gather significand ds).1 (start - (gather significand ds).2) e) s
      (fraction negative significand start (ofText (ds ++ (e.elim [] Exponent.text ++ s)))) := by
  have hexponent := noDigit_exponent e hs
  have hsettled := afterFraction_settled e hs negative (gather significand ds).1
    (start - (gather significand ds).2)
  rw [fraction, takeDigits_digits hds hexponent]
  simp only [startsWithDigit_drop hds hexponent, decide_eq_true_eq]
  have hle := gather_le significand ds
  split
  · rw [dropDigits_digits (hds.drop _) hexponent]
    exact hsettled
  · have hlength : 0 < ds.length := List.length_pos_iff.mpr hne
    rw [if_neg (by omega), List.drop_eq_nil_of_le (by omega), List.nil_append]
    exact hsettled

/-! ## Numbers -/

/-- What the reader makes of a number; nothing if it is out of range. -/
def Numeral.value? (n : Numeral) : Option Number :=
  let whole := gather 0 n.whole
  let all := gather whole.1 n.fraction
  if n.fraction = [] ∧ n.exponent = none ∧ whole.2 = n.whole.length then
    some (wholeNumber n.negative whole.1)
  else
    (finished? n.negative all.1 ((n.whole.length - whole.2 : Nat) - all.2) n.exponent).map .amount

theorem Numeral.value?_of_fraction {n : Numeral} (h : n.fraction ≠ []) :
    n.value? =
      (finished? n.negative (gather (gather 0 n.whole).1 n.fraction).1
        ((n.whole.length - (gather 0 n.whole).2 : Nat) -
          (gather (gather 0 n.whole).1 n.fraction).2) n.exponent).map .amount := by
  simp only [Numeral.value?]
  rw [if_neg fun hc => h hc.1]

theorem Numeral.value?_of_exponent {n : Numeral} {e : Exponent} (h : n.fraction = [])
    (he : n.exponent = some e) :
    n.value? =
      (finished? n.negative (gather 0 n.whole).1 (n.whole.length - (gather 0 n.whole).2 : Nat)
        (some e)).map .amount := by
  simp only [Numeral.value?]
  rw [if_neg fun hc => Option.some_ne_none e (he.symm.trans hc.2.1)]
  simp only [h, he, gather, Int.ofNat_zero, Int.sub_zero]

theorem Numeral.value?_of_whole {n : Numeral} (h : n.fraction = []) (he : n.exponent = none) :
    n.value? =
      if n.whole.length - (gather 0 n.whole).2 = 0 then
        some (wholeNumber n.negative (gather 0 n.whole).1)
      else
        (scaled? n.negative (gather 0 n.whole).1
          (n.whole.length - (gather 0 n.whole).2 : Nat)).map .amount := by
  have hle := gather_le 0 n.whole
  simp only [Numeral.value?, h, he, gather, true_and, finished?, Int.ofNat_zero, Int.sub_zero]
  by_cases hall : (gather 0 n.whole).2 = n.whole.length
  · rw [if_pos hall, if_pos (by omega)]
  · rw [if_neg hall, if_neg (by omega)]

/-- Behind a number without fraction and exponent, none of the three letters
is found. -/
theorem afterInteger_stop {s : List Char} (hs : Stops s) (negative : Bool) (significand : Nat)
    (left : Nat) :
    afterInteger negative significand left (ofText s) =
      if left = 0 then .ok (wholeNumber negative significand, ofText s)
      else mapValue .amount (amount negative significand left (ofText s)) := by
  cases s with
  | nil => rfl
  | cons c s =>
      obtain ⟨-, hpoint, hsmall, hlarge⟩ := hs c rfl
      simp [afterInteger, hpoint, hsmall, hlarge]

theorem afterInteger_settled (n : Numeral) {s : List Char} (hs : Stops s) :
    Settled n.value? s
      (afterInteger n.negative (gather 0 n.whole).1 (n.whole.length - (gather 0 n.whole).2)
        (ofText (n.fractionText ++ (n.exponentText ++ s)))) := by
  rw [Numeral.fractionText, Numeral.exponentText]
  by_cases hfraction : n.fraction = []
  · rw [if_pos hfraction, List.nil_append]
    cases he : n.exponent with
    | none =>
        have hamount := (amount_settled n.negative (gather 0 n.whole).1
          (n.whole.length - (gather 0 n.whole).2 : Nat) s).map Number.amount
        rw [Numeral.value?_of_whole hfraction he, Option.elim_none, List.nil_append,
          afterInteger_stop hs]
        split
        · exact ⟨rfl, rfl⟩
        · exact hamount
    | some e =>
        rw [Numeral.value?_of_exponent hfraction he]
        have hexponent := (exponent_settled e hs.noDigit n.negative (gather 0 n.whole).1
          (n.whole.length - (gather 0 n.whole).2 : Nat)).map Number.amount
        rcases e.letter_eq with h | h <;>
          simpa [afterInteger, finished?, Exponent.text, h] using hexponent
  · rw [if_neg hfraction, Numeral.value?_of_fraction hfraction]
    have hsettled := fraction_settled n.fraction_digits hfraction n.exponent hs n.negative
      (gather 0 n.whole).1 (n.whole.length - (gather 0 n.whole).2 : Nat)
    exact hsettled.map Number.amount

theorem noDigit_fraction (n : Numeral) {s : List Char} (hs : Stops s) :
    NoDigit (n.fractionText ++ (n.exponentText ++ s)) := by
  rw [Numeral.fractionText]
  split
  · exact noDigit_exponent n.exponent hs
  · intro c hc
    cases hc
    rfl

theorem digitValue_eq_zero {c : Char} (h : c.isDigit = true) (h0 : digitValue c = 0) :
    c = '0' := by
  have hle : 48 ≤ c.toNat := (isDigit_iff.mp h).1
  have hzero : '0'.toNat = 48 := rfl
  rw [digitValue, hzero] at h0
  refine Char.toNat_inj.mp ?_
  omega

/-- The digits in front of the point: a single zero, or digits of which the
first is none. -/
theorem Numeral.whole_eq_cons (n : Numeral) :
    ∃ d ds, n.whole = d :: ds ∧ d.isDigit = true ∧ Digits ds ∧ (digitValue d = 0 → ds = []) := by
  obtain ⟨d, ds, hds⟩ := List.exists_cons_of_ne_nil n.whole_ne_nil
  obtain ⟨hd, hrest⟩ := digits_cons.mp (hds ▸ n.whole_digits)
  refine ⟨d, ds, hds, hd, hrest, ?_⟩
  intro hzero
  have h := n.no_leading_zero (by rw [hds, digitValue_eq_zero hd hzero]; rfl)
  rw [hds] at h
  exact (List.cons.inj h).2

/-- The reader answers the value of a number, or refuses it because it is
out of range. -/
theorem number_settled (n : Numeral) {s : List Char} (hs : Stops s) :
    Settled n.value? s (number n.negative (ofText (n.magnitude ++ s))) := by
  have hnext := noDigit_fraction n hs
  have hsettled := afterInteger_settled n hs
  obtain ⟨d, ds, hds, hd, hrest, hzero⟩ := n.whole_eq_cons
  have hfirst := digitValue_lt hd
  have hten : 10 ≤ significandBound := by decide
  have hlt : 0 * 10 + digitValue d < significandBound := by omega
  have hgather : gather 0 n.whole =
      ((gather (digitValue d) ds).1, (gather (digitValue d) ds).2 + 1) := by
    rw [hds, gather, if_pos hlt, Nat.zero_mul, Nat.zero_add]
  rw [Numeral.magnitude, List.append_assoc, List.append_assoc]
  rw [hgather] at hsettled
  rw [hds] at hsettled ⊢
  rw [List.cons_append, Utf8.ofText_cons, number, digit?_of_isDigit hd]
  cases hvalue : digitValue d with
  | zero =>
      obtain rfl : ds = [] := hzero hvalue
      rw [hvalue] at hsettled
      simpa [startsWithDigit_false hnext, gather] using hsettled
  | succ k =>
      have hle := gather_le (k + 1) ds
      rw [hvalue] at hsettled
      simp only [takeDigits_digits hrest hnext, dropDigits_digits (hrest.drop _) hnext,
        List.length_drop]
      simpa [Nat.add_sub_add_right] using hsettled

theorem isDigit_of_mem_head? {n : Numeral} {s : List Char} :
    ∀ c ∈ (n.magnitude ++ s).head?, c.isDigit = true := by
  intro c hc
  obtain ⟨d, ds, hds, hd, -, -⟩ := n.whole_eq_cons
  rw [Numeral.magnitude, hds] at hc
  cases hc
  exact hd

/-- Two ways to take a text apart as a number are worth the same. -/
theorem Numeral.value?_congr {n m : Numeral} (h : n.text = m.text) : n.value? = m.value? := by
  have hminus : ∀ k : Numeral, k.magnitude.head? ≠ some '-' := by
    intro k hk
    have hdigit : '-'.isDigit = true := isDigit_of_mem_head? (n := k) (s := []) '-' (by
      rw [List.append_nil]
      exact hk)
    exact absurd hdigit (by decide)
  have hn := number_settled n stops_nil
  have hm := number_settled m stops_nil
  rw [Numeral.text, Numeral.text] at h
  cases hnn : n.negative <;> cases hmn : m.negative <;> simp only [hnn, hmn] at h hn hm
  case false.false =>
    rw [show n.magnitude = m.magnitude from h] at hn
    exact hn.unique hm
  case false.true => exact absurd (congrArg List.head? h) (hminus n)
  case true.false => exact absurd (congrArg List.head? h).symm (hminus m)
  case true.true =>
    rw [show n.magnitude = m.magnitude from (List.cons.inj h).2] at hn
    exact hn.unique hm

/-! ## Numbers that are passed over -/

theorem skipExponent_text (e : Exponent) {s : List Char} (hs : NoDigit s) :
    skipExponent (ofText (e.sign.toList ++ (e.digits ++ s))) = .ok (ofText s) := by
  obtain ⟨d, ds, hds, hd, hplus, hneg, hrest⟩ := e.digits_eq_cons
  rw [hds]
  match hsign : e.sign, e.sign_eq with
  | none, _ =>
      simp [skipExponent, hplus, hneg, digit?_of_isDigit hd, dropDigits_digits hrest hs]
  | some c, hc =>
      rcases hc c rfl with rfl | rfl <;>
        simp [skipExponent, digit?_of_isDigit hd, dropDigits_digits hrest hs]

theorem skipFraction_text {ds : List Char} (hds : Digits ds) (hne : ds ≠ [])
    (e : Option Exponent) {s : List Char} (hs : Stops s) :
    skipFraction (ofText (ds ++ (e.elim [] Exponent.text ++ s))) = .ok (ofText s) := by
  obtain ⟨k, hk⟩ := Nat.exists_eq_succ_of_ne_zero
    (Nat.ne_of_gt (List.length_pos_iff.mpr hne))
  rw [skipFraction, dropDigits_digits hds (noDigit_exponent e hs), hk]
  cases e with
  | none =>
      cases s with
      | nil => rfl
      | cons c s =>
          obtain ⟨-, -, hsmall, hlarge⟩ := hs c rfl
          simp [hsmall, hlarge]
  | some e =>
      rcases e.letter_eq with h | h <;>
        simpa [Exponent.text, h] using skipExponent_text e hs.noDigit

theorem skipAfterInteger_text (n : Numeral) {s : List Char} (hs : Stops s) :
    skipAfterInteger (ofText (n.fractionText ++ (n.exponentText ++ s))) = .ok (ofText s) := by
  rw [Numeral.fractionText, Numeral.exponentText]
  by_cases hfraction : n.fraction = []
  · rw [if_pos hfraction, List.nil_append]
    cases n.exponent with
    | none =>
        cases s with
        | nil => rfl
        | cons c s =>
            obtain ⟨-, hpoint, hsmall, hlarge⟩ := hs c rfl
            simp [skipAfterInteger, hpoint, hsmall, hlarge]
    | some e =>
        rcases e.letter_eq with h | h <;>
          simpa [skipAfterInteger, Exponent.text, h] using skipExponent_text e hs.noDigit
  · rw [if_neg hfraction]
    exact skipFraction_text n.fraction_digits hfraction n.exponent hs

/-- Passing over a number ends behind it. -/
theorem skipNumber_magnitude (n : Numeral) {s : List Char} (hs : Stops s) :
    skipNumber (ofText (n.magnitude ++ s)) = .ok (ofText s) := by
  have hnext := noDigit_fraction n hs
  have hskip := skipAfterInteger_text n hs
  obtain ⟨d, ds, hds, hd, hrest, hzero⟩ := n.whole_eq_cons
  rw [Numeral.magnitude, List.append_assoc, List.append_assoc, hds, List.cons_append,
    Utf8.ofText_cons, skipNumber, digit?_of_isDigit hd]
  cases hvalue : digitValue d with
  | zero =>
      obtain rfl : ds = [] := hzero hvalue
      simpa [startsWithDigit_false hnext] using hskip
  | succ k => simpa [dropDigits_digits hrest hnext] using hskip

end OrderDesk.Json
