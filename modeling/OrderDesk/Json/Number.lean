/-
# `Json.Number` — numbers as the JSON reader takes them

Whole numbers in the range of 64-bit integers are kept exactly.  Every
other number is read in two roundings: its digits are gathered into a
significand that must stay below 2⁶⁴, the significand is rounded to an
amount, and that amount is multiplied or divided *once* by a rounded
power of ten.  Digits that would take the significand to 2⁶⁴ are dropped;
in front of the point each of them raises the exponent.  So the result
is the closest amount only as long as the digits fit into 53 bits and the
power of ten is exact (10²² at most).

Below 10⁻³⁰⁸ the significand is divided by 10³⁰⁸ first, as often as
needed; beyond the largest amount the number is out of range.
-/
import OrderDesk.Json.Scan
import OrderDesk.Decimal.Notation

namespace OrderDesk

namespace Json

open Utf8 (Piece)

/-- The bound of the significand. -/
def significandBound : Nat := Nat.pow 2 64

/-- The bound of a written exponent. -/
def exponentBound : Nat := Nat.pow 2 31

/-- The value of a decimal digit. -/
def digit? : Piece → Option Nat
  | .char c => if '0' ≤ c ∧ c ≤ '9' then some (c.toNat - '0'.toNat) else none
  | .junk _ => none

/-- Does the text begin with a digit? -/
def startsWithDigit : List Piece → Bool
  | p :: _ => (digit? p).isSome
  | [] => false

/-- Gathers digits while the significand stays below its bound; counts the
digits taken. -/
def takeDigits (significand : Nat) : List Piece → Nat × Nat × List Piece
  | [] => (significand, 0, [])
  | p :: rest =>
    match digit? p with
    | none => (significand, 0, p :: rest)
    | some d =>
      if significand * 10 + d < significandBound then
        let (all, count, rest') := takeDigits (significand * 10 + d) rest
        (all, count + 1, rest')
      else (significand, 0, p :: rest)

/-- Drops digits and counts them. -/
def dropDigits : List Piece → Nat × List Piece
  | [] => (0, [])
  | p :: rest =>
    if (digit? p).isSome then
      let (count, rest') := dropDigits rest
      (count + 1, rest')
    else (0, p :: rest)

/-- The units of the rounded power of ten. -/
def powerOfTen (n : Nat) : Nat := Binary64.nearest (Nat.pow 10 n * Binary64.unitsPerOne) 1

/-- Scales an amount (in units) by a power of ten; nothing if it leaves
the range of amounts. -/
def scale (units : Nat) (exponent : Int) : Option Nat :=
  if exponent < -308 then
    if units = 0 then some 0
    else scale (Binary64.nearest (units * Binary64.unitsPerOne) (powerOfTen 308)) (exponent + 308)
  else if exponent < 0 then
    some (Binary64.nearest (units * Binary64.unitsPerOne) (powerOfTen (-exponent).toNat))
  else if 308 < exponent then
    if units = 0 then some 0 else none
  else
    let scaled := Binary64.nearest (units * powerOfTen exponent.toNat) Binary64.unitsPerOne
    if scaled < Nat.pow 2 2098 then some scaled else none
termination_by exponent.natAbs
decreasing_by omega

/-- The amount of a significand and an exponent, read in front of `s`. -/
def amount (negative : Bool) (significand : Nat) (exponent : Int) (s : List Piece) :
    Outcome Binary64 :=
  match scale (Binary64.nearest (significand * Binary64.unitsPerOne) 1) exponent with
  | some units => .ok (Binary64.ofUnits negative units 1, s)
  | none => failAt .numberOutOfRange s

/-- Reads the digits of a written exponent.  One that reaches its bound is
out of range if it is positive and the significand is not zero, and
otherwise makes the amount zero. -/
def exponentDigits (negative : Bool) (significand : Nat) (start : Int) (minus : Bool)
    (exponent : Nat) : List Piece → Outcome Binary64
  | [] => amount negative significand (if minus then start - exponent else start + exponent) []
  | p :: rest =>
    match digit? p with
    | none =>
      amount negative significand (if minus then start - exponent else start + exponent) (p :: rest)
    | some d =>
      if exponent * 10 + d < exponentBound then
        exponentDigits negative significand start minus (exponent * 10 + d) rest
      else if significand ≠ 0 ∧ minus = false then failAt .numberOutOfRange rest
      else .ok (.finite negative 0 Binary64.fits_zero, (dropDigits rest).2)

/-- An exponent behind its letter. -/
def exponent (negative : Bool) (significand : Nat) (start : Int) (s : List Piece) :
    Outcome Binary64 :=
  let (minus, s) := match s with
    | .char '+' :: rest => (false, rest)
    | .char '-' :: rest => (true, rest)
    | rest => (false, rest)
  match s with
  | [] => failAt .endOfValue []
  | p :: rest =>
    match digit? p with
    | some d => exponentDigits negative significand start minus d rest
    | none => failOn .invalidNumber (p :: rest)

/-- What may follow the digits of a number that is no whole number. -/
def afterFraction (negative : Bool) (significand : Nat) (start : Int) :
    List Piece → Outcome Binary64
  | .char 'e' :: rest => exponent negative significand start rest
  | .char 'E' :: rest => exponent negative significand start rest
  | rest => amount negative significand start rest

/-- The digits behind a point. -/
def fraction (negative : Bool) (significand : Nat) (start : Int) (s : List Piece) :
    Outcome Binary64 :=
  let (all, count, rest) := takeDigits significand s
  if startsWithDigit rest then afterFraction negative all (start - count) (dropDigits rest).2
  else if count = 0 then
    match rest with
    | [] => failAt .endOfValue []
    | rest => failOn .invalidNumber rest
  else afterFraction negative all (start - count) rest

/-- A whole number without fraction and exponent. -/
def wholeNumber (negative : Bool) (significand : Nat) : Number :=
  if negative then
    if 1 ≤ significand ∧ significand ≤ Nat.pow 2 63 then .negative significand
    else .amount (Binary64.ofNat true significand)
  else .natural significand

/-- What may follow the integer digits of a number, of which `dropped`
were left out. -/
def afterInteger (negative : Bool) (significand dropped : Nat) : List Piece → Outcome Number
  | .char '.' :: rest =>
    mapValue .amount (fraction negative significand dropped rest)
  | .char 'e' :: rest =>
    mapValue .amount (exponent negative significand dropped rest)
  | .char 'E' :: rest =>
    mapValue .amount (exponent negative significand dropped rest)
  | rest =>
    if dropped = 0 then .ok (wholeNumber negative significand, rest)
    else mapValue .amount (amount negative significand dropped rest)

/-- A number behind its sign. -/
def number (negative : Bool) : List Piece → Outcome Number
  | [] => failAt .endOfValue []
  | p :: rest =>
    match digit? p with
    | none => failOn .invalidNumber (p :: rest)
    | some 0 =>
      if startsWithDigit rest then failOn .invalidNumber rest
      else afterInteger negative 0 0 rest
    | some (d + 1) =>
      let (significand, _, rest) := takeDigits (d + 1) rest
      let (dropped, rest) := dropDigits rest
      afterInteger negative significand dropped rest

/-- The amount closest to a number. -/
def Number.toAmount : Number → Binary64
  | .natural n => Binary64.ofNat false n
  | .negative n => Binary64.ofNat true n
  | .amount x => x

/-- The text of a number. -/
def Number.render : Number → String
  | .natural n => String.ofList (Decimal.text n)
  | .negative n => String.ofList ('-' :: Decimal.text n)
  | .amount x => Notation.json.render x

/-- The exponent part of a number that nobody asked for, behind its
letter. -/
def skipExponent (s : List Piece) : Except Failure (List Piece) :=
  let s := match s with
    | .char '+' :: rest => rest
    | .char '-' :: rest => rest
    | rest => rest
  match s with
  | [] => failAt .invalidNumber []
  | p :: rest =>
    if (digit? p).isSome then .ok (dropDigits rest).2 else failOn .invalidNumber (p :: rest)

/-- The fraction of a number that nobody asked for, behind the point. -/
def skipFraction (s : List Piece) : Except Failure (List Piece) :=
  match dropDigits s with
  | (0, rest) => failOn .invalidNumber rest
  | (_, .char 'e' :: rest) => skipExponent rest
  | (_, .char 'E' :: rest) => skipExponent rest
  | (_, rest) => .ok rest

/-- What may follow the integer digits of a number that nobody asked for. -/
def skipAfterInteger : List Piece → Except Failure (List Piece)
  | .char '.' :: rest => skipFraction rest
  | .char 'e' :: rest => skipExponent rest
  | .char 'E' :: rest => skipExponent rest
  | rest => .ok rest

/-- Finds the text behind a number that nobody asked for, from behind its
sign. -/
def skipNumber : List Piece → Except Failure (List Piece)
  | [] => failAt .invalidNumber []
  | p :: rest =>
    match digit? p with
    | none => failOn .invalidNumber (p :: rest)
    | some 0 =>
      if startsWithDigit rest then failOn .invalidNumber rest else skipAfterInteger rest
    | some (_ + 1) => skipAfterInteger (dropDigits rest).2

theorem dropDigits_length (s : List Piece) : (dropDigits s).2.length ≤ s.length := by
  induction s with
  | nil => simp [dropDigits]
  | cons p rest ih =>
    rw [dropDigits]
    split
    · simp only [List.length_cons]; omega
    · simp

theorem takeDigits_length (n : Nat) (s : List Piece) : (takeDigits n s).2.2.length ≤ s.length := by
  induction s generalizing n with
  | nil => simp [takeDigits]
  | cons p rest ih =>
    rw [takeDigits]
    split
    · simp
    · split
      · simp only [List.length_cons]; exact Nat.le_succ_of_le (ih _)
      · simp

theorem skipExponent_length {s r : List Piece} (h : skipExponent s = .ok r) :
    r.length ≤ s.length := by
  unfold skipExponent at h
  have key : ∀ t : List Piece, (match t with
      | [] => failAt .invalidNumber []
      | p :: rest =>
        if (digit? p).isSome then .ok (dropDigits rest).2 else failOn .invalidNumber (p :: rest))
      = Except.ok r → r.length ≤ t.length := by
    intro t ht
    split at ht
    · simp [failAt] at ht
    · next p rest =>
      split at ht
      · cases ht; have := dropDigits_length rest; simp only [List.length_cons]; omega
      · simp [failOn] at ht
  have := key _ h
  refine Nat.le_trans this ?_
  split <;> simp

theorem skipFraction_length {s r : List Piece} (h : skipFraction s = .ok r) :
    r.length ≤ s.length := by
  have hd := dropDigits_length s
  rw [skipFraction] at h
  split at h
  · simp [failOn] at h
  · next hs =>
    rw [hs] at hd
    exact Nat.le_trans (skipExponent_length h) (Nat.le_of_succ_le hd)
  · next hs =>
    rw [hs] at hd
    exact Nat.le_trans (skipExponent_length h) (Nat.le_of_succ_le hd)
  · next hs =>
    rw [hs] at hd
    cases h
    exact hd

theorem skipAfterInteger_length {s r : List Piece} (h : skipAfterInteger s = .ok r) :
    r.length ≤ s.length := by
  unfold skipAfterInteger at h
  split at h
  · exact Nat.le_succ_of_le (skipFraction_length h)
  · exact Nat.le_succ_of_le (skipExponent_length h)
  · exact Nat.le_succ_of_le (skipExponent_length h)
  · cases h
    exact Nat.le_refl _

theorem skipNumber_length {s r : List Piece} (h : skipNumber s = .ok r) :
    r.length < s.length := by
  unfold skipNumber at h
  split at h
  · simp [failAt] at h
  · next p rest =>
    split at h
    · simp [failOn] at h
    · split at h
      · simp [failOn] at h
      · have := skipAfterInteger_length h; simp only [List.length_cons]; omega
    · have := skipAfterInteger_length h
      have := dropDigits_length rest
      simp only [List.length_cons]
      omega

theorem amount_rest {negative : Bool} {n : Nat} {e : Int} {s r : List Piece} {x : Binary64}
    (h : amount negative n e s = .ok (x, r)) : r = s := by
  unfold amount at h
  split at h
  · simp only [Except.ok.injEq, Prod.mk.injEq] at h
    exact h.2.symm
  · simp [failAt] at h

theorem exponentDigits_length {negative minus : Bool} {n k : Nat} {start : Int}
    {s r : List Piece} {x : Binary64}
    (h : exponentDigits negative n start minus k s = .ok (x, r)) : r.length ≤ s.length := by
  induction s generalizing k with
  | nil => rw [exponentDigits] at h; exact Nat.le_of_eq (congrArg List.length (amount_rest h))
  | cons p rest ih =>
    rw [exponentDigits] at h
    split at h
    · exact Nat.le_of_eq (congrArg List.length (amount_rest h))
    · split at h
      · exact Nat.le_succ_of_le (ih h)
      · split at h
        · simp [failAt] at h
        · cases h; exact Nat.le_succ_of_le (dropDigits_length rest)

theorem exponent_length {negative : Bool} {n : Nat} {start : Int} {s r : List Piece}
    {x : Binary64} (h : exponent negative n start s = .ok (x, r)) : r.length ≤ s.length := by
  unfold exponent at h
  split at h
  next minus t ht =>
  have hts : t.length ≤ s.length := by split at ht <;> cases ht <;> simp
  refine Nat.le_trans ?_ hts
  split at h
  · simp [failAt] at h
  · split at h
    · exact Nat.le_succ_of_le (exponentDigits_length h)
    · simp [failOn] at h

theorem afterFraction_length {negative : Bool} {n : Nat} {start : Int} {s r : List Piece}
    {x : Binary64} (h : afterFraction negative n start s = .ok (x, r)) :
    r.length ≤ s.length := by
  unfold afterFraction at h
  split at h
  · exact Nat.le_succ_of_le (exponent_length h)
  · exact Nat.le_succ_of_le (exponent_length h)
  · exact Nat.le_of_eq (congrArg List.length (amount_rest h))

theorem fraction_length {negative : Bool} {n : Nat} {start : Int} {s r : List Piece}
    {x : Binary64} (h : fraction negative n start s = .ok (x, r)) : r.length ≤ s.length := by
  have ht := takeDigits_length n s
  unfold fraction at h
  split at h
  next all count rest hs =>
  rw [hs] at ht
  split at h
  · exact Nat.le_trans (afterFraction_length h) (Nat.le_trans (dropDigits_length rest) ht)
  · split at h
    · split at h
      · simp [failAt] at h
      · simp [failOn] at h
    · exact Nat.le_trans (afterFraction_length h) ht

theorem afterInteger_length {negative : Bool} {n dropped : Nat} {s r : List Piece}
    {x : Number} (h : afterInteger negative n dropped s = .ok (x, r)) :
    r.length ≤ s.length := by
  unfold afterInteger at h
  split at h
  · obtain ⟨a, ha, _⟩ := mapValue_eq_ok h
    exact Nat.le_succ_of_le (fraction_length ha)
  · obtain ⟨a, ha, _⟩ := mapValue_eq_ok h
    exact Nat.le_succ_of_le (exponent_length ha)
  · obtain ⟨a, ha, _⟩ := mapValue_eq_ok h
    exact Nat.le_succ_of_le (exponent_length ha)
  · split at h
    · cases h; exact Nat.le_refl _
    · obtain ⟨a, ha, _⟩ := mapValue_eq_ok h
      exact Nat.le_of_eq (congrArg List.length (amount_rest ha))

theorem number_length {negative : Bool} {s r : List Piece} {x : Number}
    (h : number negative s = .ok (x, r)) : r.length < s.length := by
  unfold number at h
  split at h
  · simp [failAt] at h
  · next p rest =>
    refine Nat.lt_succ_of_le ?_
    split at h
    · simp [failOn] at h
    · split at h
      · simp [failOn] at h
      · exact afterInteger_length h
    · next d _ =>
      have ht := takeDigits_length (d + 1) rest
      have hd := dropDigits_length (takeDigits (d + 1) rest).2.2
      exact Nat.le_trans (afterInteger_length h) (Nat.le_trans hd ht)

end Json

end OrderDesk
