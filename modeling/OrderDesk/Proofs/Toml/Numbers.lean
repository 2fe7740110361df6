/-
# `Proofs.Toml.Numbers` — numbers as they are read

The reader of numbers first looks for underscores that do not stand between
digits, drops the others, and then reads digits only.  A numeral of the
grammar has none out of place (`Numeral.stray`), and without its underscores
it is the digits of its number (`Numeral.value`).  So whole numbers are read
as what they say (`bareText_whole`, `bareText_based`).

Whether there is a date, a whole number or an amount is told by what stands
behind the first digits (`Numeral.behind`): nothing, an underscore, or the
first sign that is no digit.
-/
import OrderDesk.Proofs.Toml.Grammar

namespace OrderDesk.Toml

open Json (HexDigit)

/-! ## Digits -/

section Digits

variable {c : Char} {k : Nat}

theorem hexDigit?_eq (h : HexDigit c k) : hexDigit? c = some k := by
  obtain ⟨hk, rfl | rfl⟩ := h
  · revert k
    decide
  · revert k
    decide

theorem HexDigit.isHexDigit (h : HexDigit c k) : isHexDigit c = true := by
  rw [Toml.isHexDigit, hexDigit?_eq h]
  rfl

theorem HexDigit.ne_underscore (h : HexDigit c k) : c ≠ '_' := by
  rintro rfl
  cases hexDigit?_eq h

/-- The decimal digits are those below ten. -/
theorem isDigit_of_hexDigit (h : HexDigit c k) (hk : k < 10) : isDigit c = true := by
  obtain ⟨-, rfl | rfl⟩ := h
  · revert k
    decide
  · revert k
    decide

theorem isDigit_ne {d : Char} (h : isDigit c = true) (hd : isDigit d = false) : c ≠ d := by
  rintro rfl
  cases h.symm.trans hd

end Digits

/-! ## Numerals -/

namespace Numeral

variable {base n : Nat} {t : List Char}

theorem uncons (h : Numeral base n t) : ∃ c k u, t = c :: u ∧ HexDigit c k ∧ k < base := by
  induction h with
  | digit hc hk => exact ⟨_, _, [], rfl, hc, hk⟩
  | more _ _ _ ih =>
      obtain ⟨c, k, u, rfl, hc, hk⟩ := ih
      exact ⟨c, k, _, List.cons_append, hc, hk⟩
  | apart _ _ _ ih =>
      obtain ⟨c, k, u, rfl, hc, hk⟩ := ih
      exact ⟨c, k, _, List.cons_append, hc, hk⟩

theorem ne_nil (h : Numeral base n t) : t ≠ [] := by
  obtain ⟨c, k, u, rfl, -, -⟩ := h.uncons
  exact List.cons_ne_nil c u

/-- A numeral ends with a digit. -/
theorem getLast? (h : Numeral base n t) : t.getLast? ≠ some '_' := by
  have hdigit : ∀ {c k}, HexDigit c k → some c ≠ some '_' := by
    intro c k hc heq
    exact HexDigit.ne_underscore hc (Option.some.inj heq)
  cases h with
  | digit hc => exact hdigit hc
  | more _ hc =>
      rw [List.getLast?_append]
      exact hdigit hc
  | apart _ hc =>
      rw [List.getLast?_append]
      exact hdigit hc

theorem mem (h : Numeral base n t) : ∀ c ∈ t, c = '_' ∨ ∃ k < base, HexDigit c k := by
  induction h with
  | digit hc hk => exact List.forall_mem_singleton.mpr (.inr ⟨_, hk, hc⟩)
  | more _ hc hk ih =>
      exact List.forall_mem_append.mpr ⟨ih, List.forall_mem_singleton.mpr (.inr ⟨_, hk, hc⟩)⟩
  | apart _ hc hk ih =>
      refine List.forall_mem_append.mpr ⟨ih, ?_⟩
      exact List.forall_mem_cons.mpr ⟨.inl rfl, List.forall_mem_singleton.mpr (.inr ⟨_, hk, hc⟩)⟩

/-- Without its underscores a numeral is the digits of its number. -/
theorem value (h : Numeral base n t) : numeral base (t.filter (· ≠ '_')) = n := by
  have hkeep : ∀ {c k}, HexDigit c k → [c].filter (· ≠ '_') = [c] := by
    intro c k hc
    exact List.filter_cons_of_pos (decide_eq_true (HexDigit.ne_underscore hc))
  induction h with
  | digit hc =>
      rw [hkeep hc, numeral, List.foldl_cons, hexDigit?_eq hc]
      simp
  | more _ hc _ ih =>
      rw [List.filter_append, hkeep hc, numeral, List.foldl_append, ← numeral, ih,
        List.foldl_cons, hexDigit?_eq hc]
      rfl
  | apart _ hc _ ih =>
      have hdrop : ∀ u, List.filter (· ≠ '_') ('_' :: u) = u.filter (· ≠ '_') := fun _ => rfl
      rw [List.filter_append, hdrop, hkeep hc, numeral, List.foldl_append, ← numeral, ih,
        List.foldl_cons, hexDigit?_eq hc]
      rfl

end Numeral

/-! ## Underscores -/

section Underscores

variable {digit : Char → Bool} {base n : Nat} {t : List Char}

theorem stray_cons {c : Char} (hc : c ≠ '_') (before : Bool) (place : Nat) (rest : List Char) :
    strayUnderscore? digit before place (c :: rest) =
      strayUnderscore? digit (digit c) (place + 1) rest := by
  rw [strayUnderscore?, if_neg]
  exact fun h => hc h.1

/-- In a numeral no underscore is out of place, and it ends with a digit. -/
theorem Numeral.stray (hdigit : ∀ c k, HexDigit c k → k < base → digit c = true)
    (h : Numeral base n t) (before : Bool) (place : Nat) (rest : List Char) :
    strayUnderscore? digit before place (t ++ rest) =
      strayUnderscore? digit true (place + t.length) rest := by
  induction h generalizing rest with
  | digit hc hk =>
      rw [List.singleton_append, stray_cons (HexDigit.ne_underscore hc), hdigit _ _ hc hk]
      rfl
  | more _ hc hk ih =>
      rw [List.append_assoc, ih, List.singleton_append, stray_cons (HexDigit.ne_underscore hc),
        hdigit _ _ hc hk, List.length_append]
      rfl
  | @apart c n k t _ hc hk ih =>
      have hbetween : ¬('_' = '_' ∧ (!(true && (c :: rest).head?.any digit)) = true) := by
        simp [hdigit _ _ hc hk]
      rw [List.append_assoc, ih, List.cons_append, strayUnderscore?, List.singleton_append,
        if_neg hbetween, stray_cons (HexDigit.ne_underscore hc), hdigit _ _ hc hk,
        List.length_append]
      rfl

theorem withoutUnderscores_eq {place : Nat} (hfirst : t.head? ≠ some '_')
    (hlast : t.getLast? ≠ some '_') (hstray : strayUnderscore? digit false place t = none) :
    withoutUnderscores digit place t = .ok (t.filter (· ≠ '_')) := by
  rw [withoutUnderscores, if_neg hfirst, if_neg hlast, hstray]

end Underscores

theorem Numeral.head? {base n : Nat} {t : List Char} (h : Numeral base n t) :
    t.head? ≠ some '_' := by
  obtain ⟨c, k, u, rfl, hc, -⟩ := h.uncons
  exact fun heq => HexDigit.ne_underscore hc (Option.some.inj heq)

/-! ## Signs -/

section Signs

variable {negative : Bool} {g t : List Char}

theorem Sign.plain (h : Sign negative g) : ∀ c ∈ g, c ≠ '_' := by
  cases h with
  | none => exact List.forall_mem_nil _
  | plus => exact List.forall_mem_singleton.mpr (by decide)
  | minus => exact List.forall_mem_singleton.mpr (by decide)

theorem Sign.filter (h : Sign negative g) : g.filter (· ≠ '_') = g := by
  rw [List.filter_eq_self]
  intro c hc
  exact decide_eq_true (h.plain c hc)

theorem scanSign_sign (h : Sign negative g) (ht : ∀ c ∈ t.head?, c ≠ '-' ∧ c ≠ '+') :
    Decimal.scanSign (g ++ t) = (negative, t) := by
  cases h with
  | plus => rfl
  | minus => rfl
  | none =>
      rw [List.nil_append, Decimal.scanSign.eq_def]
      split
      · exact absurd rfl (ht _ rfl).1
      · exact absurd rfl (ht _ rfl).2
      · rfl

/-- Behind a sign, as in front of everything, underscores are out of place. -/
theorem Sign.stray {digit : Char → Bool} (h : Sign negative g)
    (hsign : ∀ c, c = '+' ∨ c = '-' → digit c = false) (place : Nat) (rest : List Char) :
    strayUnderscore? digit false place (g ++ rest) =
      strayUnderscore? digit false (place + g.length) rest := by
  cases h with
  | none => rfl
  | plus =>
      rw [List.singleton_append, stray_cons (by decide), hsign _ (.inl rfl)]
      rfl
  | minus =>
      rw [List.singleton_append, stray_cons (by decide), hsign _ (.inr rfl)]
      rfl

theorem Sign.head? (h : Sign negative g) (ht : t.head? ≠ some '_') :
    (g ++ t).head? ≠ some '_' := by
  cases h with
  | none => exact ht
  | plus => exact fun heq => absurd (Option.some.inj heq) (by decide)
  | minus => exact fun heq => absurd (Option.some.inj heq) (by decide)

end Signs

/-! ## Whole numbers -/

section Whole

variable {negative : Bool} {n : Nat} {g t : List Char}

theorem isDigit_of_numeral (c : Char) (k : Nat) (hc : HexDigit c k) (hk : k < 10) :
    isDigit c = true := isDigit_of_hexDigit hc hk

theorem not_isDigit_sign (c : Char) (hc : c = '+' ∨ c = '-') : isDigit c = false := by
  rcases hc with rfl | rfl
  · rfl
  · rfl

theorem not_isHexDigit_sign (c : Char) (hc : c = '+' ∨ c = '-') : isHexDigit c = false := by
  rcases hc with rfl | rfl
  · rfl
  · rfl

theorem Numeral.first (h : Numeral 10 n t) : ∃ c u, t = c :: u ∧ isDigit c = true := by
  obtain ⟨c, k, u, rfl, hc, hk⟩ := h.uncons
  exact ⟨c, u, rfl, isDigit_of_hexDigit hc hk⟩

theorem Numeral.filter_digits (h : Numeral 10 n t) :
    ∀ c ∈ t.filter (· ≠ '_'), isDigit c = true := by
  intro c hc
  obtain ⟨hmem, hne⟩ := List.mem_filter.mp hc
  rcases h.mem c hmem with rfl | ⟨k, hk, hdigit⟩
  · exact absurd rfl (of_decide_eq_true hne)
  · exact isDigit_of_hexDigit hdigit hk

theorem Numeral.filter_ne_nil (h : Numeral 10 n t) : t.filter (· ≠ '_') ≠ [] := by
  obtain ⟨c, k, u, rfl, hc, -⟩ := h.uncons
  have hkeep : decide (c ≠ '_') = true := decide_eq_true (HexDigit.ne_underscore hc)
  rw [List.filter_cons, if_pos hkeep]
  exact List.cons_ne_nil _ _

theorem decimal_eq (hg : Sign negative g) (h : Numeral 10 n t) :
    decimal (g ++ t) = .ok (.integer (if negative then -(n : Int) else n)) := by
  have hstray : strayUnderscore? isHexDigit false 0 (g ++ t) = none := by
    rw [hg.stray not_isHexDigit_sign, ← List.append_nil t,
      h.stray fun c k hc _ => HexDigit.isHexDigit hc]
    rfl
  have hlast : (g ++ t).getLast? ≠ some '_' := by
    rw [List.getLast?_append_of_ne_nil _ h.ne_nil]
    exact h.getLast?
  have hfilter : (g ++ t).filter (· ≠ '_') = g ++ t.filter (· ≠ '_') := by
    rw [List.filter_append, hg.filter]
  have hsign : ∀ c ∈ (t.filter (· ≠ '_')).head?, c ≠ '-' ∧ c ≠ '+' := by
    intro c hc
    have hdigit := h.filter_digits c (List.mem_of_mem_head? hc)
    exact ⟨isDigit_ne hdigit (by decide), isDigit_ne hdigit (by decide)⟩
  have hdigits : t.filter (· ≠ '_') ≠ [] ∧ (t.filter (· ≠ '_')).all isDigit = true :=
    ⟨h.filter_ne_nil, List.all_eq_true.mpr h.filter_digits⟩
  rw [decimal]
  refine bind_eq_ok.mpr ⟨_, withoutUnderscores_eq (hg.head? h.head?) hlast hstray, ?_⟩
  simp only [hfilter, scanSign_sign hg hsign]
  rw [if_pos hdigits, h.value]
  rfl

end Whole

/-! ## What kind of number it is -/

section Kinds

variable {negative : Bool} {n : Nat} {g t : List Char}

/-- Behind the first digits of a numeral stands what is behind the numeral,
or an underscore. -/
theorem Numeral.behind (h : Numeral 10 n t) (rest : List Char) :
    (t ++ rest).dropWhile isDigit = rest.dropWhile isDigit ∨
      ∃ u, (t ++ rest).dropWhile isDigit = '_' :: (u ++ rest) ∧ u ⊆ t := by
  induction h generalizing rest with
  | digit hc hk =>
      left
      rw [List.singleton_append, List.dropWhile_cons_of_pos (isDigit_of_hexDigit hc hk)]
  | @more c n k t _ hc hk ih =>
      rw [List.append_assoc, List.singleton_append]
      rcases ih (c :: rest) with heq | ⟨u, heq, hu⟩
      · left
        rw [heq, List.dropWhile_cons_of_pos (isDigit_of_hexDigit hc hk)]
      · right
        refine ⟨u ++ [c], ?_, ?_⟩
        · rw [heq, List.append_assoc, List.singleton_append]
        · exact List.append_subset.mpr
            ⟨List.subset_append_of_subset_left [c] hu, List.subset_append_right t [c]⟩
  | @apart c n k t _ hc hk ih =>
      rw [List.append_assoc]
      rcases ih (['_', c] ++ rest) with heq | ⟨u, heq, hu⟩
      · right
        refine ⟨[c], heq, ?_⟩
        exact List.Subset.trans (List.subset_cons_self '_' [c]) (List.subset_append_right t _)
      · right
        refine ⟨u ++ ['_', c], ?_, ?_⟩
        · rw [heq, List.append_assoc]
        · exact List.append_subset.mpr
            ⟨List.subset_append_of_subset_left _ hu, List.subset_append_right t _⟩

/-- Letters that a zero in front would make the sign of another base. -/
def baseLetters : List Char := "xXoObBdD".toList

theorem zeroFirst_eq {u : List Char} (h : ∀ d ∈ u.head?, d ∉ baseLetters) (signed : Bool)
    (raw : List Char) (place : Nat) :
    zeroFirst signed raw place ('0' :: u) = numeric raw place ('0' :: u) := by
  have hletter : ∀ {d v}, d ∈ baseLetters → u ≠ d :: v := by
    rintro d v hd rfl
    exact h d rfl hd
  rw [zeroFirst.eq_def]
  split
  all_goals first
    | rfl
    | exact absurd (List.tail_eq_of_cons_eq ‹_›) (hletter (by decide))

/-- What begins with a digit, apart from its sign, is a number or a moment. -/
theorem bareText_numeric (hg : Sign negative g) {c : Char} {u : List Char}
    (hc : isDigit c = true) (hu : c = '0' → ∀ d ∈ u.head?, d ∉ baseLetters) :
    bareText (g ++ c :: u) = numeric (g ++ c :: u) g.length (c :: u) := by
  have hplus : c ≠ '+' := isDigit_ne hc (by decide)
  have hminus : c ≠ '-' := isDigit_ne hc (by decide)
  have hbehind : ∀ raw, signedText raw (c :: u) = numeric raw 1 (c :: u) := by
    intro raw
    rw [signedText, if_neg (not_or.mpr ⟨hplus, hminus⟩)]
    split
    · next hzero =>
        rw [hzero]
        exact zeroFirst_eq (hu hzero) true raw 1
    · rw [if_pos (.inl hc)]
  cases hg with
  | plus => exact hbehind _
  | minus => exact hbehind _
  | none =>
      rw [List.nil_append, bareText, if_neg (not_or.mpr ⟨hplus, hminus⟩)]
      split
      · next hzero =>
          rw [hzero]
          exact zeroFirst_eq (hu hzero) false _ 0
      · rw [if_pos (.inl hc)]
        rfl

/-- A whole number is digits and underscores only. -/
theorem numeric_decimal {raw s : List Char} {place : Nat}
    (hrest : s.dropWhile isDigit = [] ∨ (s.dropWhile isDigit).head? = some '_')
    (hchars : ∀ c ∈ s.dropWhile isDigit, c = '_' ∨ isDigit c = true)
    (hzero : s.head? = some '0' → s = ['0']) : numeric raw place s = decimal raw := by
  have hblank : (s.dropWhile isDigit).contains ' ' = false := by
    rw [List.contains_eq_mem, decide_eq_false_iff_not]
    intro hmem
    rcases hchars ' ' hmem with heq | hdigit
    · cases heq
    · cases hdigit
  have hhead : ∀ d, d ≠ '_' → decide ((s.dropWhile isDigit).head? = some d) = false := by
    intro d hd
    rw [decide_eq_false_iff_not]
    intro heq
    rcases hrest with hnil | hunderscore
    · rw [hnil] at heq
      cases heq
    · exact hd (Option.some.inj (heq.symm.trans hunderscore))
  have hpoint : (s.dropWhile isDigit).any
      (fun c => c == '.' || c == 'e' || c == 'E') = false := by
    rw [List.any_eq_false]
    intro c hc
    rcases hchars c hc with rfl | h
    · decide
    · simp [isDigit_ne h (show isDigit '.' = false by decide),
        isDigit_ne h (show isDigit 'e' = false by decide),
        isDigit_ne h (show isDigit 'E' = false by decide)]
  -- It is no moment, no amount, and has no zero in front.
  have hlead : ¬(s.head? = some '0' ∧ s ≠ ['0']) := fun h => h.2 (hzero h.1)
  have hends : s.dropWhile isDigit = [] ∨
      decide ((s.dropWhile isDigit).head? = some '_') = true :=
    hrest.imp_right decide_eq_true
  simp only [numeric, hhead '-' (by decide), hhead ':' (by decide), hblank, hpoint, Bool.or_self,
    Bool.false_eq_true, if_false, if_pos hends, if_neg hlead]

theorem bareText_whole (hg : Sign negative g) (h : Whole n t) :
    bareText (g ++ t) = .ok (.integer (if negative then -(n : Int) else n)) := by
  obtain ⟨c, u, rfl, hc⟩ := h.numeral.first
  have hzero : c = '0' → ∀ d ∈ u.head?, d ∉ baseLetters := by
    rintro rfl d hd
    obtain rfl : u = [] := (List.cons.inj (h.no_leading_zero rfl)).2
    cases hd
  have hbehind := h.numeral.behind []
  rw [List.append_nil] at hbehind
  rw [bareText_numeric hg hc hzero, numeric_decimal, decimal_eq hg h.numeral]
  · rcases hbehind with heq | ⟨v, heq, -⟩
    · exact .inl heq
    · right
      rw [heq]
      rfl
  · intro d hd
    rcases h.numeral.mem d (List.dropWhile_subset isDigit hd) with rfl | ⟨k, hk, hdigit⟩
    · exact .inl rfl
    · exact .inr (isDigit_of_hexDigit hdigit hk)
  · exact h.no_leading_zero

theorem radix_eq {base : Nat} (h : Numeral base n t) : radix base t = .ok (.integer n) := by
  have hfits : ∀ c ∈ t, ((hexDigit? c).any (· < base) || c == '_') = true := by
    intro c hc
    rcases h.mem c hc with rfl | ⟨k, hk, hdigit⟩
    · rw [BEq.rfl, Bool.or_true]
    · rw [hexDigit?_eq hdigit, Option.any_some, decide_eq_true hk, Bool.true_or]
  have hgood : t.takeWhile (fun c => (hexDigit? c).any (· < base) || c == '_') = t := by
    have happend := @List.takeWhile_append_of_pos _ _ t [] hfits
    rwa [List.append_nil, List.takeWhile_nil, List.append_nil] at happend
  have hstray : strayUnderscore? isHexDigit false 2 t = none := by
    rw [← List.append_nil t, h.stray fun c k hc _ => HexDigit.isHexDigit hc]
    rfl
  simp only [radix, if_neg h.ne_nil, hgood, Nat.lt_irrefl, if_false]
  refine bind_eq_ok.mpr ⟨_, withoutUnderscores_eq h.head? h.getLast? hstray, ?_⟩
  rw [h.value]
  rfl

theorem bareText_based {letter : Char} {base : Nat} (hletter : (letter, base) ∈ bases)
    (h : Numeral base n t) : bareText ('0' :: letter :: t) = .ok (.integer n) := by
  have hbased : bareText ('0' :: letter :: t) = radix base t := by
    simp only [bases, List.mem_cons, Prod.mk.injEq, List.not_mem_nil, or_false] at hletter
    rcases hletter with ⟨rfl, rfl⟩ | ⟨rfl, rfl⟩ | ⟨rfl, rfl⟩
    · rfl
    · rfl
    · rfl
  rw [hbased, radix_eq h]

end Kinds

/-! ## Signs of words -/

section Wordy

variable {t : List Char}

/-- Points, and signs that may stand in bare words. -/
def Wordy (t : List Char) : Prop := ∀ c ∈ t, c = '.' ∨ (endsBare c = false ∧ c ≠ '"' ∧ c ≠ '\'')

theorem Wordy.append {a b : List Char} (ha : Wordy a) (hb : Wordy b) : Wordy (a ++ b) :=
  List.forall_mem_append.mpr ⟨ha, hb⟩

theorem Wordy.cons {c : Char} {a : List Char}
    (hc : c = '.' ∨ (endsBare c = false ∧ c ≠ '"' ∧ c ≠ '\'')) (ha : Wordy a) : Wordy (c :: a) :=
  List.forall_mem_cons.mpr ⟨hc, ha⟩

theorem Wordy.not_mem (h : Wordy t) {c : Char} (hends : endsBare c = true) (hc : c ≠ '.') :
    c ∉ t := by
  intro hmem
  rcases h c hmem with rfl | ⟨hbare, -⟩
  · exact hc rfl
  · cases hends.symm.trans hbare

theorem HexDigit.wordy {c : Char} {k : Nat} (h : HexDigit c k) :
    endsBare c = false ∧ c ≠ '"' ∧ c ≠ '\'' := by
  obtain ⟨hk, rfl | rfl⟩ := h
  · revert k
    decide
  · revert k
    decide

theorem Numeral.wordy {base n : Nat} (h : Numeral base n t) : Wordy t := by
  intro c hc
  right
  rcases h.mem c hc with rfl | ⟨k, -, hk⟩
  · decide
  · exact HexDigit.wordy hk

theorem Sign.wordy {negative : Bool} {g : List Char} (h : Sign negative g) : Wordy g := by
  cases h with
  | none => exact List.forall_mem_nil _
  | plus => exact List.forall_mem_singleton.mpr (.inr (by decide))
  | minus => exact List.forall_mem_singleton.mpr (.inr (by decide))

end Wordy

end OrderDesk.Toml
