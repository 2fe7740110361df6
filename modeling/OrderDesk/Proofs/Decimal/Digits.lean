/-
# `Proofs.Decimal.Digits` — the digits of a number

`Decimal.text n` has only digits, at least one, no leading zero unless
`n` is zero, and is worth `n` again.
-/
import Mathlib.Algebra.Order.Ring.Nat
import OrderDesk.Decimal.Notation

namespace OrderDesk.Decimal

theorem isDigit_of_mem_text {n : Nat} {c : Char} (h : c ∈ text n) : c.isDigit = true :=
  Nat.isDigit_of_mem_toDigits (by decide) (by decide) h

theorem text_ne_nil (n : Nat) : text n ≠ [] := Nat.toDigits_ne_nil

theorem ofDigitChars_text (n : Nat) : Nat.ofDigitChars 10 (text n) 0 = n :=
  Nat.ofDigitChars_ten_toDigits

theorem head?_text {n : Nat} (h : 0 < n) : (text n).head? ≠ some '0' := by
  induction n using Nat.strongRecOn with
  | ind n ih =>
      by_cases hlt : n < 10
      · have hdigit : ∀ m < 10, 0 < m → [Nat.digitChar m].head? ≠ some '0' := by decide
        rw [text, Nat.toDigits_of_lt_base hlt]
        exact hdigit n hlt h
      · have hdiv : 0 < n / 10 := Nat.div_pos (by omega) (by decide)
        rw [text, Nat.toDigits_of_base_le (by decide) (by omega), List.head?_append]
        obtain ⟨c, cs, hcs⟩ := List.exists_cons_of_ne_nil (text_ne_nil (n / 10))
        have hne := ih (n / 10) (by omega) hdiv
        rw [hcs] at hne
        rw [text] at hcs
        rw [hcs]
        exact hne

/-- The length of the text counts the powers of ten. -/
theorem pow_length_le {n : Nat} (h : 0 < n) : 10 ^ ((text n).length - 1) ≤ n := by
  by_cases hlength : (text n).length - 1 = 0
  · rw [hlength]
    exact h
  · refine Nat.le_of_not_lt ?_
    intro hlt
    have hle : (text n).length ≤ (text n).length - 1 :=
      (Nat.length_toDigits_le_iff (by decide) (Nat.pos_of_ne_zero hlength)).mpr hlt
    omega

theorem le_ofDigitChars (n : Nat) (ds : List Char) :
    n * 10 ^ ds.length ≤ Nat.ofDigitChars 10 ds n := by
  rw [Nat.ofDigitChars_eq_ofDigitChars_zero, Nat.mul_comm]
  exact Nat.le_add_right _ _

theorem self_le_ofDigitChars (n : Nat) (ds : List Char) : n ≤ Nat.ofDigitChars 10 ds n :=
  Nat.le_trans (Nat.le_mul_of_pos_right n (Nat.pow_pos (by decide))) (le_ofDigitChars n ds)

end OrderDesk.Decimal
