/-
# `Proofs.Toml.Words` — scalars without quotation marks

A date is told from a number by the sign behind its first digits, and is
then read part by part, each part being a number of so many digits
(`fixedNumber?_padded`).  With this every word of the grammar is read as the
scalar that it says (`bareText_word`), and what words are made of is known
(`word_spaced`): signs of bare words and points, and at most one blank, which
stands between a date and a time.
-/
import OrderDesk.Proofs.Toml.Amounts

namespace OrderDesk.Toml

open Json (HexDigit)

/-! ## Dates and times -/

section Moments

variable {count n : Nat} {t rest : List Char}

/-- Dates and numbers are read with the same digits. -/
theorem isDigit_eq (c : Char) : isDigit c = c.isDigit := by
  rw [Bool.eq_iff_iff]
  simp only [isDigit, Bool.and_eq_true, decide_eq_true_eq, Char.le_def]
  simp [Char.isDigit, UInt32.le_iff_toNat_le]

/-- The value of digits without underscores. -/
theorem Numeral.plain_value (h : Numeral 10 n t) (hplain : '_' ∉ t) :
    t.foldl (fun n d => n * 10 + (d.toNat - '0'.toNat)) 0 = n := by
  have hdigit : ∀ {c k}, HexDigit c k → k < 10 → c.toNat - '0'.toNat = k := by
    rintro c k ⟨-, rfl | rfl⟩ hk
    · revert k
      decide
    · revert k
      decide
  induction h with
  | digit hc hk =>
      rw [List.foldl_cons, List.foldl_nil, Nat.zero_mul, Nat.zero_add, hdigit hc hk]
  | more _ hc hk ih =>
      have hfront := ih fun hmem => hplain (List.mem_append_left _ hmem)
      rw [List.foldl_append, hfront, List.foldl_cons, List.foldl_nil, hdigit hc hk]
  | apart => exact absurd (List.mem_append_right _ List.mem_cons_self) hplain

theorem Padded.digits (h : Padded count n t) : ∀ c ∈ t, isDigit c = true := by
  intro c hc
  rcases h.numeral.mem c hc with rfl | ⟨k, hk, hdigit⟩
  · exact absurd hc h.plain
  · exact isDigit_of_hexDigit hdigit hk

theorem fixedNumber?_padded (h : Padded count n t) (hrest : ∀ c ∈ rest.head?, c.isDigit = false) :
    fixedNumber? count (t ++ rest) = some (n, rest) := by
  have hall : ∀ c ∈ t, c.isDigit = true := by
    intro c hc
    rw [← isDigit_eq]
    exact h.digits c hc
  have hrun : (t ++ rest).takeWhile Char.isDigit = t := by
    rw [List.takeWhile_append_of_pos hall]
    cases rest with
    | nil => exact List.append_nil t
    | cons c rest => rw [List.takeWhile_cons, hrest c rfl, if_neg (by decide), List.append_nil]
  simp only [fixedNumber?, hrun]
  rw [if_pos h.length, h.numeral.plain_value h.plain, ← h.length, List.drop_left]

/-- A character that is no digit ends one. -/
theorem head?_cons {c : Char} {u : List Char} (hc : c.isDigit = false) :
    ∀ d ∈ (c :: u).head?, d.isDigit = false := by
  rintro d ⟨⟩
  exact hc

theorem noDigit_nil : ∀ d ∈ ([] : List Char).head?, d.isDigit = false := by
  intro d hd
  cases hd

theorem date?_eq {d : List Char} (h : Date d) (hrest : ∀ c ∈ rest.head?, c.isDigit = false) :
    date? (d ++ rest) = some rest := by
  cases h with
  | @mk year month day y m d hy hm hd hlow hhigh hfirst hlast =>
      have hyear : fixedNumber? 4 (y ++ '-' :: (m ++ '-' :: (d ++ rest))) = some (year, _) :=
        fixedNumber?_padded hy (head?_cons rfl)
      have hmonth : fixedNumber? 2 (m ++ '-' :: (d ++ rest)) = some (month, _) :=
        fixedNumber?_padded hm (head?_cons rfl)
      have hday := fixedNumber?_padded hd hrest
      simp [date?, hyear, hmonth, hday, expect?, hlow, hhigh, hfirst, hlast]

/-- What may stand behind a time. -/
def EndsTime (rest : List Char) : Prop := ∀ c ∈ rest.head?, c.isDigit = false ∧ c ≠ ':' ∧ c ≠ '.'

theorem endsTime_nil : EndsTime [] := by
  intro c hc
  cases hc

theorem EndsTime.noDigit (h : EndsTime rest) : ∀ c ∈ rest.head?, c.isDigit = false :=
  fun c hc => (h c hc).1

theorem secondFraction?_eq {f : List Char} (h : Split f) (hrest : EndsTime rest) :
    secondFraction? (f ++ rest) = some rest := by
  cases h with
  | none =>
      rw [List.nil_append, secondFraction?.eq_def]
      split
      · exact absurd rfl (hrest _ rfl).2.2
      · rfl
  | @some count n t ht =>
      have hdigits : ∀ c ∈ t, c.isDigit = true := by
        intro c hc
        rw [← isDigit_eq]
        exact ht.digits c hc
      obtain ⟨c, u, rfl, hc⟩ := ht.numeral.first
      have hstops : rest.dropWhile Char.isDigit = rest := by
        cases rest with
        | nil => rfl
        | cons d rest =>
            exact List.dropWhile_cons_of_neg (Bool.eq_false_iff.mp (hrest d rfl).1)
      have hrun : ((c :: u) ++ rest).dropWhile Char.isDigit = rest := by
        rw [List.dropWhile_append_of_pos hdigits, hstops]
      rw [List.cons_append, List.cons_append, secondFraction?, List.head?_cons, Option.any_some,
        if_pos (isDigit_eq c ▸ hc), ← List.cons_append, hrun]

/-- Behind the minutes stand the seconds or what ends a time. -/
theorem noDigit_seconds {s : List Char} (h : Seconds s) (hrest : EndsTime rest) :
    ∀ c ∈ (s ++ rest).head?, c.isDigit = false := by
  cases h with
  | none => exact hrest.noDigit
  | some => exact head?_cons rfl

theorem noDigit_split {f : List Char} (h : Split f) (hrest : EndsTime rest) :
    ∀ c ∈ (f ++ rest).head?, c.isDigit = false := by
  cases h with
  | none => exact hrest.noDigit
  | some => exact head?_cons rfl

theorem time?_eq (h : Time t) (hrest : EndsTime rest) : time? (t ++ rest) = some rest := by
  cases h with
  | @mk hour minute h m s hh hm hlow hhigh hs =>
      have hhour : fixedNumber? 2 (h ++ ':' :: (m ++ (s ++ rest))) = some (hour, _) :=
        fixedNumber?_padded hh (head?_cons rfl)
      have hminute : fixedNumber? 2 (m ++ (s ++ rest)) = some (minute, _) :=
        fixedNumber?_padded hm (noDigit_seconds hs hrest)
      have hrange : ¬(23 < hour ∨ 59 < minute) := by omega
      rw [List.append_assoc, List.cons_append, List.append_assoc, time?]
      simp only [hhour, hminute, expect?, if_true, if_neg hrange, Option.bind_eq_bind,
        Option.bind_some]
      cases hs with
      | none =>
          split
          · next heq =>
              have hcolon : ':' ∈ rest.head? := congrArg List.head? heq
              exact absurd rfl (hrest ':' hcolon).2.1
          · rfl
      | @some second t f ht hsecond hf =>
          have hread : fixedNumber? 2 (t ++ (f ++ rest)) = some (second, _) :=
            fixedNumber?_padded ht (noDigit_split hf hrest)
          simp [hread, Nat.not_lt.mpr hsecond, secondFraction?_eq hf hrest]

theorem offset?_eq {o : List Char} (h : Offset o) : offset? o = some [] := by
  cases h with
  | none => rfl
  | zero hc => rw [offset?, if_pos hc]
  | @some c hours minutes h m hsign hh hm hlow hhigh =>
      have hc : ¬(c = 'Z' ∨ c = 'z') := by
        rcases hsign with rfl | rfl
        · decide
        · decide
      have hhours : fixedNumber? 2 (h ++ ':' :: m) = some (hours, _) :=
        fixedNumber?_padded hh (head?_cons rfl)
      have hminutes : fixedNumber? 2 (m ++ []) = some (minutes, []) :=
        fixedNumber?_padded hm noDigit_nil
      rw [List.append_nil] at hminutes
      have hrange : ¬(23 < hours ∨ 59 < minutes) := by omega
      simp [offset?, hc, hsign, hhours, hminutes, expect?, hrange]

theorem endsTime_offset {o : List Char} (h : Offset o) : EndsTime o := by
  cases h with
  | none => exact endsTime_nil
  | zero hc =>
      rintro d ⟨⟩
      rcases hc with rfl | rfl
      · decide
      · decide
  | some hc =>
      rintro d ⟨⟩
      rcases hc with rfl | rfl
      · decide
      · decide

/-- A date has a minus behind its first digits, and a time a colon. -/
theorem Padded.dropWhile (h : Padded count n t) {c : Char} (hc : isDigit c = false)
    (u : List Char) : (t ++ c :: u).dropWhile isDigit = c :: u := by
  rw [List.dropWhile_append_of_pos h.digits]
  exact List.dropWhile_cons_of_neg (Bool.eq_false_iff.mp hc)

theorem isMoment_date {d : List Char} (h : Date d) : isMoment d = true := by
  have hread := date?_eq h noDigit_nil
  rw [List.append_nil] at hread
  cases h with
  | @mk year month day y m d hy =>
      have hrun := hy.dropWhile rfl (m ++ '-' :: d) (c := '-')
      rw [funext isDigit_eq] at hrun
      simp only [isMoment, hrun, List.head?_cons, hread]

theorem isMoment_time (h : Time t) : isMoment t = true := by
  have hread := time?_eq h endsTime_nil
  rw [List.append_nil] at hread
  cases h with
  | @mk hour minute h m s hh =>
      have hrun := hh.dropWhile rfl (m ++ s) (c := ':')
      rw [funext isDigit_eq] at hrun
      simp [isMoment, hrun, hread]

theorem isMoment_both {d o : List Char} {c : Char} (hd : Date d)
    (hc : c = 'T' ∨ c = 't' ∨ c = ' ') (ht : Time t) (ho : Offset o) :
    isMoment (d ++ c :: (t ++ o)) = true := by
  have hstops : ∀ e ∈ (c :: (t ++ o)).head?, e.isDigit = false := by
    refine head?_cons ?_
    rcases hc with rfl | rfl | rfl
    · rfl
    · rfl
    · rfl
  have hdate := date?_eq hd hstops
  have htime := time?_eq ht (endsTime_offset ho)
  have hsign : (c == 'T' || c == 't' || c == ' ') = true := by
    rcases hc with rfl | rfl | rfl
    · rfl
    · rfl
    · rfl
  cases hd with
  | @mk year month day y m d hy =>
      have hrun := hy.dropWhile rfl (m ++ '-' :: (d ++ c :: (t ++ o))) (c := '-')
      rw [funext isDigit_eq] at hrun
      simp only [isMoment, List.append_assoc, List.cons_append, hrun, List.head?_cons] at hdate ⊢
      rw [hdate]
      simp [hsign, htime, offset?_eq ho]

/-- A text that begins with digits and a minus or a colon behind them is taken
for a date or a time. -/
theorem bareText_padded (h : Padded count n t) (hcount : 1 < count) {c : Char} {u : List Char}
    (hc : c = '-' ∨ c = ':') (hmoment : isMoment (t ++ c :: u) = true) :
    bareText (t ++ c :: u) = .ok .moment := by
  have hdigit : isDigit c = false := by
    rcases hc with rfl | rfl
    · rfl
    · rfl
  have hrun := h.dropWhile hdigit u
  match t, h.length, h.digits with
  | [], hlength, _ | [_], hlength, _ =>
      rw [← hlength] at hcount
      exact absurd hcount (by simp)
  | a :: b :: t, _, hdigits =>
      obtain ⟨ha, hrest⟩ := List.forall_mem_cons.mp hdigits
      have hletter : ∀ d ∈ (b :: (t ++ c :: u)).head?, d ∉ baseLetters := by
        rintro d ⟨⟩ hmem
        have hnone : baseLetters.any isDigit = false := by decide
        exact List.any_eq_false.mp hnone b hmem (hrest b List.mem_cons_self)
      have hnumeric := bareText_numeric .none ha fun _ => hletter
      rw [List.nil_append] at hnumeric
      rw [List.cons_append, List.cons_append] at hrun hmoment ⊢
      rw [hnumeric]
      simp [numeric, hrun, hc, hmoment]

theorem bareText_moment (h : Moment t) : bareText t = .ok .moment := by
  cases h with
  | date h =>
      have hmoment := isMoment_date h
      cases h with
      | mk hy => exact bareText_padded hy (by decide) (.inl rfl) hmoment
  | time h =>
      have hmoment := isMoment_time h
      cases h with
      | mk hh => exact bareText_padded hh (by decide) (.inr rfl) hmoment
  | both hd hc ht ho =>
      have hmoment := isMoment_both hd hc ht ho
      cases hd with
      | mk hy =>
          rw [List.append_assoc] at hmoment ⊢
          exact bareText_padded hy (by decide) (.inl rfl) hmoment

end Moments

/-! ## All words -/

section Words

variable {s : Scalar} {t : List Char}

/-- A word is read as the scalar that it says. -/
theorem bareText_word (h : Word s t) : bareText t = .ok s := by
  cases h with
  | yes => rfl
  | no => rfl
  | whole hg h => exact bareText_whole hg h
  | based hletter h => exact bareText_based hletter h
  | amount h => exact bareText_amount h
  | infinity hg =>
      cases hg with
      | none => rfl
      | plus => rfl
      | minus => rfl
  | undefined hg =>
      cases hg with
      | none => rfl
      | plus => rfl
      | minus => rfl
  | moment h => exact bareText_moment h

theorem Padded.wordy {count n : Nat} (h : Padded count n t) : Wordy t := h.numeral.wordy

theorem Date.wordy (h : Date t) : Wordy t := by
  cases h with
  | mk hy hm hd =>
      exact hy.wordy.append (.cons (.inr (by decide)) (hm.wordy.append
        (.cons (.inr (by decide)) hd.wordy)))

theorem Seconds.wordy (h : Seconds t) : Wordy t := by
  cases h with
  | none => exact List.forall_mem_nil _
  | some ht _ hf =>
      refine .cons (.inr (by decide)) (ht.wordy.append ?_)
      cases hf with
      | none => exact List.forall_mem_nil _
      | some hf => exact .cons (.inl rfl) hf.wordy

theorem Time.wordy (h : Time t) : Wordy t := by
  cases h with
  | mk hh hm _ _ hs =>
      exact hh.wordy.append (.cons (.inr (by decide)) (hm.wordy.append hs.wordy))

theorem Offset.wordy (h : Offset t) : Wordy t := by
  cases h with
  | none => exact List.forall_mem_nil _
  | zero hc =>
      refine List.forall_mem_singleton.mpr (.inr ?_)
      rcases hc with rfl | rfl
      · decide
      · decide
  | some hc hh hm =>
      refine .cons (.inr ?_) (hh.wordy.append (.cons (.inr (by decide)) hm.wordy))
      rcases hc with rfl | rfl
      · decide
      · decide

/-- A word is made of signs of words, or it is two of them with a blank in
between, the second of which does not begin with a point. -/
inductive Spaced : List Char → Prop
  | one {t : List Char} : t ≠ [] → Wordy t → Spaced t
  | two {a b : List Char} : a ≠ [] → Wordy a → b ≠ [] → b.head? ≠ some '.' → Wordy b →
      Spaced (a ++ ' ' :: b)

theorem Date.ne_nil (h : Date t) : t ≠ [] := by
  cases h with
  | mk hy => exact fun hnil => hy.numeral.ne_nil (List.append_eq_nil_iff.mp hnil).1

theorem Time.first (h : Time t) : ∃ c u, t = c :: u ∧ isDigit c = true := by
  cases h with
  | mk hh =>
      obtain ⟨c, u, rfl, hc⟩ := hh.numeral.first
      exact ⟨c, _, rfl, hc⟩

theorem Moment.spaced (h : Moment t) : Spaced t := by
  cases h with
  | date h => exact .one h.ne_nil h.wordy
  | time h =>
      obtain ⟨c, u, rfl, -⟩ := h.first
      exact .one (List.cons_ne_nil c u) h.wordy
  | @both d t o c hd hc ht ho =>
      have hbehind : Wordy (t ++ o) := ht.wordy.append ho.wordy
      rcases hc with rfl | rfl | rfl
      · exact .one (List.append_ne_nil_of_left_ne_nil hd.ne_nil _)
          (hd.wordy.append (.cons (.inr (by decide)) hbehind))
      · exact .one (List.append_ne_nil_of_left_ne_nil hd.ne_nil _)
          (hd.wordy.append (.cons (.inr (by decide)) hbehind))
      · obtain ⟨c, u, rfl, hc⟩ := ht.first
        refine .two hd.ne_nil hd.wordy (List.cons_ne_nil c _) ?_ hbehind
        exact fun heq => isDigit_ne hc (by decide) (Option.some.inj heq)

theorem Amount.wordy (h : Amount t) : Wordy t := by
  cases h with
  | mk hg ht hf he =>
      exact hg.wordy.append (ht.numeral.wordy.append (hf.wordy.append he.wordy))

theorem Amount.ne_nil (h : Amount t) : t ≠ [] := by
  cases h with
  | mk hg ht =>
      refine List.append_ne_nil_of_right_ne_nil _ ?_
      exact List.append_ne_nil_of_left_ne_nil ht.numeral.ne_nil _

theorem word_spaced (h : Word s t) : Spaced t := by
  have hspelled : ∀ {u}, u.all (fun c => !endsBare c && c != '"' && c != '\'') = true →
      Wordy u := by
    intro u hu c hc
    have hall := List.all_eq_true.mp hu c hc
    simp only [Bool.and_eq_true, Bool.not_eq_true', bne_iff_ne] at hall
    exact .inr ⟨hall.1.1, hall.1.2, hall.2⟩
  cases h with
  | yes => exact .one (by decide) (hspelled (by decide))
  | no => exact .one (by decide) (hspelled (by decide))
  | whole hg h =>
      exact .one (List.append_ne_nil_of_right_ne_nil _ h.numeral.ne_nil)
        (hg.wordy.append h.numeral.wordy)
  | based hletter h =>
      refine .one (List.cons_ne_nil _ _) (.cons (.inr (by decide)) (.cons (.inr ?_) h.wordy))
      simp only [bases, List.mem_cons, Prod.mk.injEq, List.not_mem_nil, or_false] at hletter
      rcases hletter with ⟨rfl, -⟩ | ⟨rfl, -⟩ | ⟨rfl, -⟩
      · decide
      · decide
      · decide
  | amount h => exact .one h.ne_nil h.wordy
  | infinity hg =>
      exact .one (List.append_ne_nil_of_right_ne_nil _ (by decide))
        (hg.wordy.append (hspelled (by decide)))
  | undefined hg =>
      exact .one (List.append_ne_nil_of_right_ne_nil _ (by decide))
        (hg.wordy.append (hspelled (by decide)))
  | moment h => exact h.spaced

end Words

end OrderDesk.Toml
