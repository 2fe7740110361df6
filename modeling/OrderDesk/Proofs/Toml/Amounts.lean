/-
# `Proofs.Toml.Amounts` — numbers with a point or an exponent

An amount is checked part by part, from the left to the right, and then kept
as the text that it is written with, without the underscores
(`bareText_amount`).  Its value is looked at only when somebody asks for it;
every amount of the grammar has one (`parse_amount`), though it may be too
large to be finite.
-/
import OrderDesk.Proofs.Toml.Numbers

namespace OrderDesk.Toml

/-! ## Amounts -/

section Amounts

variable {negative : Bool} {n : Nat} {g t : List Char}

/-- Digits are read up to the first sign that is no digit. -/
theorem digitRun_numeral (h : Numeral 10 n t) (zeros : Bool)
    (hzero : zeros = false → t.head? = some '0' → t = ['0']) {rest : List Char}
    (hrest : ∀ c ∈ rest.head?, (isDigit c || c == '_') = false) (place : Nat) :
    digitRun zeros place (t ++ rest) = .ok t.length := by
  have hall : ∀ c ∈ t, (isDigit c || c == '_') = true := by
    intro c hc
    rcases h.mem c hc with rfl | ⟨k, hk, hdigit⟩
    · decide
    · rw [isDigit_of_hexDigit hdigit hk, Bool.true_or]
  have hrun : (t ++ rest).takeWhile (fun c => isDigit c || c == '_') = t := by
    rw [List.takeWhile_append_of_pos hall]
    cases rest with
    | nil => exact List.append_nil t
    | cons c rest => rw [List.takeWhile_cons, hrest c rfl, if_neg (by decide), List.append_nil]
  obtain ⟨c, u, rfl, hc⟩ := h.first
  have hcount : ((c :: u).filter isDigit).length ≠ 0 := by
    rw [List.filter_cons_of_pos hc]
    exact Nat.succ_ne_zero _
  have hlead : ¬(1 < ((c :: u).filter isDigit).length ∧ (!zeros) = true ∧
      (c :: u).head? = some '0') := by
    rintro ⟨hlong, hzeros, hhead⟩
    rw [hzero (Bool.not_eq_eq_eq_not.mp hzeros) hhead] at hlong
    exact absurd hlong (by decide)
  simp only [digitRun, hrun]
  rw [if_neg hcount, if_neg hlead]

theorem length_sign (hg : Sign negative g) (h : Numeral 10 n t) :
    (if (g ++ t).head?.any fun d => d == '+' || d == '-' then 1 else 0) = g.length := by
  cases hg with
  | plus => rfl
  | minus => rfl
  | none =>
      obtain ⟨c, u, rfl, hc⟩ := h.first
      have hplus : c ≠ '+' := isDigit_ne hc (by decide)
      have hminus : c ≠ '-' := isDigit_ne hc (by decide)
      simp [hplus, hminus]

/-- What stands behind the digits of a whole number begins with a point or the
letter of an exponent. -/
theorem head?_behind {f e : List Char} (hf : Fraction f) (he : Exponent e) :
    ∀ c ∈ (f ++ e).head?, c = '.' ∨ c = 'e' ∨ c = 'E' := by
  cases hf with
  | some _ =>
      rintro c ⟨⟩
      exact .inl rfl
  | none =>
      cases he with
      | none => exact fun c hc => nomatch hc
      | some hletter =>
          rintro c ⟨⟩
          exact .inr hletter

/-- A point or an exponent ends digits. -/
theorem ends_digits {f e : List Char} (hf : Fraction f) (he : Exponent e) :
    ∀ c ∈ (f ++ e).head?, (isDigit c || c == '_') = false := by
  intro c hc
  rcases head?_behind hf he c hc with rfl | rfl | rfl
  · rfl
  · rfl
  · rfl

theorem digitRun_end (h : Numeral 10 n t) (place : Nat) : digitRun true place t = .ok t.length := by
  have hrest : ∀ c ∈ ([] : List Char).head?, (isDigit c || c == '_') = false := by
    intro c hc
    cases hc
  have hrun := digitRun_numeral h true nofun hrest place
  rwa [List.append_nil] at hrun

/-- What stands behind the digits of an amount with a point, if it has one:
an exponent or nothing. -/
def checkExponent (place : Nat) : List Char → Placed Unit
  | [] => .ok ()
  | c :: s =>
    if c = 'e' ∨ c = 'E' then do
      let sign := if s.head?.any fun d => d == '+' || d == '-' then 1 else 0
      let count ← digitRun true (place + 1 + sign) (s.drop sign)
      if s.drop (sign + count) = [] then pure () else .error (place + 1 + sign + count)
    else .error place

/-- What stands behind the first digits of an amount. -/
def checkBehind (place : Nat) : List Char → Placed Unit
  | '.' :: s => do
    let count ← digitRun true (place + 1) s
    checkExponent (place + 1 + count) (s.drop count)
  | s => checkExponent place s

theorem checkAmount_behind (place : Nat) (s : List Char) :
    checkAmount place s = (do
      let whole ← digitRun false place s
      checkBehind (place + whole) (s.drop whole)) := by
  rw [checkAmount]
  congr 1
  funext whole
  generalize s.drop whole = u
  simp only [pure_bind]
  split
  · rw [checkBehind]
    congr 1
    funext count
    generalize List.drop count _ = v
    cases v with
    | nil => rfl
    | cons c v => simp only [checkExponent, reduceCtorEq, if_false]
  · next hpoint =>
      rw [checkBehind]
      · cases u with
        | nil => rfl
        | cons c u => simp only [checkExponent, reduceCtorEq, if_false]
      · exact hpoint

theorem checkExponent_eq {e : List Char} (he : Exponent e) (place : Nat) :
    checkExponent place e = .ok () := by
  cases he with
  | none => rfl
  | @some c _ g u m hletter hg hu =>
      have hend : (g ++ u).drop (g.length + u.length) = [] := by
        rw [← List.length_append, List.drop_length]
      rw [checkExponent, if_pos hletter]
      simp only [length_sign hg hu, List.drop_left]
      refine bind_eq_ok.mpr ⟨_, digitRun_end hu _, ?_⟩
      rw [if_pos hend]
      rfl

theorem exponent_ends {e : List Char} (he : Exponent e) :
    ∀ c ∈ e.head?, (isDigit c || c == '_') = false := ends_digits .none he

theorem checkAmount_eq {f e : List Char} (h : Whole n t) (hf : Fraction f) (he : Exponent e)
    (place : Nat) : checkAmount place (t ++ (f ++ e)) = .ok () := by
  rw [checkAmount_behind]
  refine bind_eq_ok.mpr ⟨_, digitRun_numeral h.numeral false (fun _ => h.no_leading_zero)
    (ends_digits hf he) place, ?_⟩
  simp only [List.drop_left]
  cases hf with
  | @some m v hv =>
      rw [List.cons_append, checkBehind]
      refine bind_eq_ok.mpr ⟨_, digitRun_numeral hv true nofun (exponent_ends he) _, ?_⟩
      rw [List.drop_left]
      exact checkExponent_eq he _
  | none =>
      rw [List.nil_append, checkBehind]
      · exact checkExponent_eq he _
      · rintro s rfl
        cases he with
        | some hletter => rcases hletter with h | h <;> cases h

/-- No underscore is out of place in an amount. -/
theorem stray_amount {f e : List Char} (hg : Sign negative g) (h : Whole n t) (hf : Fraction f)
    (he : Exponent e) : strayUnderscore? isDigit false 0 (g ++ (t ++ (f ++ e))) = none := by
  have hexponent : ∀ place, strayUnderscore? isDigit true place e = none := by
    intro place
    cases he with
    | none => rfl
    | @some c _ g u m hletter hg hu =>
        have hc : c ≠ '_' ∧ isDigit c = false := by
          rcases hletter with rfl | rfl
          · exact ⟨by decide, rfl⟩
          · exact ⟨by decide, rfl⟩
        rw [stray_cons hc.1, hc.2, hg.stray not_isDigit_sign, ← List.append_nil u,
          hu.stray isDigit_of_numeral]
        rfl
  rw [hg.stray not_isDigit_sign, h.numeral.stray isDigit_of_numeral]
  cases hf with
  | none => exact hexponent _
  | some hv =>
      rw [List.cons_append, stray_cons (by decide), hv.stray isDigit_of_numeral]
      exact hexponent _

theorem getLast?_amount {f e : List Char} (h : Whole n t) (hf : Fraction f) (he : Exponent e) :
    (t ++ (f ++ e)).getLast? ≠ some '_' := by
  cases he with
  | @some c _ g u m _ _ hu =>
      rw [← List.append_assoc, List.getLast?_append_of_ne_nil _ (List.cons_ne_nil c _),
        ← List.singleton_append, ← List.append_assoc, List.getLast?_append_of_ne_nil _ hu.ne_nil]
      exact hu.getLast?
  | none =>
      rw [List.append_nil]
      cases hf with
      | none =>
          rw [List.append_nil]
          exact h.numeral.getLast?
      | @some m v hv =>
          rw [← List.singleton_append, ← List.append_assoc,
            List.getLast?_append_of_ne_nil _ hv.ne_nil]
          exact hv.getLast?

theorem amount_eq {f e : List Char} (hg : Sign negative g) (h : Whole n t) (hf : Fraction f)
    (he : Exponent e) (place : Nat) :
    amount (g ++ (t ++ (f ++ e))) place (t ++ (f ++ e)) =
      .ok (.amount ((g ++ (t ++ (f ++ e))).filter (· ≠ '_'))) := by
  have hne : t ++ (f ++ e) ≠ [] := fun hnil => h.numeral.ne_nil (List.append_eq_nil_iff.mp hnil).1
  have hfirst : (t ++ (f ++ e)).head? ≠ some '_' := by
    rw [List.head?_append_of_ne_nil _ h.numeral.ne_nil]
    exact h.numeral.head?
  have hlast : (g ++ (t ++ (f ++ e))).getLast? ≠ some '_' := by
    rw [List.getLast?_append_of_ne_nil _ hne]
    exact getLast?_amount h hf he
  rw [amount]
  refine bind_eq_ok.mpr ⟨_, checkAmount_eq h hf he place, ?_⟩
  exact bind_eq_ok.mpr
    ⟨_, withoutUnderscores_eq (hg.head? hfirst) hlast (stray_amount hg h hf he), rfl⟩

theorem numeric_amount {raw s : List Char} {place : Nat}
    (hhead : ∀ c ∈ (s.dropWhile isDigit).head?, c ≠ '-' ∧ c ≠ ':')
    (hblank : ' ' ∉ s.dropWhile isDigit)
    (hpoint : ∃ c ∈ s.dropWhile isDigit, c = '.' ∨ c = 'e' ∨ c = 'E') :
    numeric raw place s = amount raw place s := by
  have hminus : (s.dropWhile isDigit).head? ≠ some '-' := fun h => (hhead _ h).1 rfl
  have hcolon : (s.dropWhile isDigit).head? ≠ some ':' := fun h => (hhead _ h).2 rfl
  have hany : (s.dropWhile isDigit).any (fun c => c == '.' || c == 'e' || c == 'E') = true := by
    obtain ⟨c, hc, hletter⟩ := hpoint
    refine List.any_eq_true.mpr ⟨c, hc, ?_⟩
    simpa [or_assoc] using hletter
  simp [numeric, hminus, hcolon, hblank, hany]

theorem Fraction.wordy {f : List Char} (h : Fraction f) : Wordy f := by
  cases h with
  | none => exact List.forall_mem_nil _
  | some h => exact .cons (.inl rfl) h.wordy

theorem Exponent.wordy {e : List Char} (h : Exponent e) : Wordy e := by
  cases h with
  | none => exact List.forall_mem_nil _
  | some hletter hg h =>
      refine .cons (.inr ?_) (hg.wordy.append h.wordy)
      rcases hletter with rfl | rfl
      · decide
      · decide

/-- Behind the first digits of an amount stands what tells that it is one,
perhaps with more digits in front. -/
theorem dropWhile_amount {f e : List Char} (h : Numeral 10 n t) (hf : Fraction f)
    (he : Exponent e) : ∃ v, (v = [] ∨ v.head? = some '_') ∧
      (t ++ (f ++ e)).dropWhile isDigit = v ++ (f ++ e) := by
  have hself : (f ++ e).dropWhile isDigit = f ++ e := by
    cases hbehind : f ++ e with
    | nil => rfl
    | cons c u =>
        have hc := ends_digits hf he c (by rw [hbehind]; rfl)
        exact List.dropWhile_cons_of_neg (Bool.eq_false_iff.mp (Bool.or_eq_false_iff.mp hc).1)
  rcases h.behind (f ++ e) with heq | ⟨u, heq, -⟩
  · exact ⟨[], .inl rfl, heq.trans hself⟩
  · exact ⟨'_' :: u, .inr rfl, heq⟩

theorem bareText_amount (h : Amount t) : bareText t = .ok (.amount (t.filter (· ≠ '_'))) := by
  cases h with
  | @mk _ n g t f e hg ht hf he hne =>
      obtain ⟨c, u, rfl, hc⟩ := ht.numeral.first
      -- A zero in front is the whole number, so no letter of another base follows.
      have hzero : c = '0' → ∀ d ∈ (u ++ (f ++ e)).head?, d ∉ baseLetters := by
        rintro rfl d hd
        obtain rfl : u = [] := (List.cons.inj (ht.no_leading_zero rfl)).2
        rcases head?_behind hf he d hd with rfl | rfl | rfl
        · decide
        · decide
        · decide
      obtain ⟨v, hv, hrest⟩ := dropWhile_amount ht.numeral hf he
      have hwordy : Wordy (c :: u ++ (f ++ e)) :=
        ht.numeral.wordy.append (hf.wordy.append he.wordy)
      rw [List.cons_append, bareText_numeric hg hc hzero, ← List.cons_append, numeric_amount,
        amount_eq hg ht hf he]
      · rw [hrest]
        rcases hv with rfl | hv
        · intro d hd
          rcases head?_behind hf he d hd with rfl | rfl | rfl
          · decide
          · decide
          · decide
        · intro d hd
          rw [List.head?_append, hv] at hd
          obtain rfl : '_' = d := Option.some.inj hd
          decide
      · intro hmem
        exact hwordy.not_mem rfl (by decide) (List.dropWhile_subset isDigit hmem)
      · rw [hrest]
        rcases hne with hne | hne
        · cases hf with
          | none => exact absurd rfl hne
          | some _ => exact ⟨'.', by simp, .inl rfl⟩
        · cases he with
          | none => exact absurd rfl hne
          | @some letter _ _ _ _ hletter => exact ⟨letter, by simp, .inr hletter⟩

end Amounts

/-! ## The value of an amount -/

section Values

variable {negative : Bool} {n : Nat} {g t : List Char}

theorem digit?_eq_none {c : Char} (h : isDigit c = false) : Decimal.digit? c = none := by
  rw [Decimal.digit?, if_neg]
  rintro ⟨hlow, hhigh⟩
  rw [isDigit, decide_eq_true hlow, decide_eq_true hhigh] at h
  cases h

theorem digit?_eq_some {c : Char} (h : isDigit c = true) : ∃ d, Decimal.digit? c = some d := by
  rw [isDigit, Bool.and_eq_true, decide_eq_true_eq, decide_eq_true_eq] at h
  exact ⟨_, if_pos h⟩

/-- Digits are taken up to the first sign that is no digit. -/
theorem scanDigits_digits {ds rest : List Char} (hds : ∀ c ∈ ds, isDigit c = true)
    (hrest : ∀ c ∈ rest.head?, isDigit c = false) (number count : Nat) :
    ∃ m, Decimal.scanDigits number count (ds ++ rest) = (m, count + ds.length, rest) := by
  induction ds generalizing number count with
  | nil =>
      refine ⟨number, ?_⟩
      cases rest with
      | nil => rfl
      | cons c rest =>
          rw [List.nil_append, Decimal.scanDigits, digit?_eq_none (hrest c rfl)]
          rfl
  | cons c ds ih =>
      obtain ⟨hc, hds⟩ := List.forall_mem_cons.mp hds
      obtain ⟨d, hd⟩ := digit?_eq_some hc
      obtain ⟨m, hm⟩ := ih hds (number * 10 + d) (count + 1)
      refine ⟨m, ?_⟩
      rw [List.cons_append, Decimal.scanDigits, hd]
      simp only [hm, List.length_cons, Nat.add_assoc, Nat.add_comm 1]

theorem scanDigits_numeral (h : Numeral 10 n t) {rest : List Char}
    (hrest : ∀ c ∈ rest.head?, isDigit c = false) (number count : Nat) :
    ∃ m k, Decimal.scanDigits number count (t.filter (· ≠ '_') ++ rest) = (m, k + 1, rest) := by
  obtain ⟨m, hm⟩ := scanDigits_digits h.filter_digits hrest number count
  obtain ⟨c, u, hcons⟩ := List.exists_cons_of_ne_nil h.filter_ne_nil
  exact ⟨m, count + u.length, by rw [hm, hcons]; rfl⟩

theorem exponent?_eq {e : List Char} (he : Exponent e) :
    ∃ x, Decimal.exponent? (e.filter (· ≠ '_')) = some x := by
  cases he with
  | none => exact ⟨0, rfl⟩
  | @some c _ g u m hletter hg hu =>
      have hc : decide (c ≠ '_') = true := by
        rcases hletter with rfl | rfl
        · rfl
        · rfl
      have hsign : ∀ d ∈ (u.filter (· ≠ '_')).head?, d ≠ '-' ∧ d ≠ '+' := by
        intro d hd
        have hdigit := hu.filter_digits d (List.mem_of_mem_head? hd)
        exact ⟨isDigit_ne hdigit (by decide), isDigit_ne hdigit (by decide)⟩
      have hstops : ∀ d ∈ ([] : List Char).head?, isDigit d = false := by
        intro d hd
        cases hd
      obtain ⟨k, l, hscan⟩ := scanDigits_numeral hu hstops 0 0
      rw [List.append_nil] at hscan
      rw [List.filter_cons, if_pos hc, List.filter_append, hg.filter, Decimal.exponent?,
        if_pos hletter]
      simp only [scanSign_sign hg hsign, hscan]
      exact ⟨_, rfl⟩

theorem number?_whole {s e : List Char} {m k : Nat} {x : Int}
    (hs : Decimal.scanDigits 0 0 s = (m, k + 1, e)) (hpoint : ∀ u, e ≠ '.' :: u)
    (he : Decimal.exponent? e = some x) : ∃ d, Decimal.number? s = some d := by
  rw [Decimal.number?, hs]
  simp only [he]
  exact ⟨_, rfl⟩

theorem number?_pointed {s u e : List Char} {m k m' k' : Nat} {x : Int}
    (hs : Decimal.scanDigits 0 0 s = (m, k + 1, '.' :: u))
    (hu : Decimal.scanDigits m 0 u = (m', k' + 1, e)) (he : Decimal.exponent? e = some x) :
    ∃ d, Decimal.number? s = some d := by
  rw [Decimal.number?, hs]
  simp only [hu, he]
  exact ⟨_, if_neg (Nat.succ_ne_zero _)⟩

/-- Digits, a fraction and an exponent are a number. -/
theorem number?_eq {f e : List Char} (h : Numeral 10 n t) (hf : Fraction f) (he : Exponent e) :
    ∃ d, Decimal.number? (t.filter (· ≠ '_') ++ (f.filter (· ≠ '_') ++ e.filter (· ≠ '_'))) =
      some d := by
  obtain ⟨x, hx⟩ := exponent?_eq he
  have hletter : ∀ c ∈ (e.filter (· ≠ '_')).head?, c = 'e' ∨ c = 'E' := by
    cases he with
    | none => exact fun c hc => nomatch hc
    | some hletter =>
        rcases hletter with rfl | rfl
        · rintro c ⟨⟩
          exact .inl rfl
        · rintro c ⟨⟩
          exact .inr rfl
  have hstops : ∀ c ∈ (e.filter (· ≠ '_')).head?, isDigit c = false := by
    intro c hc
    rcases hletter c hc with rfl | rfl
    · rfl
    · rfl
  cases hf with
  | none =>
      obtain ⟨m, k, hscan⟩ := scanDigits_numeral h hstops 0 0
      refine number?_whole hscan ?_ hx
      intro s heq
      rcases hletter '.' (by rw [heq]; rfl) with h | h
      · cases h
      · cases h
  | @some m v hv =>
      have hbehind : ∀ c ∈ (('.' :: v).filter (· ≠ '_') ++ e.filter (· ≠ '_')).head?,
          isDigit c = false := by
        rintro c ⟨⟩
        rfl
      obtain ⟨m, k, hwhole⟩ := scanDigits_numeral h hbehind 0 0
      obtain ⟨m', k', hfraction⟩ := scanDigits_numeral hv hstops m 0
      exact number?_pointed hwhole hfraction hx

/-- An amount of the grammar has a value, which may be infinite. -/
theorem parse_amount (h : Amount t) : ∃ x, Binary64.parse (t.filter (· ≠ '_')) = .ok x := by
  cases h with
  | @mk _ n g t f e hg ht hf he hne =>
      obtain ⟨d, hd⟩ := number?_eq ht.numeral hf he
      have hsign : ∀ c ∈ (t.filter (· ≠ '_') ++
          (f.filter (· ≠ '_') ++ e.filter (· ≠ '_'))).head?, c ≠ '-' ∧ c ≠ '+' := by
        intro c hc
        rw [List.head?_append_of_ne_nil _ ht.numeral.filter_ne_nil] at hc
        have hdigit := ht.numeral.filter_digits c (List.mem_of_mem_head? hc)
        exact ⟨isDigit_ne hdigit (by decide), isDigit_ne hdigit (by decide)⟩
      have hnonempty : g ++ (t.filter (· ≠ '_') ++
          (f.filter (· ≠ '_') ++ e.filter (· ≠ '_'))) ≠ [] := by
        intro hnil
        have hrest := (List.append_eq_nil_iff.mp hnil).2
        exact ht.numeral.filter_ne_nil (List.append_eq_nil_iff.mp hrest).1
      rw [List.filter_append, List.filter_append, List.filter_append, hg.filter, Binary64.parse,
        if_neg hnonempty]
      simp only [scanSign_sign hg hsign]
      split
      · exact ⟨_, rfl⟩
      split
      · exact ⟨_, rfl⟩
      · rw [hd]
        exact ⟨_, rfl⟩

end Values

end OrderDesk.Toml
