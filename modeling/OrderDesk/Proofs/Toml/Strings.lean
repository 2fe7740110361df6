/-
# `Proofs.Toml.Strings` — texts between quotation marks

A text between quotation marks is cut out first, by looking for the marks
that end it, and read afterwards.  Both agree with the grammar for each of
the four kinds: the marks are found where they stand (`lexes_quoted`), and
what is between them is read as the text that is meant (`text_quoted`).

Only marks and backslashes matter for the end.  So escapes are told apart by
whether they have one of them (`Escape.signs`), and everything else is a run
that is passed over.
-/
import OrderDesk.Proofs.Toml.Numbers

namespace OrderDesk.Toml

open Json (HexDigit)

/-! ## Escapes -/

section Escapes

variable {c : Char} {e : List Char}

theorem escape_letter {l : Char} (h : (l, c) ∈ letterEscapes) (place : Nat) (rest : List Char) :
    escape place (l :: rest) = .ok (c, 1) := by
  have htable : ∀ p ∈ letterEscapes, simpleEscape? p.1 = some p.2 := by decide
  rw [escape, htable _ h]

theorem escape_code {l : Char} {count : Nat} {t : List Char} (hl : (l, count) ∈ codeEscapes)
    (ht : Numeral 16 c.toNat t) (hplain : '_' ∉ t) (hlength : t.length = count) (place : Nat)
    (rest : List Char) : escape place (l :: (t ++ rest)) = .ok (c, t.length + 1) := by
  have htable : ∀ p ∈ codeEscapes, simpleEscape? p.1 = none ∧ escapeDigits? p.1 = some p.2 := by
    decide
  obtain ⟨hsimple, hcount⟩ := htable _ hl
  have hhex : ∀ d ∈ t, isHexDigit d = true := by
    intro d hd
    rcases ht.mem d hd with rfl | ⟨k, -, hdigit⟩
    · exact absurd hd hplain
    · exact HexDigit.isHexDigit hdigit
  have hdigits : ((t ++ rest).take count).takeWhile isHexDigit = t := by
    have hself := @List.takeWhile_append_of_pos _ _ t [] hhex
    rw [List.append_nil, List.takeWhile_nil, List.append_nil] at hself
    rw [← hlength, List.take_left, hself]
  have hvalue : t.foldl (fun n d => n * 16 + (hexDigit? d).getD 0) 0 = c.toNat := by
    have hself : t.filter (· ≠ '_') = t := by
      rw [List.filter_eq_self]
      intro d hd
      exact decide_eq_true fun heq => hplain (heq ▸ hd)
    have hvalue := ht.value
    rwa [hself, numeral] at hvalue
  rw [escape, hsimple]
  simp only [hcount, hdigits, hlength, Nat.lt_irrefl, if_false, hvalue, Char.ofNat_toNat]
  exact if_pos c.valid

theorem escape_eq (h : Escape c e) (place : Nat) (rest : List Char) :
    escape place (e ++ rest) = .ok (c, e.length) := by
  cases h with
  | letter hl => exact escape_letter hl place rest
  | code hl ht hplain hlength => exact escape_code hl ht hplain hlength place rest

theorem HexDigit.verbatim {d : Char} {k : Nat} (h : HexDigit d k) :
    d ≠ '"' ∧ d ≠ '\\' ∧ isControl d = false := by
  obtain ⟨hk, rfl | rfl⟩ := h
  · revert k
    decide
  · revert k
    decide

/-- An escape is a quotation mark, a backslash, or has neither. -/
theorem Escape.signs (h : Escape c e) : e = ['"'] ∨ e = ['\\'] ∨ Verbatim e := by
  cases h with
  | letter hl =>
      have htable : ∀ p ∈ letterEscapes, [p.1] = ['"'] ∨ [p.1] = ['\\'] ∨ Verbatim [p.1] := by
        decide
      exact htable _ hl
  | code hl ht hplain =>
      have htable : ∀ p ∈ codeEscapes, p.1 ≠ '"' ∧ p.1 ≠ '\\' ∧ isControl p.1 = false := by decide
      refine .inr (.inr (List.forall_mem_cons.mpr ⟨htable _ hl, ?_⟩))
      intro d hd
      rcases ht.mem d hd with rfl | ⟨k, -, hk⟩
      · exact absurd hd hplain
      · exact HexDigit.verbatim hk

/-- The first sign of an escape ends no line. -/
theorem Escape.noFold (h : Escape c e) (rest : List Char) :
    (e ++ rest).head?.any foldsAt = false := by
  cases h with
  | letter hl =>
      have htable : ∀ p ∈ letterEscapes, foldsAt p.1 = false := by decide
      exact htable _ hl
  | code hl =>
      have htable : ∀ p ∈ codeEscapes, foldsAt p.1 = false := by decide
      exact htable _ hl

end Escapes

/-! ## One line -/

section Lines

variable {s t rest : List Char}

theorem basicLength_append (h : Verbatim s) (rest : List Char) :
    basicLength (s ++ rest) = s.length + basicLength rest := by
  induction s with
  | nil => exact (Nat.zero_add _).symm
  | cons c s ih =>
      obtain ⟨⟨hquote, hslash, hcontrol⟩, hs⟩ := List.forall_mem_cons.mp h
      have hbreak : c ≠ '\n' := by
        rintro rfl
        cases hcontrol
      rw [List.cons_append, basicLength_cons hslash, if_neg hquote, if_neg hbreak, ih hs,
        List.length_cons]
      omega

theorem basicLength_escape {c : Char} {e : List Char} (h : Escape c e) (rest : List Char) :
    basicLength ('\\' :: (e ++ rest)) = e.length + 1 + basicLength rest := by
  rcases h.signs with rfl | rfl | hverbatim
  · rw [List.singleton_append, basicLength]
    exact Nat.add_comm _ _
  · rw [List.singleton_append, basicLength]
    exact Nat.add_comm _ _
  · have hne : e ≠ [] := by
      cases h with
      | letter => exact List.cons_ne_nil _ _
      | code => exact List.cons_ne_nil _ _
    obtain ⟨l, u, rfl⟩ := List.exists_cons_of_ne_nil hne
    obtain ⟨⟨hquote, hslash, -⟩, -⟩ := List.forall_mem_cons.mp hverbatim
    have hstep : basicLength ('\\' :: (l :: u ++ rest)) = basicLength (l :: u ++ rest) + 1 := by
      rw [List.cons_append, basicLength.eq_4]
      · rfl
      · rintro v - heq
        exact hquote (List.cons.inj heq).1
      · rintro v - heq
        exact hslash (List.cons.inj heq).1
    rw [hstep, basicLength_append hverbatim]
    omega

theorem basicLength_basic (h : Basic s t) (rest : List Char) :
    basicLength (t ++ '"' :: rest) = t.length + 1 := by
  induction h with
  | nil => exact basicLength_cons (by decide) rest
  | @plain c s t hcontrol hquote hslash _ ih =>
      have hc : Verbatim [c] := List.forall_mem_singleton.mpr ⟨hquote, hslash, hcontrol⟩
      rw [← List.singleton_append, List.append_assoc, basicLength_append hc, ih,
        List.length_append]
      omega
  | escape he _ ih =>
      rw [List.cons_append, List.append_assoc, basicLength_escape he, ih, List.length_cons,
        List.length_append]
      omega

theorem basicText_basic (h : Basic s t) (place : Nat) : basicText place t = .ok s := by
  induction h generalizing place with
  | nil => rw [basicText]
  | plain hcontrol _ hslash _ ih =>
      rw [basicText, if_neg hslash, if_pos (isPlain_of_not_isControl hcontrol), ih]
      rfl
  | escape he _ ih =>
      rw [basicText, if_pos rfl]
      refine bind_eq_ok.mpr ⟨_, escape_eq he _ _, ?_⟩
      simp only [List.drop_left, ih]
      rfl

theorem literalLength_literal (h : Literal s) (rest : List Char) :
    literalLength (s ++ '\'' :: rest) = s.length + 1 := by
  induction s with
  | nil => rfl
  | cons c s ih =>
      obtain ⟨⟨hcontrol, hquote⟩, hs⟩ := List.forall_mem_cons.mp h
      have hbreak : c ≠ '\n' := by
        rintro rfl
        cases hcontrol
      rw [List.cons_append, literalLength, if_neg hquote, if_neg hbreak, ih hs, List.length_cons]

theorem literalText_literal (h : Literal s) (place : Nat) : literalText place s = .ok s := by
  induction s generalizing place with
  | nil => rfl
  | cons c s ih =>
      obtain ⟨⟨hcontrol, -⟩, hs⟩ := List.forall_mem_cons.mp h
      rw [literalText, if_pos (isPlain_of_not_isControl hcontrol), ih hs]
      rfl

/-- What stands between the marks at the two ends. -/
theorem unquote_eq (quote : Char) (count : Nat) (s : List Char) :
    unquote quote count (List.replicate count quote ++ (s ++ List.replicate count quote)) =
      .ok s := by
  have hfront : (List.replicate count quote ++ (s ++ List.replicate count quote)).drop count =
      s ++ List.replicate count quote := by
    rw [List.drop_left' (List.length_replicate)]
  have hlength : (s ++ List.replicate count quote).length - count = s.length := by
    rw [List.length_append, List.length_replicate, Nat.add_sub_cancel]
  rw [unquote, hfront]
  simp only [hlength, List.drop_left, List.take_left]
  rw [if_pos]
  exact ⟨by rw [List.length_append, List.length_replicate]; exact Nat.le_add_left _ _, trivial⟩

end Lines

/-! ## Several lines -/

section Long

variable {s t rest : List Char}

/-- Signs that a long text between double marks does not end with. -/
def Inert (u : List Char) : Prop := ∀ c ∈ u, c ≠ '"' ∧ c ≠ '\\'

theorem longBasicLength_append {u : List Char} (h : Inert u) (rest : List Char) :
    longBasicLength (u ++ rest) = u.length + longBasicLength rest := by
  induction u with
  | nil => exact (Nat.zero_add _).symm
  | cons c u ih =>
      obtain ⟨⟨hquote, hslash⟩, hu⟩ := List.forall_mem_cons.mp h
      rw [List.cons_append, longBasicLength.eq_5, ih hu, List.length_cons]
      · omega
      · exact fun v heq => absurd heq hquote
      · exact fun v heq => absurd heq hslash
      · exact fun v heq => absurd heq hslash

theorem longBasicLength_slash {l : Char} (hquote : l ≠ '"') (hslash : l ≠ '\\')
    (rest : List Char) :
    longBasicLength ('\\' :: l :: rest) = longBasicLength (l :: rest) + 1 := by
  rw [longBasicLength.eq_5]
  · exact fun v heq => absurd heq (by decide)
  · rintro v - heq
    exact hquote (List.cons.inj heq).1
  · rintro v - heq
    exact hslash (List.cons.inj heq).1

theorem Verbatim.inert (h : Verbatim s) : Inert s := fun c hc => ⟨(h c hc).1, (h c hc).2.1⟩

theorem longBasicLength_escape {c : Char} {e : List Char} (h : Escape c e) (rest : List Char) :
    longBasicLength ('\\' :: (e ++ rest)) = e.length + 1 + longBasicLength rest := by
  rcases h.signs with rfl | rfl | hverbatim
  · rw [List.singleton_append, longBasicLength]
    exact Nat.add_comm _ _
  · rw [List.singleton_append, longBasicLength]
    exact Nat.add_comm _ _
  · have hne : e ≠ [] := by
      cases h with
      | letter => exact List.cons_ne_nil _ _
      | code => exact List.cons_ne_nil _ _
    obtain ⟨l, u, rfl⟩ := List.exists_cons_of_ne_nil hne
    obtain ⟨⟨hquote, hslash, -⟩, -⟩ := List.forall_mem_cons.mp hverbatim
    rw [List.cons_append, longBasicLength_slash hquote hslash, ← List.cons_append,
      longBasicLength_append hverbatim.inert]
    omega

theorem extraQuotes_none {quote : Char} (h : rest.head? ≠ some quote) :
    extraQuotes quote rest = 0 := by
  match rest with
  | [] => rfl
  | [c] => exact if_neg fun heq => h (congrArg some heq)
  | c :: _ :: _ => exact if_neg fun heq => h (congrArg some heq)

/-- Marks in front of the three that end a text belong to the text. -/
theorem extraQuotes_marks {quote : Char} {q : List Char} (hq : Marks quote q)
    (h : rest.head? ≠ some quote) : extraQuotes quote (q ++ rest) = q.length := by
  cases hq with
  | two => rw [List.cons_append, List.cons_append, extraQuotes, if_pos rfl, if_pos rfl]; rfl
  | one =>
      match rest with
      | [] => exact if_pos rfl
      | c :: _ =>
          have hc : c ≠ quote := fun heq => h (congrArg some heq)
          rw [List.singleton_append, extraQuotes, if_pos rfl, if_neg hc]
          rfl

theorem longBasicLength_marks {q : List Char} (hq : Marks '"' q) (ht : t.head? ≠ some '"')
    (hrest : rest.head? ≠ some '"')
    (ih : longBasicLength (t ++ '"' :: '"' :: '"' :: rest) = t.length + 3) :
    longBasicLength (q ++ t ++ '"' :: '"' :: '"' :: rest) = (q ++ t).length + 3 := by
  cases t with
  | nil =>
      -- In front of the end the first three marks of all end the text, and as
      -- many as there were in front of it are left over.
      have hmoved : q ++ [] ++ '"' :: '"' :: '"' :: rest = '"' :: '"' :: '"' :: (q ++ rest) := by
        cases hq with
        | one => rfl
        | two => rfl
      rw [hmoved, longBasicLength_three, extraQuotes_marks hq hrest, List.append_nil]
      exact Nat.add_comm _ _
  | cons c t =>
      have hc : c ≠ '"' := fun heq => ht (congrArg some heq)
      have hstep : ∀ {u}, (∀ v, u ≠ '"' :: '"' :: v) →
          longBasicLength ('"' :: u) = longBasicLength u + 1 := by
        intro u hu
        rw [longBasicLength.eq_5]
        · exact fun v _ heq => hu v heq
        · exact fun v heq => absurd heq (by decide)
        · exact fun v heq => absurd heq (by decide)
      cases hq with
      | one =>
          have hone : ∀ v, c :: t ++ '"' :: '"' :: '"' :: rest ≠ '"' :: '"' :: v := by
            intro v heq
            exact hc (List.cons.inj heq).1
          rw [List.append_assoc, List.singleton_append, hstep hone, ih]
          rfl
      | two =>
          have hone : ∀ v, c :: t ++ '"' :: '"' :: '"' :: rest ≠ '"' :: '"' :: v := by
            intro v heq
            exact hc (List.cons.inj heq).1
          have htwo : ∀ v, '"' :: (c :: t ++ '"' :: '"' :: '"' :: rest) ≠ '"' :: '"' :: v := by
            intro v heq
            exact hc (List.cons.inj (List.cons.inj heq).2).1
          rw [List.append_assoc, List.cons_append, List.singleton_append, hstep htwo, hstep hone,
            ih]
          rfl

theorem LineBreak.inert {b : List Char} (h : LineBreak b) : Inert b := by
  cases h with
  | feed => exact List.forall_mem_singleton.mpr (by decide)
  | pair => exact List.forall_mem_cons.mpr ⟨by decide, List.forall_mem_singleton.mpr (by decide)⟩

theorem Blanks.inert {a : List Char} (h : Blanks a) : Inert a := by
  intro c hc
  rcases h c hc with rfl | rfl
  · decide
  · decide

theorem Inert.append {a b : List Char} (ha : Inert a) (hb : Inert b) : Inert (a ++ b) :=
  List.forall_mem_append.mpr ⟨ha, hb⟩

theorem Space.inert {f : List Char} (h : Space f) : Inert f := by
  induction h with
  | nil => exact List.forall_mem_nil _
  | blank hc _ ih =>
      refine List.forall_mem_cons.mpr ⟨?_, ih⟩
      rcases hc with rfl | rfl
      · decide
      · decide
  | line hb _ ih => exact hb.inert.append ih

/-- A backslash in front of blanks or a line break ends no text. -/
theorem longBasicLength_fold {u : List Char} (hu : Inert u) (hne : u ≠ []) (rest : List Char) :
    longBasicLength ('\\' :: (u ++ rest)) = u.length + 1 + longBasicLength rest := by
  obtain ⟨l, v, rfl⟩ := List.exists_cons_of_ne_nil hne
  obtain ⟨⟨hquote, hslash⟩, -⟩ := List.forall_mem_cons.mp hu
  rw [List.cons_append, longBasicLength_slash hquote hslash, ← List.cons_append,
    longBasicLength_append hu]
  omega

theorem longBasicLength_long (h : LongBasic s t) (hrest : rest.head? ≠ some '"') :
    longBasicLength (t ++ '"' :: '"' :: '"' :: rest) = t.length + 3 := by
  induction h with
  | nil => rw [List.nil_append, longBasicLength_three, extraQuotes_none hrest]; rfl
  | @plain c s t _ hquote hslash _ ih =>
      have hc : Inert [c] := List.forall_mem_singleton.mpr ⟨hquote, hslash⟩
      rw [← List.singleton_append, List.append_assoc, longBasicLength_append hc, ih,
        List.length_append]
      omega
  | escape he _ ih =>
      rw [List.cons_append, List.append_assoc, longBasicLength_escape he, ih, List.length_cons,
        List.length_append]
      omega
  | line hb _ ih =>
      rw [List.append_assoc, longBasicLength_append hb.inert, ih, List.length_append]
      omega
  | marks hq ht _ ih => exact longBasicLength_marks hq ht hrest ih
  | @fold a b f s t ha hb hf _ _ ih =>
      have hne : a ++ (b ++ f) ≠ [] := by
        cases hb with
        | feed => simp
        | pair => simp
      have hsplit : '\\' :: (a ++ (b ++ (f ++ t))) ++ '"' :: '"' :: '"' :: rest =
          '\\' :: (a ++ (b ++ f) ++ (t ++ '"' :: '"' :: '"' :: rest)) := by simp
      rw [hsplit, longBasicLength_fold (ha.inert.append (hb.inert.append hf.inert)) hne, ih]
      simp only [List.length_cons, List.length_append]
      omega

theorem foldLength_line {b : List Char} (h : LineBreak b) (rest : List Char) :
    foldLength (b ++ rest) = b.length + foldLength rest := by
  cases h with
  | feed =>
      rw [List.singleton_append, foldLength]
      exact Nat.add_comm _ _
  | pair =>
      rw [List.cons_append, List.singleton_append, foldLength]
      exact Nat.add_comm _ _

theorem foldLength_blanks {a : List Char} (h : Blanks a) (rest : List Char) :
    foldLength (a ++ rest) = a.length + foldLength rest := by
  induction a with
  | nil => exact (Nat.zero_add _).symm
  | cons c a ih =>
      obtain ⟨hc, ha⟩ := List.forall_mem_cons.mp h
      rw [List.cons_append, foldLength_blank hc, ih ha, List.length_cons]
      omega

theorem foldLength_space {f : List Char} (h : Space f) (ht : Unspaced t) :
    foldLength (f ++ t) = f.length := by
  induction h with
  | nil =>
      rw [List.nil_append, foldLength.eq_def]
      split
      · exact absurd rfl (ht _ rfl).1
      · exact absurd rfl (ht _ rfl).2.1
      · exact absurd rfl (ht _ rfl).2.2.1
      · exact absurd rfl (ht _ rfl).2.2.2
      · rfl
  | blank hc _ ih => rw [List.cons_append, foldLength_blank hc, ih, List.length_cons]
  | line hb _ ih => rw [List.append_assoc, foldLength_line hb, ih, List.length_append]

theorem isBlank_of_blanks {a : List Char} (h : Blanks a) : ∀ c ∈ a, isBlank c = true := by
  intro c hc
  rcases h c hc with rfl | rfl
  · rfl
  · rfl

/-- Blanks and line breaks behind a backslash are taken away as a whole. -/
theorem fold_eq {a b f : List Char} (ha : Blanks a) (hb : LineBreak b) (hf : Space f)
    (ht : Unspaced t) (place : Nat) :
    fold place (a ++ (b ++ (f ++ t))) = .ok (a ++ (b ++ f)).length := by
  have hstop : ∀ c, (b ++ (f ++ t)).head? = some c → isBlank c = false := by
    cases hb with
    | feed =>
        rintro c ⟨⟩
        rfl
    | pair =>
        rintro c ⟨⟩
        rfl
  have hblanks : runLength isBlank (a ++ (b ++ (f ++ t))) = a.length :=
    runLength_append (isBlank_of_blanks ha) hstop
  have hlength : foldLength (a ++ (b ++ (f ++ t))) = (a ++ (b ++ f)).length := by
    rw [foldLength_blanks ha, foldLength_line hb, foldLength_space hf ht]
    simp only [List.length_append]
  rw [fold, hblanks]
  simp only [List.drop_left]
  cases hb with
  | feed => exact congrArg Except.ok hlength
  | pair => exact congrArg Except.ok hlength

theorem head?_fold {a b : List Char} (ha : Blanks a) (hb : LineBreak b) (rest : List Char) :
    (a ++ (b ++ rest)).head?.any foldsAt = true := by
  cases a with
  | nil =>
      cases hb with
      | feed => rfl
      | pair => rfl
  | cons c a =>
      rcases ha c List.mem_cons_self with rfl | rfl
      · rfl
      · rfl

theorem longBasicText_long (h : LongBasic s t) (place : Nat) : longBasicText place t = .ok s := by
  induction h generalizing place with
  | nil => rw [longBasicText]
  | plain hcontrol _ hslash _ ih =>
      exact longBasicText_plain hslash (.inl (isPlain_of_not_isControl hcontrol)) (ih _)
  | escape he _ ih =>
      rw [longBasicText, if_pos rfl, if_neg (Bool.eq_false_iff.mp (he.noFold _))]
      refine bind_eq_ok.mpr ⟨_, escape_eq he _ _, ?_⟩
      simp only [List.drop_left, ih]
      rfl
  | line hb _ ih =>
      cases hb with
      | feed => exact longBasicText_plain (by decide) (.inr rfl) (ih _)
      | pair =>
          rw [List.cons_append, List.singleton_append, longBasicText, if_neg (by decide),
            if_neg (by decide), if_pos rfl, List.head?_cons, if_pos rfl, List.drop_one,
            List.tail_cons, ih]
          rfl
  | marks hq _ _ ih =>
      cases hq with
      | one => exact longBasicText_plain (by decide) (.inl rfl) (ih _)
      | two =>
          refine longBasicText_plain (by decide) (.inl rfl) ?_
          exact longBasicText_plain (by decide) (.inl rfl) (ih _)
  | @fold a b f s t ha hb hf ht _ ih =>
      have hsplit : a ++ (b ++ (f ++ t)) = a ++ (b ++ f) ++ t := by simp
      rw [longBasicText, if_pos rfl, if_pos (head?_fold ha hb _)]
      refine bind_eq_ok.mpr ⟨_, fold_eq ha hb hf ht _, ?_⟩
      rw [hsplit, List.drop_left]
      exact ih _

/-! Between three single marks nothing but marks and line breaks is special. -/

theorem longLiteralLength_append {u : List Char} (h : ∀ c ∈ u, c ≠ '\'') (rest : List Char) :
    longLiteralLength (u ++ rest) = u.length + longLiteralLength rest := by
  induction u with
  | nil => exact (Nat.zero_add _).symm
  | cons c u ih =>
      obtain ⟨hc, hu⟩ := List.forall_mem_cons.mp h
      rw [List.cons_append, longLiteralLength_cons, ih hu, List.length_cons]
      · omega
      · exact fun v heq => hc (List.cons.inj heq).1

theorem longLiteralLength_marks {q : List Char} (hq : Marks '\'' q) (hs : s.head? ≠ some '\'')
    (hrest : rest.head? ≠ some '\'')
    (ih : longLiteralLength (s ++ '\'' :: '\'' :: '\'' :: rest) = s.length + 3) :
    longLiteralLength (q ++ s ++ '\'' :: '\'' :: '\'' :: rest) = (q ++ s).length + 3 := by
  cases s with
  | nil =>
      have hmoved : q ++ [] ++ '\'' :: '\'' :: '\'' :: rest =
          '\'' :: '\'' :: '\'' :: (q ++ rest) := by
        cases hq with
        | one => rfl
        | two => rfl
      rw [hmoved, longLiteralLength_three, extraQuotes_marks hq hrest, List.append_nil]
      exact Nat.add_comm _ _
  | cons c s =>
      have hc : c ≠ '\'' := fun heq => hs (congrArg some heq)
      have hone : ∀ v, '\'' :: (c :: s ++ '\'' :: '\'' :: '\'' :: rest) ≠
          '\'' :: '\'' :: '\'' :: v := by
        intro v heq
        exact hc (List.cons.inj (List.cons.inj heq).2).1
      cases hq with
      | one =>
          rw [List.append_assoc, List.singleton_append, longLiteralLength_cons hone, ih]
          rfl
      | two =>
          have htwo : ∀ v, '\'' :: '\'' :: (c :: s ++ '\'' :: '\'' :: '\'' :: rest) ≠
              '\'' :: '\'' :: '\'' :: v := by
            intro v heq
            exact hc (List.cons.inj (List.cons.inj (List.cons.inj heq).2).2).1
          rw [List.append_assoc, List.cons_append, List.singleton_append,
            longLiteralLength_cons htwo, longLiteralLength_cons hone, ih]
          rfl

theorem LineBreak.no_mark {b : List Char} (h : LineBreak b) : ∀ c ∈ b, c ≠ '\'' := by
  cases h with
  | feed => exact List.forall_mem_singleton.mpr (by decide)
  | pair => exact List.forall_mem_cons.mpr ⟨by decide, List.forall_mem_singleton.mpr (by decide)⟩

theorem longLiteralLength_long (h : LongLiteral s) (hrest : rest.head? ≠ some '\'') :
    longLiteralLength (s ++ '\'' :: '\'' :: '\'' :: rest) = s.length + 3 := by
  induction h with
  | nil => rw [List.nil_append, longLiteralLength_three, extraQuotes_none hrest]; rfl
  | @plain c s _ hquote _ ih =>
      have hc : ∀ d ∈ [c], d ≠ '\'' := List.forall_mem_singleton.mpr hquote
      rw [← List.singleton_append, List.append_assoc, longLiteralLength_append hc, ih,
        List.length_append]
      omega
  | line hb _ ih =>
      rw [List.append_assoc, longLiteralLength_append hb.no_mark, ih, List.length_append]
      omega
  | marks hq hs _ ih => exact longLiteralLength_marks hq hs hrest ih

theorem longLiteralText_long (h : LongLiteral s) (place : Nat) :
    longLiteralText place s = .ok s := by
  induction h generalizing place with
  | nil => rfl
  | plain hcontrol _ _ ih =>
      exact longLiteralText_plain (.inl (isPlain_of_not_isControl hcontrol)) (ih _)
  | line hb _ ih =>
      cases hb with
      | feed => exact longLiteralText_plain (.inr rfl) (ih _)
      | pair =>
          rw [List.cons_append, List.singleton_append, longLiteralText, ih]
          rfl
  | marks hq _ _ ih =>
      cases hq with
      | one => exact longLiteralText_plain (.inl rfl) (ih _)
      | two =>
          refine longLiteralText_plain (.inl rfl) ?_
          exact longLiteralText_plain (.inl rfl) (ih _)

end Long

/-! ## All kinds -/

section Quoted

variable {q : Quotes} {b s t rest : List Char}

theorem dropBreak_eq (h : Opening b t) : ∃ place, dropBreak (b ++ t) = (place, t) := by
  cases h with
  | line hb =>
      cases hb with
      | feed => exact ⟨4, rfl⟩
      | pair => exact ⟨5, rfl⟩
  | none h =>
      refine ⟨3, ?_⟩
      rw [List.nil_append, dropBreak.eq_def]
      split
      · exact absurd rfl (h _ rfl).1
      · exact absurd rfl (h _ rfl).2
      · rfl

/-- What is between quotation marks is read as the text that is meant. -/
theorem text_quoted (h : Quoted q s t) : q.text t = .ok s := by
  cases h with
  | basic h => exact bind_eq_ok.mpr ⟨_, unquote_basic _, basicText_basic h 1⟩
  | literal h => exact bind_eq_ok.mpr ⟨_, unquote_eq '\'' 1 _, literalText_literal h 1⟩
  | @longBasic b s t hb h =>
      have hinside : unquote '"' 3 ('"' :: '"' :: '"' :: (b ++ (t ++ ['"', '"', '"']))) =
          .ok (b ++ t) := by
        rw [← List.append_assoc]
        exact unquote_eq '"' 3 _
      obtain ⟨place, hplace⟩ := dropBreak_eq hb
      refine bind_eq_ok.mpr ⟨_, hinside, ?_⟩
      rw [hplace]
      exact longBasicText_long h _
  | @longLiteral b s hb h =>
      have hinside :
          unquote '\'' 3 ('\'' :: '\'' :: '\'' :: (b ++ (s ++ ['\'', '\'', '\'']))) =
            .ok (b ++ s) := by
        rw [← List.append_assoc]
        exact unquote_eq '\'' 3 _
      obtain ⟨place, hplace⟩ := dropBreak_eq hb
      refine bind_eq_ok.mpr ⟨_, hinside, ?_⟩
      rw [hplace]
      exact longLiteralText_long h _

/-- The text goes on with something else than quotation marks. -/
def Unmarked (rest : List Char) : Prop := rest.head? ≠ some '"' ∧ rest.head? ≠ some '\''

theorem Opening.inert (h : Opening b t) : Inert b ∧ ∀ c ∈ b, c ≠ '\'' := by
  cases h with
  | line hb => exact ⟨hb.inert, hb.no_mark⟩
  | none => exact ⟨List.forall_mem_nil _, List.forall_mem_nil _⟩

/-- Behind a single mark a string of one line begins, unless two more marks
follow. -/
theorem first_mark {text : List Char} (h : ∀ rest, text ≠ '\'' :: '\'' :: rest) :
    first '\'' text = (.quoted .literal, literalLength text) := by
  simp only [first, isBlank, Char.reduceBEq, Bool.or_false, Bool.false_eq_true, Char.reduceEq,
    if_false, if_true]

theorem lexes_quoted (h : Quoted q s t) (hrest : Unmarked rest) : Lexes t (.quoted q) rest := by
  cases h with
  | @basic s t h =>
      refine ⟨'"', t ++ ['"'], rfl, ?_⟩
      rw [List.append_assoc, List.singleton_append, first_quote, basicLength_basic h,
        List.length_append, List.length_singleton]
      -- Two marks would begin a long text, if another one followed.
      intro u heq
      cases h with
      | nil => exact hrest.1 (congrArg List.head? (List.cons.inj heq).2)
      | plain _ hquote => exact hquote (List.cons.inj heq).1
      | escape => exact absurd (List.cons.inj heq).1 (by decide)
  | @literal s h =>
      refine ⟨'\'', s ++ ['\''], rfl, ?_⟩
      rw [List.append_assoc, List.singleton_append, first_mark, literalLength_literal h,
        List.length_append, List.length_singleton]
      intro u heq
      cases s with
      | nil => exact hrest.2 (congrArg List.head? (List.cons.inj heq).2)
      | cons c s => exact (h c List.mem_cons_self).2 (List.cons.inj heq).1
  | @longBasic b s t hb h =>
      refine ⟨'"', '"' :: '"' :: (b ++ (t ++ ['"', '"', '"'])), rfl, ?_⟩
      have hlength : longBasicLength (b ++ (t ++ ['"', '"', '"']) ++ rest) =
          (b ++ (t ++ ['"', '"', '"'])).length := by
        rw [List.append_assoc, longBasicLength_append hb.inert.1, List.append_assoc]
        rw [List.cons_append, List.cons_append, List.cons_append, List.nil_append,
          longBasicLength_long h hrest.1, List.length_append, List.length_append]
        rfl
      show (Kind.quoted .longBasic, longBasicLength (b ++ (t ++ ['"', '"', '"']) ++ rest) + 2) = _
      rw [hlength]
      rfl
  | @longLiteral b s hb h =>
      refine ⟨'\'', '\'' :: '\'' :: (b ++ (s ++ ['\'', '\'', '\''])), rfl, ?_⟩
      have hlength : longLiteralLength (b ++ (s ++ ['\'', '\'', '\'']) ++ rest) =
          (b ++ (s ++ ['\'', '\'', '\''])).length := by
        rw [List.append_assoc, longLiteralLength_append hb.inert.2, List.append_assoc]
        rw [List.cons_append, List.cons_append, List.cons_append, List.nil_append,
          longLiteralLength_long h hrest.2, List.length_append, List.length_append]
        rfl
      show (Kind.quoted .longLiteral,
        longLiteralLength (b ++ (s ++ ['\'', '\'', '\'']) ++ rest) + 2) = _
      rw [hlength]
      rfl

end Quoted

end OrderDesk.Toml
