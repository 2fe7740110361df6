/-
# `Proofs.Json.Readings` — what a reader makes of a value

`Reads read take` compares a reader of texts with a relation on trees:
on *every* text of a value `v` the reader succeeds with `a` exactly if
`take v a`, and then it stops exactly behind that text.  Failure needs no
clause of its own: where nothing is taken, no success is possible.

The readers of single values are compared here, each with the one kind of
value that it wants.
-/
import OrderDesk.Customer
import OrderDesk.Order
import OrderDesk.Proofs.Json.Skipping

namespace OrderDesk.Json

open Utf8 (Piece ofText)

/-- The reader takes `a` from the value `v`, whatever its text. -/
def Reads (read : List Piece → Except ε (α × List Piece)) (take : Value → α → Prop) : Prop :=
  ∀ {v : Value} {w t s : List Char}, Written v t → Blank w → Stops s →
    ∀ (a : α) (r : List Piece),
      read (ofText (w ++ (t ++ s))) = .ok (a, r) ↔ take v a ∧ r = ofText s

/-- In front of a value a reader fails and nothing can be taken, or it takes
something and goes on behind the value. -/
theorem Reads.settles {read : List Piece → Except ε (α × List Piece)} {take : Value → α → Prop}
    (h : Reads read take) {v : Value} {w t s : List Char} (hv : Written v t) (hw : Blank w)
    (hs : Stops s) :
    (∃ e, read (ofText (w ++ (t ++ s))) = .error e ∧ ∀ a, ¬ take v a) ∨
      ∃ a, read (ofText (w ++ (t ++ s))) = .ok (a, ofText s) ∧ take v a := by
  cases hread : read (ofText (w ++ (t ++ s))) with
  | error e =>
      refine .inl ⟨e, rfl, fun a ha => ?_⟩
      cases hread.symm.trans ((h hv hw hs a _).mpr ⟨ha, rfl⟩)
  | ok p =>
      obtain ⟨a, r⟩ := p
      obtain ⟨ha, rfl⟩ := (h hv hw hs a r).mp hread
      exact .inr ⟨a, rfl, ha⟩

/-! ## What can be taken from a value -/

/-- A number in range. -/
def IsNumber (v : Value) (x : Number) : Prop :=
  ∃ n : Numeral, v = .number n.text ∧ n.value? = some x

/-- A string. -/
def IsText (v : Value) (s : String) : Prop := v = .ofString s

/-- A string, or `null` for none. -/
def IsOptionalText (v : Value) (s : Option String) : Prop := v = s.elim .null .ofString

/-- A truth value. -/
def IsFlag (v : Value) (b : Bool) : Prop := v = .bool b

/-- A number in range, as an amount. -/
def IsAmount (v : Value) (x : Binary64) : Prop := ∃ y, IsNumber v y ∧ x = y.toAmount

/-- A string, or the text of a number in range. -/
def IsId (v : Value) (s : String) : Prop := IsText v s ∨ ∃ x, IsNumber v x ∧ s = x.render

theorem IsText.unique {v : Value} {s s' : String} (h : IsText v s) (h' : IsText v s') : s = s' :=
  String.toList_injective (Value.string.inj (h.symm.trans h'))

theorem isNumber_iff {n : Numeral} {x : Number} :
    IsNumber (.number n.text) x ↔ n.value? = some x := by
  constructor
  · rintro ⟨m, hm, hx⟩
    rw [Numeral.value?_congr (Value.number.inj hm), hx]
  · intro hx
    exact ⟨n, rfl, hx⟩

theorem IsNumber.unique {v : Value} {x y : Number} (h : IsNumber v x) (h' : IsNumber v y) :
    x = y := by
  obtain ⟨n, rfl, hx⟩ := h
  rw [isNumber_iff.mp h'] at hx
  exact (Option.some.inj hx).symm

theorem IsOptionalText.unique {v : Value} {s s' : Option String} (h : IsOptionalText v s)
    (h' : IsOptionalText v s') : s = s' := by
  have heq := h.symm.trans h'
  cases s <;> cases s'
  · rfl
  · cases heq
  · cases heq
  · exact congrArg some (IsText.unique (v := v) h h')

theorem IsFlag.unique {v : Value} {b b' : Bool} (h : IsFlag v b) (h' : IsFlag v b') : b = b' :=
  Value.bool.inj (h.symm.trans h')

theorem IsAmount.unique {v : Value} {x x' : Binary64} (h : IsAmount v x) (h' : IsAmount v x') :
    x = x' := by
  obtain ⟨y, hy, rfl⟩ := h
  obtain ⟨y', hy', rfl⟩ := h'
  rw [hy.unique hy']

theorem IsId.unique {v : Value} {s s' : String} (h : IsId v s) (h' : IsId v s') : s = s' := by
  rcases h with htext | ⟨x, hx, rfl⟩ <;> rcases h' with htext' | ⟨y, hy, rfl⟩
  · exact htext.unique htext'
  · obtain ⟨n, hn, -⟩ := hy
    cases htext.symm.trans hn
  · obtain ⟨n, hn, -⟩ := hx
    cases htext'.symm.trans hn
  · rw [hx.unique hy]

/-! ## Texts that are refused -/

/-- A refusal agrees with a value from which nothing can be taken. -/
theorem refused {x : Except ε (α × List Piece)} {e : ε} {P : Prop} {a : α} {r r' : List Piece}
    (hx : x = .error e) (hP : ¬ P) : x = .ok (a, r) ↔ P ∧ r = r' := by
  constructor
  · intro hok
    cases hx.symm.trans hok
  · intro h
    exact absurd h.1 hP

/-- A number begins with no other character than a minus sign or a digit. -/
theorem ne_of_numeral {c d : Char} (hc : c = '-' ∨ c.isDigit = true) (hd : d ≠ '-')
    (hdigit : d.isDigit = false) : c ≠ d := by
  rcases hc with rfl | hc
  · exact hd.symm
  · rintro rfl
    exact Bool.eq_false_iff.mp hdigit hc

theorem Numeral.text_of_negative {n : Numeral} (h : n.negative = true) :
    n.text = '-' :: n.magnitude := by
  rw [Numeral.text, if_pos h]

theorem Numeral.text_of_not_negative {n : Numeral} (h : n.negative = false) :
    ∃ d u, d.isDigit = true ∧ n.text = d :: u ∧ n.magnitude = d :: u := by
  obtain ⟨d, ds, hds, hd, -, -⟩ := n.whole_eq_cons
  refine ⟨d, ds ++ (n.fractionText ++ n.exponentText), hd, ?_, ?_⟩
  · rw [Numeral.text, h, Numeral.magnitude, hds]
    rfl
  · rw [Numeral.magnitude, hds, List.cons_append]

/-! ## Strings -/

theorem text_reads : Reads text IsText := by
  intro v w t s h hw hs a r
  have hstart := h.skipSpace_eq hw s
  rw [text, hstart]
  cases h with
  | null => exact refused rfl nofun
  | yes => exact refused rfl nofun
  | no => exact refused rfl nofun
  | number n =>
      obtain ⟨c, u, hc, hhead⟩ := n.text_eq_cons
      have hquote : c ≠ '"' := ne_of_numeral hhead (by decide) (by decide)
      rw [hc]
      refine refused (e := wrongType "a string" (ofText (c :: u ++ s))) ?_ nofun
      simp [hquote]
  | string hspelled =>
      rw [List.cons_append, List.append_assoc, Utf8.ofText_cons]
      simp only [List.singleton_append, string_spelled hspelled, mapValue, Except.ok.injEq,
        Prod.mk.injEq, IsText, Value.ofString, Value.string.injEq]
      constructor
      · rintro ⟨rfl, rfl⟩
        exact ⟨String.toList_ofList.symm, rfl⟩
      · rintro ⟨rfl, rfl⟩
        exact ⟨String.ofList_toList, rfl⟩
  | array => exact refused rfl nofun
  | object => exact refused rfl nofun

theorem optionalText_null {w : List Char} (hw : Blank w) (s : List Char) :
    optionalText (ofText (w ++ ("null".toList ++ s))) = .ok (none, ofText s) := by
  have hstart := Written.null.skipSpace_eq hw s
  rw [optionalText, hstart]
  exact congrArg (Except.map (none, ·)) (word_append "ull".toList s)

/-- A value that is not `null` begins with another letter. -/
theorem optionalText_eq {v : Value} {w t : List Char} (h : Written v t) (hv : v ≠ .null)
    (hw : Blank w) (s : List Char) :
    optionalText (ofText (w ++ (t ++ s))) = mapValue some (text (ofText (t ++ s))) := by
  have hstart := h.skipSpace_eq hw s
  rw [optionalText, hstart]
  cases h with
  | null => exact absurd rfl hv
  | number n =>
      obtain ⟨c, u, hc, hhead⟩ := n.text_eq_cons
      have hletter : c ≠ 'n' := ne_of_numeral hhead (by decide) (by decide)
      rw [hc]
      simp [hletter]
  | yes => rfl
  | no => rfl
  | string => rfl
  | array => rfl
  | object => rfl

theorem optionalText_reads : Reads optionalText IsOptionalText := by
  intro v w t s h hw hs a r
  by_cases hv : v = .null
  · subst hv
    cases h
    rw [optionalText_null hw, Except.ok.injEq, Prod.mk.injEq]
    constructor
    · rintro ⟨rfl, rfl⟩
      exact ⟨rfl, rfl⟩
    · rintro ⟨ha, rfl⟩
      cases a with
      | none => exact ⟨rfl, rfl⟩
      | some a => cases ha
  · have htext : ∀ b, text (ofText (t ++ s)) = .ok (b, r) ↔ IsText v b ∧ r = ofText s := by
      intro b
      exact text_reads h blank_nil hs b r
    rw [optionalText_eq h hv hw s]
    constructor
    · intro hok
      obtain ⟨b, hb, rfl⟩ := mapValue_eq_ok hok
      exact (htext b).mp hb
    · rintro ⟨ha, hr⟩
      cases a with
      | none => exact absurd ha hv
      | some b =>
          rw [(htext b).mpr ⟨ha, hr⟩]
          rfl

/-! ## Truth values -/

theorem flag_reads : Reads flag IsFlag := by
  intro v w t s h hw hs a r
  have hstart := h.skipSpace_eq hw s
  rw [flag, hstart]
  cases h with
  | null => exact refused rfl nofun
  | yes =>
      show (word "rue".toList (ofText ("rue".toList ++ s))).map (true, ·) = _ ↔ _
      rw [word_append]
      simp [Except.map, IsFlag, eq_comm]
  | no =>
      show (word "alse".toList (ofText ("alse".toList ++ s))).map (false, ·) = _ ↔ _
      rw [word_append]
      simp [Except.map, IsFlag, eq_comm]
  | number n =>
      obtain ⟨c, u, hc, hhead⟩ := n.text_eq_cons
      have ht : c ≠ 't' := ne_of_numeral hhead (by decide) (by decide)
      have hf : c ≠ 'f' := ne_of_numeral hhead (by decide) (by decide)
      rw [hc]
      refine refused (e := wrongType "a boolean" (ofText (c :: u ++ s))) ?_ nofun
      simp [ht, hf]
  | string => exact refused rfl nofun
  | array => exact refused rfl nofun
  | object => exact refused rfl nofun

/-! ## Numbers -/

theorem amountValue_number (n : Numeral) {w s : List Char} (hw : Blank w) (hs : Stops s) :
    Settled (n.value?.map Number.toAmount) s (amountValue (ofText (w ++ (n.text ++ s)))) := by
  have hsettled := (number_settled n hs).map Number.toAmount
  have hstart := (Written.number n).skipSpace_eq hw s
  rw [amountValue, hstart]
  cases hneg : n.negative with
  | true =>
      rw [hneg] at hsettled
      rw [Numeral.text_of_negative hneg]
      exact hsettled
  | false =>
      obtain ⟨d, u, hd, htext, hmagnitude⟩ := Numeral.text_of_not_negative hneg
      have hminus : d ≠ '-' := by rintro rfl; exact absurd hd (by decide)
      rw [hneg, hmagnitude] at hsettled
      rw [htext]
      simpa [hminus, startsWithDigit_cons hd] using hsettled

theorem amountValue_reads : Reads amountValue IsAmount := by
  intro v w t s h hw hs a r
  have hstart := h.skipSpace_eq hw s
  have hno : ∀ {v : Value}, (∀ text, v ≠ .number text) → ¬ IsAmount v a := by
    rintro v hv ⟨_, ⟨n, hn, -⟩, -⟩
    exact hv _ hn
  cases h with
  | number n =>
      rw [(amountValue_number n hw hs).ok_iff]
      refine and_congr_left' ?_
      constructor
      · intro hmap
        obtain ⟨x, hx, rfl⟩ := Option.map_eq_some_iff.mp hmap
        exact ⟨x, isNumber_iff.mpr hx, rfl⟩
      · rintro ⟨x, hx, rfl⟩
        rw [isNumber_iff.mp hx]
        rfl
  | null => rw [amountValue, hstart]; exact refused rfl (hno nofun)
  | yes => rw [amountValue, hstart]; exact refused rfl (hno nofun)
  | no => rw [amountValue, hstart]; exact refused rfl (hno nofun)
  | string => rw [amountValue, hstart]; exact refused rfl (hno nofun)
  | array => rw [amountValue, hstart]; exact refused rfl (hno nofun)
  | object => rw [amountValue, hstart]; exact refused rfl (hno nofun)

/-! ## Ids -/

theorem content_number (n : Numeral) {w s : List Char} (hw : Blank w) (hs : Stops s) :
    Settled (n.value?.map Content.number) s (content (ofText (w ++ (n.text ++ s)))) := by
  have hsettled := (number_settled n hs).map Content.number
  have hstart := (Written.number n).skipSpace_eq hw s
  rw [content, hstart]
  cases hneg : n.negative with
  | true =>
      rw [hneg] at hsettled
      rw [Numeral.text_of_negative hneg]
      exact hsettled
  | false =>
      obtain ⟨d, u, hd, htext, hmagnitude⟩ := Numeral.text_of_not_negative hneg
      have hminus : d ≠ '-' := by rintro rfl; exact absurd hd (by decide)
      have hquote : d ≠ '"' := by rintro rfl; exact absurd hd (by decide)
      rw [hneg, hmagnitude] at hsettled
      rw [htext]
      simpa [hminus, hquote, startsWithDigit_cons hd] using hsettled

theorem content_string {k t w : List Char} (h : Spelled k t) (hw : Blank w) (s : List Char) :
    content (ofText (w ++ '"' :: (t ++ '"' :: s))) = .ok (.text k, ofText s) := by
  rw [content, skipSpace_token hw rfl]
  exact congrArg (mapValue Content.text) (string_spelled h s)

/-- The values that are read only to be refused: neither strings nor
numbers. -/
def IsOther (v : Value) : Prop := (∀ s, v ≠ .string s) ∧ ∀ text, v ≠ .number text

theorem content_other {v : Value} {t w : List Char} (h : Written v t) (hv : IsOther v)
    (hw : Blank w) (s : List Char) :
    content (ofText (w ++ (t ++ s))) = (checkValue [] (ofText (t ++ s))).map (.other, ·) := by
  have hstart := h.skipSpace_eq hw s
  rw [content, hstart]
  cases h with
  | number n => exact absurd rfl (hv.2 n.text)
  | string => exact absurd rfl (hv.1 _)
  | null => rfl
  | yes => rfl
  | no => rfl
  | array => rfl
  | object => rfl

/-- Whether or not such a value is well formed, it is no id. -/
theorem readId_other {v : Value} {t w : List Char} (h : Written v t) (hv : IsOther v)
    (hw : Blank w) (s : List Char) : ∃ e, Customer.readId (ofText (w ++ (t ++ s))) = .error e := by
  rw [Customer.readId, content_other h hv hw]
  cases checkValue [] (ofText (t ++ s)) with
  | error e => exact ⟨_, rfl⟩
  | ok rest => exact ⟨_, rfl⟩

/-- The two ways to an id. -/
theorem readId_eq_ok {p r : List Piece} {a : String} :
    Customer.readId p = .ok (a, r) ↔
      (∃ cs, content p = .ok (.text cs, r) ∧ a = String.ofList cs) ∨
        ∃ x, content p = .ok (.number x, r) ∧ a = x.render := by
  rw [Customer.readId]
  constructor
  · intro hok
    split at hok
    · cases hok
    · next cs _ hc =>
        cases hok
        exact .inl ⟨cs, hc, rfl⟩
    · next x _ hc =>
        cases hok
        exact .inr ⟨x, hc, rfl⟩
    · cases hok
  · rintro (⟨cs, hc, rfl⟩ | ⟨x, hc, rfl⟩)
    · rw [hc]
    · rw [hc]

theorem readId_string {k t w : List Char} (h : Spelled k t) (hw : Blank w) (s : List Char)
    (a : String) (r : List Piece) :
    Customer.readId (ofText (w ++ '"' :: (t ++ '"' :: s))) = .ok (a, r) ↔
      IsId (.string k) a ∧ r = ofText s := by
  rw [readId_eq_ok, content_string h hw]
  constructor
  · rintro (⟨cs, hok, rfl⟩ | ⟨x, hok, -⟩)
    · cases hok
      refine ⟨.inl ?_, rfl⟩
      rw [IsText, Value.ofString, String.toList_ofList]
    · cases hok
  · rintro ⟨htext | ⟨x, ⟨n, hn, -⟩, -⟩, rfl⟩
    · obtain rfl : k = a.toList := Value.string.inj htext
      exact .inl ⟨a.toList, rfl, String.ofList_toList.symm⟩
    · cases hn

theorem readId_number (n : Numeral) {w s : List Char} (hw : Blank w) (hs : Stops s) (a : String)
    (r : List Piece) :
    Customer.readId (ofText (w ++ (n.text ++ s))) = .ok (a, r) ↔
      IsId (.number n.text) a ∧ r = ofText s := by
  have hcontent := content_number n hw hs
  rw [readId_eq_ok]
  constructor
  · rintro (⟨cs, hok, -⟩ | ⟨x, hok, rfl⟩)
    · obtain ⟨y, -, hy⟩ := Option.map_eq_some_iff.mp (hcontent.ok_iff.mp hok).1
      cases hy
    · obtain ⟨hsome, hr⟩ := hcontent.ok_iff.mp hok
      obtain ⟨y, hy, hxy⟩ := Option.map_eq_some_iff.mp hsome
      cases hxy
      exact ⟨.inr ⟨x, isNumber_iff.mpr hy, rfl⟩, hr⟩
  · rintro ⟨htext | ⟨x, hx, rfl⟩, hr⟩
    · cases htext
    · refine .inr ⟨x, hcontent.ok_iff.mpr ⟨?_, hr⟩, rfl⟩
      rw [isNumber_iff.mp hx]
      rfl

theorem readId_reads : Reads Customer.readId IsId := by
  intro v w t s h hw hs a r
  by_cases hv : IsOther v
  · obtain ⟨e, he⟩ := readId_other h hv hw s
    refine refused he ?_
    rintro (htext | ⟨_, ⟨n, hn, -⟩, -⟩)
    · exact hv.1 _ htext
    · exact hv.2 _ hn
  cases h with
  | string hspelled =>
      rw [List.cons_append, List.append_assoc]
      exact readId_string hspelled hw s a r
  | number n => exact readId_number n hw hs a r
  | null => exact absurd ⟨nofun, nofun⟩ hv
  | yes => exact absurd ⟨nofun, nofun⟩ hv
  | no => exact absurd ⟨nofun, nofun⟩ hv
  | array => exact absurd ⟨nofun, nofun⟩ hv
  | object => exact absurd ⟨nofun, nofun⟩ hv

end OrderDesk.Json
