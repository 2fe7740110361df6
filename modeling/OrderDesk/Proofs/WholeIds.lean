/-
# `Proofs.WholeIds` — a whole number as an id

Directories write ids as numbers or as texts.  The reader of numbers keeps
whole numbers exactly between -2⁶³ and 2⁶⁴ and rounds all others, and an id
is the text of what was kept.  So in that range a number and the text of its
digits are the same id (`whole_ids_agree`), and outside of it they need not
be.

| | |
| :-- | :-- |
| `Exact n`                | `n` is in the range in which numbers are kept |
| `SaysWhole n v`          | the value `v` is the digits of `n`, as a number or as a text |
| `Placed v name email ms` | the members of a customer, the id `v` somewhere among them |

A minus sign takes the significand down to 2⁶³ only, and in front of zero
there is none: `-0` is no text of a whole number, and is not kept as one.
-/
import OrderDesk.Proofs.RoundTrip

namespace OrderDesk

open Json

namespace Json

/-! ## Whole numbers -/

/-- The whole numbers that are kept as they are. -/
def Exact (n : Int) : Prop := -0x8000000000000000 ≤ n ∧ n < 0x10000000000000000

instance (n : Int) : Decidable (Exact n) :=
  inferInstanceAs (Decidable (-0x8000000000000000 ≤ n ∧ n < 0x10000000000000000))

theorem digits_nil : Digits [] := List.forall_mem_nil _

theorem text_natAbs_ne_nil (n : Int) : Decimal.text n.natAbs ≠ [] := Decimal.text_ne_nil _

theorem digits_natAbs (n : Int) : Digits (Decimal.text n.natAbs) := digits_text _

/-- A whole number as it is written. -/
def wholeNumeral (n : Int) : Numeral where
  negative := decide (n < 0)
  whole := Decimal.text n.natAbs
  fraction := []
  exponent := none
  whole_ne_nil := text_natAbs_ne_nil n
  whole_digits := digits_natAbs n
  no_leading_zero := by
    intro h
    rcases Nat.eq_zero_or_pos n.natAbs with hzero | hpos
    · rw [hzero]
      rfl
    · exact absurd h (Decimal.head?_text hpos)
  fraction_digits := digits_nil

theorem wholeNumeral_text (n : Int) : (wholeNumeral n).text = Decimal.intText n := by
  have hmagnitude : (wholeNumeral n).magnitude = Decimal.text n.natAbs :=
    List.append_nil _
  rw [Numeral.text, hmagnitude, Decimal.intText]
  show (if decide (n < 0) = true then _ else _) = _
  simp only [decide_eq_true_eq]

theorem intText_eq (n : Int) : Decimal.intText n = (toString n).toList := by
  cases n with
  | ofNat k => exact String.toList_ofList.symm
  | negSucc k =>
      have htext : (toString (Int.negSucc k)).toList = '-' :: (Nat.repr (k + 1)).toList :=
        String.toList_append
      rw [htext, Nat.repr, String.toList_ofList, Decimal.intText, if_pos (Int.negSucc_lt_zero k)]
      rfl

/-- A whole number as it is kept. -/
def keptWhole (n : Int) : Number := if n < 0 then .negative n.natAbs else .natural n.natAbs

theorem keptWhole_inj {n m : Int} (h : keptWhole n = keptWhole m) : n = m := by
  rw [keptWhole, keptWhole] at h
  split at h <;> split at h
  · have habs : n.natAbs = m.natAbs := Number.negative.inj h
    omega
  · cases h
  · cases h
  · have habs : n.natAbs = m.natAbs := Number.natural.inj h
    omega

theorem keptWhole_render (n : Int) : (keptWhole n).render = toString n := by
  refine String.toList_injective ?_
  rw [← intText_eq, Decimal.intText, keptWhole]
  split
  · exact String.toList_ofList
  · exact String.toList_ofList

/-- In its range a whole number is kept.  The significand takes all digits, as
none of them brings it to 2⁶⁴. -/
theorem wholeNumeral_value {n : Int} (h : Exact n) :
    (wholeNumeral n).value? = some (keptWhole n) := by
  have hlt : n.natAbs < significandBound := by
    have hbound : significandBound = 0x10000000000000000 := rfl
    rw [Exact] at h
    omega
  have hdigits : Nat.ofDigitChars 10 (Decimal.text n.natAbs) 0 = n.natAbs :=
    Decimal.ofDigitChars_text _
  have hgather : gather 0 (wholeNumeral n).whole = (n.natAbs, (Decimal.text n.natAbs).length) := by
    rw [wholeNumeral, gather_eq (hdigits.symm ▸ hlt), hdigits]
  rw [Numeral.value?_of_whole rfl rfl, hgather]
  -- No digit is left out, so the number is whole.
  refine (if_pos (Nat.sub_self _)).trans (congrArg some ?_)
  show wholeNumber (decide (n < 0)) n.natAbs = keptWhole n
  by_cases hneg : n < 0
  · have hrange : 1 ≤ n.natAbs ∧ n.natAbs ≤ Nat.pow 2 63 := by
      have hpow : Nat.pow 2 63 = 0x8000000000000000 := rfl
      rw [Exact] at h
      omega
    rw [decide_eq_true hneg, wholeNumber, if_pos rfl, if_pos hrange, keptWhole, if_pos hneg]
  · rw [decide_eq_false hneg, keptWhole, if_neg hneg]
    rfl

/-- Different whole numbers have different texts. -/
theorem toString_whole_inj {n m : Int} (hn : Exact n) (hm : Exact m)
    (h : toString n = toString m) : n = m := by
  have htext : (wholeNumeral n).text = (wholeNumeral m).text := by
    rw [wholeNumeral_text, wholeNumeral_text, intText_eq, intText_eq, h]
  have hvalue := Numeral.value?_congr htext
  rw [wholeNumeral_value hn, wholeNumeral_value hm] at hvalue
  exact keptWhole_inj (Option.some.inj hvalue)

/-- The value is the decimal digits of a whole number, as a number or as a
text. -/
inductive SaysWhole (n : Int) : Value → Prop
  | number : SaysWhole n (.number (toString n).toList)
  | text : SaysWhole n (.ofString (toString n))

/-- Either way, what it says is an id. -/
theorem SaysWhole.isId {n : Int} {v : Value} (h : SaysWhole n v) (hn : Exact n) :
    IsId v (toString n) := by
  cases h with
  | number =>
      rw [← intText_eq, ← wholeNumeral_text]
      exact .inr ⟨keptWhole n, isNumber_iff.mpr (wholeNumeral_value hn), (keptWhole_render n).symm⟩
  | text => exact .inl rfl

end Json

namespace Customer

/-! ## Customers -/

/-- The members of a customer with this name and e-mail address, the id `v`
standing anywhere among them. -/
inductive Placed (v : Value) (name email : String) : Members → Prop
  | mk {before after : Members} : Missing (before ++ after) "id" →
      Only (before ++ after) "name" (.ofString name) →
      Only (before ++ after) "email" (.ofString email) →
      Placed v name email (before ++ ("id".toList, v) :: after)

theorem Placed.denotes {v : Value} {id name email : String} {ms : Members}
    (h : Placed v name email ms) (hid : IsId v id) : Denotes (.object ms) ⟨id, name, email⟩ := by
  cases h with
  | @mk before after hmissing hname hemail =>
      have hfirst :
          Denotes (.object (("id".toList, v) :: (before ++ after))) ⟨id, name, email⟩ := by
        refine .object ?_ hid ?_ ?_
        · rw [Only, named_cons_self, hmissing]
        · rw [Only, named_cons_ne (by decide)]
          exact hname
        · rw [Only, named_cons_ne (by decide)]
          exact hemail
      exact hfirst.perm List.perm_middle.symm

/-- Wherever the id stands, a whole number that is kept and the text of its
digits give the same customer, whose id is that text; and different numbers
give different ids, however each of them is written. -/
theorem whole_ids_agree {n : Int} (hn : Exact n) :
    (∀ {v : Value} {name email : String} {ms : Members} {text : List Char},
      SaysWhole n v → Placed v name email ms → Document (.object ms) text →
      decode (Utf8.encode text) = .ok ⟨toString n, name, email⟩) ∧
    ∀ {m : Int} {v v' : Value} {name email name' email' : String} {ms ms' : Members}
      {text text' : List Char} {c c' : Customer}, Exact m →
      SaysWhole n v → Placed v name email ms → Document (.object ms) text →
      SaysWhole m v' → Placed v' name' email' ms' → Document (.object ms') text' →
      decode (Utf8.encode text) = .ok c → decode (Utf8.encode text') = .ok c' → c.id = c'.id →
      n = m := by
  have hdecodes : ∀ {k : Int} {v : Value} {name email : String} {ms : Members}
      {text : List Char}, Exact k → SaysWhole k v → Placed v name email ms →
      Document (.object ms) text → decode (Utf8.encode text) = .ok ⟨toString k, name, email⟩ := by
    intro k v name email ms text hk hwhole hplaced hdoc
    exact (decode_document hdoc _).mpr (hplaced.denotes (hwhole.isId hk))
  refine ⟨hdecodes hn, ?_⟩
  intro m v v' name email name' email' ms ms' text text' c c' hm hwhole hplaced hdoc hwhole'
    hplaced' hdoc' hc hc' hid
  cases hc.symm.trans (hdecodes hn hwhole hplaced hdoc)
  cases hc'.symm.trans (hdecodes hm hwhole' hplaced' hdoc')
  exact toString_whole_inj hn hm hid

/-- A customer behind whose name stands the least number that is kept. -/
def least : Members :=
  [("name".toList, .ofString "Ann"), ("id".toList, .number "-9223372036854775808".toList),
    ("extra".toList, .array []), ("email".toList, .ofString "a@b")]

/-- It is read as the text of its digits. -/
theorem least_agrees :
    Exact (-0x8000000000000000) ∧
      SaysWhole (-0x8000000000000000) (.number "-9223372036854775808".toList) ∧
      Placed (.number "-9223372036854775808".toList) "Ann" "a@b" least ∧
      Document (.object least) (Value.object least).compact ∧
      decode (Utf8.encode (Value.object least).compact) =
        .ok ⟨"-9223372036854775808", "Ann", "a@b"⟩ := by
  have hwhole : SaysWhole (-0x8000000000000000) (.number "-9223372036854775808".toList) := .number
  have hplaced : Placed (.number "-9223372036854775808".toList) "Ann" "a@b" least :=
    @Placed.mk _ _ _ [("name".toList, .ofString "Ann")]
      [("extra".toList, .array []), ("email".toList, .ofString "a@b")] rfl rfl rfl
  have hnumbered : Numbered (.object least) := by
    refine .object ?_
    simp only [least, List.forall_mem_cons]
    refine ⟨.string _, ?_, .array (List.forall_mem_nil _), .string _, List.forall_mem_nil _⟩
    exact .number (wholeNumeral (-0x8000000000000000))
  have hdoc := hnumbered.compact.document
  exact ⟨by decide, hwhole, hplaced, hdoc, (whole_ids_agree (by decide)).1 hwhole hplaced hdoc⟩

end Customer

end OrderDesk
