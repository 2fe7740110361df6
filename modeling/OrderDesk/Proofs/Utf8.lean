/-
# `Proofs.Utf8` — the pieces of an encoded text are its characters

`pieces_encode` is the whole of it: writing characters as octets and
cutting the octets into pieces gives the characters back, and no junk.
The work is one character at a time (`first_utf8EncodeChar`), by the
number of octets that the character takes; the second octet has a
narrower range behind four of the lead octets, and this is where the
bounds of each length and the gap of the surrogates are used.
-/
import OrderDesk.Utf8

namespace OrderDesk.Utf8

/-! ## Octets of a character -/

theorem ofNat_le_ofNat {a b : Nat} (ha : a < 256) (hb : b < 256) :
    UInt8.ofNat a ≤ UInt8.ofNat b ↔ a ≤ b := by
  rw [UInt8.le_iff_toNat_le, UInt8.toNat_ofNat_of_lt' ha, UInt8.toNat_ofNat_of_lt' hb]

/-- A continuation octet in the range that is allowed where it stands. -/
theorem tails_succ {n bits x : Nat} {rest : List UInt8} (lo hi : Nat) (hx : x < 64)
    (hlo : lo ≤ x + 0x80) (hhi : x + 0x80 ≤ hi) (hi256 : hi < 256) :
    tails (n + 1) (UInt8.ofNat lo) (UInt8.ofNat hi) bits (UInt8.ofNat (x + 0x80) :: rest) =
      ((tails n 0x80 0xBF (bits * 64 + x) rest).1,
        UInt8.ofNat (x + 0x80) :: (tails n 0x80 0xBF (bits * 64 + x) rest).2) := by
  have hrange : UInt8.ofNat lo ≤ UInt8.ofNat (x + 0x80) ∧
      UInt8.ofNat (x + 0x80) ≤ UInt8.ofNat hi :=
    ⟨(ofNat_le_ofNat (by omega) (by omega)).mpr hlo, (ofNat_le_ofNat (by omega) hi256).mpr hhi⟩
  have hvalue : (UInt8.ofNat (x + 0x80)).toNat - 0x80 = x := by
    rw [UInt8.toNat_ofNat_of_lt' (by change x + 0x80 < 256; omega)]
    omega
  rw [tails, if_pos hrange, hvalue]

theorem tails_zero {lo hi : UInt8} {bits : Nat} {rest : List UInt8} :
    tails 0 lo hi bits rest = (some bits, []) := by
  cases rest <;> rfl

/-! ## The lead octets -/

theorem lead?_two {v : Nat} (h : 0xC2 ≤ v) (h' : v ≤ 0xDF) :
    lead? (UInt8.ofNat v) = some ⟨1, 0x80, 0xBF, v - 0xC0⟩ := by
  have hv : (UInt8.ofNat v).toNat = v := UInt8.toNat_ofNat_of_lt' (by change v < 256; omega)
  have hrange : 0xC2 ≤ UInt8.ofNat v ∧ UInt8.ofNat v ≤ 0xDF := by
    rw [UInt8.le_iff_toNat_le, UInt8.le_iff_toNat_le, hv]
    exact ⟨h, h'⟩
  rw [lead?, if_pos hrange, hv]

/-- The lead octets of characters of three octets: behind the first of
them the low half of the range is left out, behind `0xED` the high half. -/
theorem lead?_three {x : Nat} (h : x < 16) :
    lead? (UInt8.ofNat (x + 0xE0)) =
      some ⟨2, UInt8.ofNat (if x = 0 then 0xA0 else 0x80),
        UInt8.ofNat (if x = 0xD then 0x9F else 0xBF), x⟩ := by
  match x, h with
  | 0, _ | 1, _ | 2, _ | 3, _ | 4, _ | 5, _ | 6, _ | 7, _ | 8, _ | 9, _ | 10, _ | 11, _
  | 12, _ | 13, _ | 14, _ | 15, _ => rfl
  | x + 16, h => exact absurd h (by omega)

/-- The lead octets of characters of four octets. -/
theorem lead?_four {x : Nat} (h : x ≤ 4) :
    lead? (UInt8.ofNat (x + 0xF0)) =
      some ⟨3, UInt8.ofNat (if x = 0 then 0x90 else 0x80),
        UInt8.ofNat (if x = 4 then 0x8F else 0xBF), x⟩ := by
  match x, h with
  | 0, _ | 1, _ | 2, _ | 3, _ | 4, _ => rfl
  | x + 5, h => exact absurd h (by omega)

/-! ## One character -/

theorem not_lt_0x80 {v : Nat} (h : 0x80 ≤ v) (h' : v < 256) : ¬ UInt8.ofNat v < 0x80 := by
  rw [UInt8.lt_iff_toNat_lt, UInt8.toNat_ofNat_of_lt' h']
  exact Nat.not_lt.mpr h

/-- A lead octet and what it announces make one character. -/
theorem first_of_tails {b : UInt8} {rest : List UInt8} {l : Lead} {point : Nat}
    (seen : List UInt8) (hb : ¬ b < 0x80) (hl : lead? b = some l)
    (ht : tails l.tails l.least l.greatest l.bits rest = (some point, seen)) :
    first b rest = (.char (Char.ofNat point), seen.length) := by
  rw [first, if_neg hb, hl]
  simp only [ht]

theorem first_one {v : Nat} {rest : List UInt8} (hv : v < 0x80) :
    first (UInt8.ofNat v) rest = (.char (Char.ofNat v), 0) := by
  have heq : (UInt8.ofNat v).toNat = v := UInt8.toNat_ofNat_of_lt' (by change v < 256; omega)
  have hlow : UInt8.ofNat v < 0x80 := by
    rw [UInt8.lt_iff_toNat_lt, heq]
    exact hv
  rw [first, if_pos hlow, heq]

theorem first_two {x y : Nat} {rest : List UInt8} (hx : 2 ≤ x) (hx' : x < 32) (hy : y < 64) :
    first (UInt8.ofNat (x + 0xC0)) (UInt8.ofNat (y + 0x80) :: rest) =
      (.char (Char.ofNat (x * 64 + y)), 1) := by
  refine first_of_tails [UInt8.ofNat (y + 0x80)]
    (not_lt_0x80 (by omega) (by omega)) (lead?_two (by omega) (by omega)) ?_
  refine (tails_succ 0x80 0xBF hy (by omega) (by omega) (by omega)).trans ?_
  rw [tails_zero, Nat.add_sub_cancel]

theorem first_three {x y z : Nat} {rest : List UInt8} (hx : x < 16) (hy : y < 64) (hz : z < 64)
    (hlow : x = 0 → 0x20 ≤ y) (hgap : x = 0xD → y < 0x20) :
    first (UInt8.ofNat (x + 0xE0)) (UInt8.ofNat (y + 0x80) :: UInt8.ofNat (z + 0x80) :: rest) =
      (.char (Char.ofNat ((x * 64 + y) * 64 + z)), 2) := by
  refine first_of_tails [UInt8.ofNat (y + 0x80), UInt8.ofNat (z + 0x80)]
    (not_lt_0x80 (by omega) (by omega)) (lead?_three hx) ?_
  refine (tails_succ _ _ hy (by split <;> omega) (by split <;> omega) (by split <;> omega)).trans ?_
  rw [show tails 1 0x80 0xBF (x * 64 + y) (UInt8.ofNat (z + 0x80) :: rest) = _ from
      tails_succ 0x80 0xBF hz (by omega) (by omega) (by omega), tails_zero]

theorem first_four {x y z w : Nat} {rest : List UInt8} (hx : x ≤ 4) (hy : y < 64) (hz : z < 64)
    (hw : w < 64) (hlow : x = 0 → 0x10 ≤ y) (hhigh : x = 4 → y < 0x10) :
    first (UInt8.ofNat (x + 0xF0)) (UInt8.ofNat (y + 0x80) :: UInt8.ofNat (z + 0x80) ::
        UInt8.ofNat (w + 0x80) :: rest) =
      (.char (Char.ofNat (((x * 64 + y) * 64 + z) * 64 + w)), 3) := by
  refine first_of_tails
    [UInt8.ofNat (y + 0x80), UInt8.ofNat (z + 0x80), UInt8.ofNat (w + 0x80)]
    (not_lt_0x80 (by omega) (by omega)) (lead?_four hx) ?_
  refine (tails_succ _ _ hy (by split <;> omega) (by split <;> omega) (by split <;> omega)).trans ?_
  rw [show tails 2 0x80 0xBF (x * 64 + y) (UInt8.ofNat (z + 0x80) :: _ :: rest) = _ from
      tails_succ 0x80 0xBF hz (by omega) (by omega) (by omega),
    show tails 1 0x80 0xBF ((x * 64 + y) * 64 + z) (UInt8.ofNat (w + 0x80) :: rest) = _ from
      tails_succ 0x80 0xBF hw (by omega) (by omega) (by omega), tails_zero]

/-- The octets of a character are the first piece of any text that begins
with them. -/
theorem first_utf8EncodeChar (c : Char) :
    ∃ b bs, String.utf8EncodeChar c = b :: bs ∧
      ∀ rest, first b (bs ++ rest) = (.char c, bs.length) := by
  have hvalid : c.toNat < 0xD800 ∨ (0xDFFF < c.toNat ∧ c.toNat < 0x110000) := c.valid
  have hchar : ∀ n, n = c.toNat → Char.ofNat n = c := by
    intro n hn
    rw [hn, Char.ofNat_toNat]
  simp only [String.utf8EncodeChar, show c.val.toNat = c.toNat from rfl]
  -- One case for each number of octets, with its bounds for the lemma of that number.
  split
  case isTrue h1 =>
    refine ⟨_, [], rfl, ?_⟩
    intro rest
    rw [first_one (by omega), hchar _ rfl]
    rfl
  case isFalse h1 =>
  split
  case isTrue h2 =>
    refine ⟨_, [_], rfl, ?_⟩
    intro rest
    rw [List.singleton_append, first_two (by omega) (by omega) (by omega), hchar _ (by omega)]
    rfl
  case isFalse h2 =>
  split
  case isTrue h3 =>
    refine ⟨_, [_, _], rfl, ?_⟩
    intro rest
    rw [List.cons_append, List.singleton_append, first_three (by omega) (by omega) (by omega)
      (by omega) (by omega), hchar _ (by omega)]
    rfl
  case isFalse h3 =>
    refine ⟨_, [_, _, _], rfl, ?_⟩
    intro rest
    rw [List.cons_append, List.cons_append, List.singleton_append, first_four (by omega) (by omega)
      (by omega) (by omega) (by omega) (by omega), hchar _ (by omega)]
    rfl

/-! ## A whole text -/

@[simp] theorem ofText_nil : ofText [] = [] := rfl

@[simp] theorem ofText_cons (c : Char) (text : List Char) :
    ofText (c :: text) = .char c :: ofText text := rfl

/-- An encoded text consists of its characters. -/
theorem pieces_encode (text : List Char) : pieces (encode text) = ofText text := by
  induction text with
  | nil => rw [encode, List.flatMap_nil, pieces]; rfl
  | cons c text ih =>
      obtain ⟨b, bs, hc, hfirst⟩ := first_utf8EncodeChar c
      have hencode : encode (c :: text) = b :: (bs ++ encode text) := by
        rw [encode, List.flatMap_cons, hc]
        rfl
      rw [hencode, pieces, hfirst]
      show Piece.char c :: pieces ((bs ++ encode text).drop bs.length) = _
      rw [List.drop_left, ih]
      rfl

end OrderDesk.Utf8
