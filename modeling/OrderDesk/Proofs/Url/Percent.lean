/-
# `Proofs.Url.Percent` — an encoded text is read back

A set that has the percent sign and all that is not ASCII loses nothing:
decoding an encoded text gives the octets of the text again
(`decode_encode`), so that different texts are encoded differently
(`encode_injective`).  The set of a single segment is of this kind; the
set of a whole path is not, since it leaves the percent sign alone.  With
any set, a character comes to be in an encoded text as one of the signs of
octets, or it was there before (`mem_encode`).
-/
import OrderDesk.Proofs.Utf8
import OrderDesk.Url.Percent

namespace OrderDesk.Utf8

theorem encode_append (s t : List Char) : encode (s ++ t) = encode s ++ encode t :=
  List.flatMap_append

theorem encode_injective {s t : List Char} (h : encode s = encode t) : s = t := by
  have hpieces : ofText s = ofText t := by rw [← pieces_encode, ← pieces_encode, h]
  exact (List.map_inj_right fun _ _ => Piece.char.inj).mp hpieces

theorem utf8EncodeChar_ascii {c : Char} (h : c.toNat < 0x80) :
    String.utf8EncodeChar c = [UInt8.ofNat c.toNat] := by
  have hle : c.toNat ≤ 127 := Nat.le_of_lt_succ h
  simp [String.utf8EncodeChar, hle]

end OrderDesk.Utf8

namespace OrderDesk.Percent

open Utf8 (utf8EncodeChar_ascii)

/-- The set has the percent sign, the controls and all that is not ASCII. -/
structure Escapes (set : Set) : Prop where
  percent : set '%' = true
  controls : ∀ c, controls c = true → set c = true

theorem segment_escapes : Escapes segment where
  percent := by decide
  controls c h := by simp [segment, path, fragment, h]

/-! ## Octets -/

theorem digit?_hexDigit {n : Nat} (h : n < 16) :
    ∃ b, Utf8.encode [hexDigit n] = [b] ∧ digit? b = some (UInt8.ofNat n) := by
  match n, h with
  | 0, _ | 1, _ | 2, _ | 3, _ | 4, _ | 5, _ | 6, _ | 7, _ | 8, _ | 9, _ | 10, _ | 11, _
  | 12, _ | 13, _ | 14, _ | 15, _ => exact ⟨_, rfl, rfl⟩
  | n + 16, h => exact absurd h (by omega)

theorem hexDigit_mod (n : Nat) : hexDigit n = hexDigit (n % 16) := by
  rw [hexDigit, hexDigit, Nat.mod_mod]

/-- An octet behind a percent sign is decoded. -/
theorem decode_octet (b : UInt8) (rest : List UInt8) :
    decode (Utf8.encode (octet b) ++ rest) = b :: decode rest := by
  have hb : b.toNat < 256 := b.toNat_lt
  obtain ⟨high, hhigh, hhigh'⟩ := digit?_hexDigit (n := b.toNat / 16) (by omega)
  obtain ⟨low, hlow, hlow'⟩ := digit?_hexDigit (n := b.toNat % 16) (by omega)
  have hencode : Utf8.encode (octet b) = [0x25, high, low] := by
    have hsplit : octet b = ['%'] ++ ([hexDigit (b.toNat / 16)] ++ [hexDigit (b.toNat % 16)]) := by
      rw [octet, ← hexDigit_mod b.toNat]
      rfl
    rw [hsplit, Utf8.encode_append, Utf8.encode_append, hhigh, hlow]
    rfl
  have hvalue : UInt8.ofNat (b.toNat / 16) * 16 + UInt8.ofNat (b.toNat % 16) = b := by
    refine UInt8.toNat_inj.mp ?_
    simp only [UInt8.toNat_add, UInt8.toNat_mul, UInt8.toNat_ofNat', UInt8.reduceToNat]
    omega
  rw [hencode]
  simp only [List.cons_append, List.nil_append]
  rw [decode]
  simp [hhigh', hlow', hvalue]

/-- Any other octet stays. -/
theorem decode_other {b : UInt8} (h : b ≠ 0x25) (rest : List UInt8) :
    decode (b :: rest) = b :: decode rest := by
  rw [decode.eq_def]
  exact if_neg h

theorem decode_octets (bs rest : List UInt8) :
    decode (Utf8.encode (bs.flatMap octet) ++ rest) = bs ++ decode rest := by
  induction bs with
  | nil => rfl
  | cons b bs ih =>
      rw [List.flatMap_cons, Utf8.encode_append, List.append_assoc, decode_octet, ih]
      rfl

/-! ## Texts -/

theorem decode_encodeChar {set : Set} (h : Escapes set) (c : Char) (rest : List UInt8) :
    decode (Utf8.encode (encodeChar set c) ++ rest) = String.utf8EncodeChar c ++ decode rest := by
  rw [encodeChar]
  split
  · exact decode_octets _ rest
  · next hc =>
      have hcontrols : Percent.controls c = false := by
        refine Bool.eq_false_iff.mpr ?_
        intro hcontrol
        exact hc (h.controls c hcontrol)
      have hascii : c.toNat < 0x80 := by
        simp only [Percent.controls, Bool.or_eq_false_iff, decide_eq_false_iff_not] at hcontrols
        omega
      have hpercent : UInt8.ofNat c.toNat ≠ 0x25 := by
        intro heq
        have hnat := congrArg UInt8.toNat heq
        rw [UInt8.toNat_ofNat_of_lt' (by exact Nat.lt_trans hascii (by decide))] at hnat
        have hchar : c = '%' := Char.toNat_inj.mp hnat
        exact hc (hchar ▸ h.percent)
      have hencode : Utf8.encode [c] = [UInt8.ofNat c.toNat] := by
        rw [Utf8.encode, List.flatMap_singleton, utf8EncodeChar_ascii hascii]
      rw [hencode, utf8EncodeChar_ascii hascii]
      exact decode_other hpercent rest

/-- Decoding undoes encoding. -/
theorem decode_encode {set : Set} (h : Escapes set) (text : List Char) :
    decode (Utf8.encode (encode set text)) = Utf8.encode text := by
  induction text with
  | nil => rw [encode, List.flatMap_nil, Utf8.encode, List.flatMap_nil, decode]
  | cons c text ih =>
      rw [encode, List.flatMap_cons, Utf8.encode_append, decode_encodeChar h]
      exact congrArg (String.utf8EncodeChar c ++ ·) ih

theorem encode_injective {set : Set} (h : Escapes set) {s t : List Char}
    (heq : encode set s = encode set t) : s = t := by
  refine Utf8.encode_injective ?_
  rw [← decode_encode h s, ← decode_encode h t, heq]

theorem encode_inj {set : Set} (h : Escapes set) {s t : List Char} :
    encode set s = encode set t ↔ s = t := by
  constructor
  · exact encode_injective h
  · rintro rfl
    rfl

theorem encode_eq_nil {set : Set} (h : Escapes set) {s : List Char} : encode set s = [] ↔ s = [] :=
  encode_inj h (t := [])

/-! ## Characters of an encoded text -/

/-- The characters that encoded octets are written with. -/
def signs : List Char := "%0123456789ABCDEF".toList

theorem hexDigit_mem_signs (n : Nat) : hexDigit n ∈ signs := by
  rw [hexDigit_mod]
  have hlt : n % 16 < 16 := Nat.mod_lt n (by decide)
  generalize n % 16 = m at hlt
  revert m
  decide

/-- An encoded text has no other characters than these and those of the text
that need not be encoded. -/
theorem mem_encode {set : Set} {text : List Char} {c : Char} (h : c ∈ encode set text) :
    c ∈ signs ∨ c ∈ text ∧ set c = false := by
  obtain ⟨d, hd, hc⟩ := List.mem_flatMap.mp h
  rw [encodeChar] at hc
  split at hc
  · obtain ⟨b, -, hb⟩ := List.mem_flatMap.mp hc
    simp only [octet, List.mem_cons, List.not_mem_nil, or_false] at hb
    rcases hb with rfl | rfl | rfl
    · exact .inl (by decide)
    · exact .inl (hexDigit_mem_signs _)
    · exact .inl (hexDigit_mem_signs _)
  · next hset =>
      obtain rfl := List.mem_singleton.mp hc
      exact .inr ⟨hd, Bool.eq_false_iff.mpr hset⟩

end OrderDesk.Percent
