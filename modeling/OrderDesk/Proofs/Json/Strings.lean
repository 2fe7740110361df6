/-
# `Proofs.Json.Strings` — every spelling of a string is read

Both scanners of strings, the one that decodes and the one that passes
over, against the grammar: on a spelling of `s` and its closing quotation
mark `string` answers `s`, and both go on behind the mark.  Each lemma
takes the text that follows as it comes, so that the next token can be
read from there.
-/
import OrderDesk.Json.Scan
import OrderDesk.Proofs.Json.Grammar
import OrderDesk.Proofs.Utf8

namespace OrderDesk.Json

open Utf8 (Piece ofText)

/-! ## White space -/

/-- Is this one of the four blanks? -/
theorem isSpace_char {c : Char} :
    isSpace (.char c) = true ↔ c = ' ' ∨ c = '\n' ∨ c = '\t' ∨ c = '\r' := by
  simp [isSpace, or_assoc]

theorem skipSpace_blank {w : List Char} (hw : Blank w) (s : List Char) :
    skipSpace (ofText (w ++ s)) = skipSpace (ofText s) := by
  induction w with
  | nil => rfl
  | cons c w ih =>
      have hc : isSpace (.char c) = true := isSpace_char.mpr (hw c List.mem_cons_self)
      have hrest : Blank w := by
        intro d hd
        exact hw d (List.mem_cons_of_mem c hd)
      rw [List.cons_append, Utf8.ofText_cons, skipSpace, List.dropWhile_cons_of_pos hc]
      exact ih hrest

theorem skipSpace_cons {c : Char} (hc : isSpace (.char c) = false) (s : List Piece) :
    skipSpace (.char c :: s) = .char c :: s := by
  rw [skipSpace, List.dropWhile_cons_of_neg (by simp [hc])]

theorem skipSpace_token {w : List Char} (hw : Blank w) {c : Char}
    (hc : isSpace (.char c) = false) (s : List Char) :
    skipSpace (ofText (w ++ c :: s)) = .char c :: ofText s := by
  rw [skipSpace_blank hw, Utf8.ofText_cons, skipSpace_cons hc]

theorem skipSpace_all {w : List Char} (hw : Blank w) : skipSpace (ofText w) = [] := by
  have h := skipSpace_blank hw []
  rwa [List.append_nil] at h

/-! ## Hexadecimal units -/

theorem hexDigit?_of_digit {c : Char} {n : Nat} (h : HexDigit c n) :
    hexDigit? (.char c) = some n := by
  obtain ⟨hn, rfl | rfl⟩ := h
  · revert n
    decide
  · revert n
    decide

theorem hex4_unit {u : List Char} {n : Nat} (h : HexUnit u n) (s : List Char) :
    hex4 (ofText (u ++ s)) = .ok n := by
  cases h with
  | mk ha hb hc hd =>
      simp [hex4, hex4?, hexDigit?_of_digit ha, hexDigit?_of_digit hb, hexDigit?_of_digit hc,
        hexDigit?_of_digit hd]

theorem HexUnit.length_eq {u : List Char} {n : Nat} (h : HexUnit u n) : u.length = 4 := by
  cases h
  rfl

theorem drop_ofText {u : List Char} {k : Nat} (h : u.length = k) (s : List Char) :
    (ofText (u ++ s)).drop k = ofText s := by
  rw [ofText, ← List.map_drop, ← h, List.drop_left]
  rfl

/-! ## Escapes -/

theorem escape_unit {u : List Char} {c : Char} (h : HexUnit u c.toNat) (s : List Char) :
    escape (.char 'u' :: ofText (u ++ s)) = .ok (c, 5) := by
  have hvalid : c.toNat < 0xD800 ∨ (0xDFFF < c.toNat ∧ c.toNat < 0x110000) := c.valid
  have hlow : ¬ (0xDC00 ≤ c.toNat ∧ c.toNat ≤ 0xDFFF) := by omega
  have hhigh : ¬ (0xD800 ≤ c.toNat ∧ c.toNat ≤ 0xDBFF) := by omega
  rw [escape, hex4_unit h]
  simp only [bind, Except.bind, if_neg hlow, if_neg hhigh, Char.ofNat_toNat]
  rfl

theorem lowSurrogate_unit {v : List Char} {high low : Nat} (h : HexUnit v low)
    (h1 : 0xDC00 ≤ low) (h2 : low ≤ 0xDFFF) (s : List Char) :
    lowSurrogate high (ofText ('\\' :: 'u' :: (v ++ s))) =
      .ok (Char.ofNat (0x10000 + (high - 0xD800) * 0x400 + (low - 0xDC00)), 6) := by
  simp only [Utf8.ofText_cons, lowSurrogate]
  rw [hex4_unit h]
  simp only [bind, Except.bind, if_pos (And.intro h1 h2)]
  rfl

theorem escape_pair {u v : List Char} {high low : Nat} {c : Char} (hu : HexUnit u high)
    (hv : HexUnit v low) (h1 : 0xD800 ≤ high) (h2 : high ≤ 0xDBFF) (h3 : 0xDC00 ≤ low)
    (h4 : low ≤ 0xDFFF) (hc : c.toNat = 0x10000 + (high - 0xD800) * 0x400 + (low - 0xDC00))
    (s : List Char) :
    escape (.char 'u' :: ofText (u ++ '\\' :: 'u' :: (v ++ s))) = .ok (c, 11) := by
  have hlow : ¬ (0xDC00 ≤ high ∧ high ≤ 0xDFFF) := by omega
  rw [escape, hex4_unit hu]
  simp only [bind, Except.bind, if_neg hlow, if_pos (And.intro h1 h2)]
  rw [drop_ofText hu.length_eq, lowSurrogate_unit hv h3 h4, ← hc, Char.ofNat_toNat]
  rfl

theorem simpleEscape?_letter {e c : Char} (h : (e, c) ∈ letterEscapes) :
    simpleEscape? e = some c ∧ e ≠ 'u' := by
  simp only [letterEscapes, List.mem_cons, List.not_mem_nil, or_false, Prod.mk.injEq] at h
  rcases h with ⟨rfl, rfl⟩ | ⟨rfl, rfl⟩ | ⟨rfl, rfl⟩ | ⟨rfl, rfl⟩ | ⟨rfl, rfl⟩ | ⟨rfl, rfl⟩ |
    ⟨rfl, rfl⟩ | ⟨rfl, rfl⟩ <;> decide

theorem escape_letter {e c : Char} (h : (e, c) ∈ letterEscapes) (s : List Piece) :
    escape (.char e :: s) = .ok (c, 1) := by
  obtain ⟨he, hu⟩ := simpleEscape?_letter h
  rw [escape.eq_def]
  split
  · next heq => cases heq
  · next heq =>
      injection heq with heq
      injection heq with heq
      exact absurd heq hu
  · next heq =>
      cases heq
      simp only [he]
      rfl
  · next heq => cases heq

theorem skipEscape_letter {e c : Char} (h : (e, c) ∈ letterEscapes) (s : List Piece) :
    skipEscape (.char e :: s) = .ok 1 := by
  obtain ⟨he, hu⟩ := simpleEscape?_letter h
  rw [skipEscape.eq_def]
  split
  · next heq => cases heq
  · next heq =>
      injection heq with heq
      injection heq with heq
      exact absurd heq hu
  · next heq =>
      cases heq
      simp only [he]
      rfl
  · next heq => cases heq

theorem skipEscape_unit {u : List Char} {n : Nat} (h : HexUnit u n) (s : List Char) :
    skipEscape (.char 'u' :: ofText (u ++ s)) = .ok 5 := by
  rw [skipEscape, hex4_unit h]
  rfl

/-! ## Strings that are decoded -/

/-- The character in front of what the rest of a string turns out to be. -/
def consChar (c : Char) : Outcome (List Char) → Outcome (List Char)
  | .error e => .error e
  | .ok (cs, rest) => .ok (c :: cs, rest)

theorem string_escape {s t : List Piece} {c : Char} {n : Nat} (h : escape s = .ok (c, n))
    (ht : s.drop n = t) : string (.char '\\' :: s) = consChar c (string t) := by
  rw [string.eq_3, if_neg (by decide), if_pos rfl]
  simp only [h, ht]
  cases string t <;> rfl

theorem string_plain {c : Char} (h1 : c ≠ '"') (h2 : c ≠ '\\') (h3 : 0x20 ≤ c.toNat)
    (s : List Piece) : string (.char c :: s) = consChar c (string s) := by
  have hnot : ¬ c < ' ' := Nat.not_lt.mpr h3
  rw [string.eq_3, if_neg h1, if_neg h2, if_neg hnot]
  cases string s <;> rfl

theorem string_spelledChar {c : Char} {u : List Char} (h : SpelledChar c u) (s : List Char) :
    string (ofText (u ++ s)) = consChar c (string (ofText s)) := by
  cases h with
  | plain h1 h2 h3 => exact string_plain h1 h2 h3 _
  | letter h => exact string_escape (escape_letter h _) rfl
  | @unit u c h =>
      refine string_escape (escape_unit h s) ?_
      show (ofText (u ++ s)).drop 4 = ofText s
      exact drop_ofText h.length_eq s
  | @pair u v _ _ _ hu hv h1 h2 h3 h4 hc =>
      have hlength : ('u' :: (u ++ '\\' :: 'u' :: v)).length = 11 := by
        simp [hu.length_eq, hv.length_eq]
      refine string_escape (s := ofText ('u' :: (u ++ '\\' :: 'u' :: v) ++ s)) ?_
        (drop_ofText hlength s)
      simpa using escape_pair hu hv h1 h2 h3 h4 hc s

/-- The reader of strings answers the string that is spelled. -/
theorem string_spelled {s t : List Char} (h : Spelled s t) (rest : List Char) :
    string (ofText (t ++ '"' :: rest)) = .ok (s, ofText rest) := by
  induction h with
  | nil =>
      rw [List.nil_append, Utf8.ofText_cons, string.eq_3, if_pos rfl]
  | cons hc _ ih =>
      rw [List.append_assoc, string_spelledChar hc, ih]
      rfl

/-! ## Strings that are passed over -/

theorem skipString_escape {s t : List Piece} {n : Nat} (h : skipEscape s = .ok n)
    (ht : s.drop n = t) : skipString (.char '\\' :: s) = skipString t := by
  rw [skipString.eq_3, if_neg (by decide), if_pos rfl]
  simp only [h, ht]

theorem skipString_plain {c : Char} (h1 : c ≠ '"') (h2 : c ≠ '\\') (h3 : 0x20 ≤ c.toNat)
    (s : List Piece) : skipString (.char c :: s) = skipString s := by
  have hnot : ¬ c < ' ' := Nat.not_lt.mpr h3
  rw [skipString.eq_3, if_neg h1, if_neg h2, if_neg hnot]

theorem skipString_unit {u : List Char} {n : Nat} (h : HexUnit u n) (s : List Char) :
    skipString (ofText ('\\' :: 'u' :: (u ++ s))) = skipString (ofText s) :=
  skipString_escape (skipEscape_unit h s) (drop_ofText h.length_eq s)

theorem skipString_spelledChar {c : Char} {u : List Char} (h : SpelledChar c u)
    (s : List Char) : skipString (ofText (u ++ s)) = skipString (ofText s) := by
  cases h with
  | plain h1 h2 h3 => exact skipString_plain h1 h2 h3 _
  | letter h => exact skipString_escape (skipEscape_letter h _) rfl
  | unit h => exact skipString_unit h s
  | @pair u v _ _ _ hu hv =>
      have happend := skipString_unit hu ('\\' :: 'u' :: (v ++ s))
      simp only [List.cons_append, List.append_assoc]
      exact happend.trans (skipString_unit hv s)

/-- Passing over a string ends behind its closing quotation mark. -/
theorem skipString_spelled {s t : List Char} (h : Spelled s t) (rest : List Char) :
    skipString (ofText (t ++ '"' :: rest)) = .ok (ofText rest) := by
  induction h with
  | nil => rw [List.nil_append, Utf8.ofText_cons, skipString.eq_3, if_pos rfl]
  | cons hc _ ih => rw [List.append_assoc, skipString_spelledChar hc, ih]

end OrderDesk.Json
