/-
# `Json.Scan` — white space, words, strings

The lexical half of reading JSON.  Strings come in two readers: `string`
decodes escapes and refuses octets that are no characters, `skipString`
only finds the end of a string that nobody asked for and lets octets and
lone surrogates pass.

Every scanner takes the text in front of it and returns the text behind
it; the lemmas at the end say that the latter is never longer.
-/
import OrderDesk.Json.Failure

namespace OrderDesk

namespace Json

open Utf8 (Piece)

/-- The four blanks between tokens. -/
def isSpace : Piece → Bool
  | .char c => c == ' ' || c == '\n' || c == '\t' || c == '\r'
  | .junk _ => false

/-- Drops blanks. -/
def skipSpace (s : List Piece) : List Piece := s.dropWhile isSpace

/-- The rest of a word whose first letter is read.  The octet that differs
counts as read. -/
def word : List Char → List Piece → Except Failure (List Piece)
  | [], s => .ok s
  | _ :: _, [] => failAt .endOfValue []
  | c :: cs, p :: rest => if p = .char c then word cs rest else failOn .expectedIdent (p :: rest)

/-- The value of a hexadecimal digit. -/
def hexDigit? : Piece → Option Nat
  | .junk _ => none
  | .char c =>
    if '0' ≤ c ∧ c ≤ '9' then some (c.toNat - '0'.toNat)
    else if 'a' ≤ c ∧ c ≤ 'f' then some (c.toNat - 'a'.toNat + 10)
    else if 'A' ≤ c ∧ c ≤ 'F' then some (c.toNat - 'A'.toNat + 10)
    else none

/-- The value of four hexadecimal digits at the front of the text. -/
def hex4? : List Piece → Option Nat
  | a :: b :: c :: d :: _ =>
    match hexDigit? a, hexDigit? b, hexDigit? c, hexDigit? d with
    | some a, some b, some c, some d => some (((a * 16 + b) * 16 + c) * 16 + d)
    | _, _, _, _ => none
  | _ => none

/-- Four hexadecimal digits.  With fewer than four octets left the text
has ended; otherwise four octets count as read. -/
def hex4 (s : List Piece) : Except Failure Nat :=
  match hex4? s with
  | some n => .ok n
  | none =>
    if Utf8.size s < 4 then .error ⟨.endOfString, 0⟩
    else .error ⟨.invalidEscape, Utf8.size s - 4⟩

/-- The character of a one-letter escape. -/
def simpleEscape? (c : Char) : Option Char :=
  if c = '"' ∨ c = '\\' ∨ c = '/' then some c
  else if c = 'b' then some '\x08'
  else if c = 'f' then some '\x0c'
  else if c = 'n' then some '\n'
  else if c = 'r' then some '\r'
  else if c = 't' then some '\t'
  else none

/-- The second half of a surrogate pair, in front of `s`: the character and
the number of pieces read. -/
def lowSurrogate (high : Nat) (s : List Piece) : Except Failure (Char × Nat) :=
  match s with
  | .char '\\' :: .char 'u' :: rest => do
    let low ← hex4 rest
    if 0xDC00 ≤ low ∧ low ≤ 0xDFFF then
      pure (Char.ofNat (0x10000 + (high - 0xD800) * 0x400 + (low - 0xDC00)), 6)
    else failAt .loneSurrogate (rest.drop 4)
  | .char '\\' :: [] => failAt .endOfString []
  | .char '\\' :: rest => failOn .endOfHexEscape rest
  | [] => failAt .endOfString []
  | rest => failOn .endOfHexEscape rest

/-- An escape behind its backslash: the character and the number of pieces
read. -/
def escape : List Piece → Except Failure (Char × Nat)
  | [] => failAt .endOfString []
  | .char 'u' :: rest => do
    let n ← hex4 rest
    if 0xDC00 ≤ n ∧ n ≤ 0xDFFF then failAt .loneSurrogate (rest.drop 4)
    else if 0xD800 ≤ n ∧ n ≤ 0xDBFF then
      let (c, more) ← lowSurrogate n (rest.drop 4)
      pure (c, 5 + more)
    else pure (Char.ofNat n, 5)
  | .char c :: rest =>
    match simpleEscape? c with
    | some d => pure (d, 1)
    | none => failOn .invalidEscape (.char c :: rest)
  | .junk b :: rest => failOn .invalidEscape (.junk b :: rest)

/-- The characters of a string, behind its opening quote. -/
def string : List Piece → Outcome (List Char)
  | [] => failAt .endOfString []
  | .junk b :: rest => failOn .invalidUnicode (.junk b :: rest)
  | .char c :: rest =>
    if c = '"' then .ok ([], rest)
    else if c = '\\' then
      match escape rest with
      | .error e => .error e
      | .ok (d, n) =>
        match string (rest.drop n) with
        | .error e => .error e
        | .ok (ds, rest') => .ok (d :: ds, rest')
    else if c < ' ' then failOn .controlCharacter (.char c :: rest)
    else
      match string rest with
      | .error e => .error e
      | .ok (ds, rest') => .ok (c :: ds, rest')
termination_by s => s.length
decreasing_by
  · simp only [List.length_cons, List.length_drop]; omega
  · simp

/-- An escape that nobody asked for, behind its backslash: the number of
pieces read. -/
def skipEscape : List Piece → Except Failure Nat
  | [] => failAt .endOfString []
  | .char 'u' :: rest => do
    let _ ← hex4 rest
    pure 5
  | .char c :: rest =>
    match simpleEscape? c with
    | some _ => pure 1
    | none => failOn .invalidEscape (.char c :: rest)
  | .junk b :: rest => failOn .invalidEscape (.junk b :: rest)

/-- Finds the text behind a string, from behind its opening quote. -/
def skipString : List Piece → Except Failure (List Piece)
  | [] => failAt .endOfString []
  | .junk _ :: rest => skipString rest
  | .char c :: rest =>
    if c = '"' then .ok rest
    else if c = '\\' then
      match skipEscape rest with
      | .error e => .error e
      | .ok n => skipString (rest.drop n)
    else if c < ' ' then failAt .controlCharacter (.char c :: rest)
    else skipString rest
termination_by s => s.length
decreasing_by all_goals simp only [List.length_cons, List.length_drop]; omega

theorem skipSpace_length (s : List Piece) : (skipSpace s).length ≤ s.length :=
  (List.dropWhile_sublist _).length_le

theorem word_length {cs : List Char} {s r : List Piece} (h : word cs s = .ok r) :
    r.length ≤ s.length := by
  induction cs generalizing s with
  | nil => simp_all [word]
  | cons c cs ih =>
    cases s with
    | nil => simp [word, failAt] at h
    | cons p rest =>
      rw [word] at h
      split at h
      · have := ih h; simp only [List.length_cons]; omega
      · simp [failOn] at h

theorem string_length {s : List Piece} {cs : List Char} {r : List Piece}
    (h : string s = .ok (cs, r)) : r.length < s.length := by
  fun_induction string s generalizing cs r with
  | case3 => simp_all
  | case6 _ _ _ _ _ _ hs _ ih =>
    cases h
    have := ih hs
    simp only [List.length_drop] at this
    simp only [List.length_cons]
    omega
  | case9 _ _ _ _ _ _ _ hs ih =>
    cases h
    have := ih hs
    simp only [List.length_cons]
    omega
  | _ => simp_all [failAt, failOn]

theorem skipString_length {s r : List Piece} (h : skipString s = .ok r) :
    r.length < s.length := by
  fun_induction skipString s with
  | case2 _ _ ih => have := ih h; simp only [List.length_cons]; omega
  | case3 => simp_all
  | case5 _ _ _ _ ih =>
    have := ih h
    simp only [List.length_drop] at this
    simp only [List.length_cons]
    omega
  | case7 _ _ _ _ _ ih => have := ih h; simp only [List.length_cons]; omega
  | _ => simp_all [failAt]

end Json

end OrderDesk
