/-
# `Toml.Text` — quoted strings and keys

A basic string has escapes, a literal string has none.  A long string may
have several lines: the line break behind its opening quotes is dropped,
a carriage return must be part of a line break, and in a long basic
string a backslash at the end of a line takes the blanks and line breaks
behind it away.

Readers answer the characters, or the place of the first fault in octets
from the start of the lexeme.  A string that is not closed is found out
before anything inside it.
-/
import OrderDesk.Toml.Token

namespace OrderDesk

namespace Toml

/-- The place of a fault, counted from the start of a lexeme. -/
abbrev Placed (α : Type) := Except Nat α

/-- The value of a hexadecimal digit. -/
def hexDigit? (c : Char) : Option Nat :=
  if '0' ≤ c ∧ c ≤ '9' then some (c.toNat - '0'.toNat)
  else if 'a' ≤ c ∧ c ≤ 'f' then some (c.toNat - 'a'.toNat + 10)
  else if 'A' ≤ c ∧ c ≤ 'F' then some (c.toNat - 'A'.toNat + 10)
  else none

/-- Is this a hexadecimal digit? -/
def isHexDigit (c : Char) : Bool := (hexDigit? c).isSome

/-- The character of a one-letter escape. -/
def simpleEscape? (c : Char) : Option Char :=
  if c = 'b' then some '\x08'
  else if c = 't' then some '\t'
  else if c = 'n' then some '\n'
  else if c = 'f' then some '\x0c'
  else if c = 'r' then some '\r'
  else if c = 'e' then some '\x1b'
  else if c = '"' then some '"'
  else if c = '\\' then some '\\'
  else none

/-- How many digits an escape by code point has. -/
def escapeDigits? (c : Char) : Option Nat :=
  if c = 'x' then some 2 else if c = 'u' then some 4 else if c = 'U' then some 8 else none

/-- An escape at `place`, behind its backslash: the character and how many
characters the escape has. -/
def escape (place : Nat) : List Char → Placed (Char × Nat)
  | [] => .error place
  | c :: rest =>
    match simpleEscape? c with
    | some d => .ok (d, 1)
    | none =>
      match escapeDigits? c with
      | none => .error place
      | some count =>
        let digits := (rest.take count).takeWhile isHexDigit
        if digits.length < count then .error (place + 1 + digits.length)
        else
          let point := digits.foldl (fun n d => n * 16 + (hexDigit? d).getD 0) 0
          if point.isValidChar then .ok (Char.ofNat point, count + 1) else .error (place + 1)

/-- May a character stand in a string as it is? -/
def isPlain (c : Char) : Bool := c == '\t' || (0x20 ≤ c.toNat && c.toNat != 0x7F)

/-- The characters of a basic string at a place, between its quotes. -/
def basicText (place : Nat) : List Char → Placed (List Char)
  | [] => .ok []
  | c :: rest =>
    if c = '\\' then do
      let (d, count) ← escape (place + 1) rest
      pure (d :: (← basicText (place + 1 + count) (rest.drop count)))
    else if isPlain c then do pure (c :: (← basicText (place + c.utf8Size) rest))
    else .error place
termination_by s => s.length
decreasing_by
  all_goals simp only [List.length_drop, List.length_cons]; omega

/-- The characters of a literal string at a place, between its quotes. -/
def literalText (place : Nat) : List Char → Placed (List Char)
  | [] => .ok []
  | c :: rest =>
    if isPlain c then do pure (c :: (← literalText (place + c.utf8Size) rest))
    else .error place

/-- The characters of a long literal string at a place, between its
quotes. -/
def longLiteralText (place : Nat) : List Char → Placed (List Char)
  | [] => .ok []
  | '\r' :: '\n' :: rest => do pure ('\r' :: '\n' :: (← longLiteralText (place + 2) rest))
  | c :: rest =>
    if isPlain c ∨ c = '\n' then do
      pure (c :: (← longLiteralText (place + c.utf8Size) rest))
    else if c = '\r' then .error (place + 1)
    else .error place

theorem longLiteralText_plain {c : Char} {s : List Char} (hc : isPlain c = true ∨ c = '\n')
    {place : Nat} (h : longLiteralText (place + c.utf8Size) s = .ok s) :
    longLiteralText place (c :: s) = .ok (c :: s) := by
  rw [longLiteralText.eq_3, if_pos hc, h]
  · rfl
  · rintro v rfl -
    rcases hc with h | h
    · cases h
    · cases h

/-- The length of the blanks and line breaks at the front of a text. -/
def foldLength : List Char → Nat
  | ' ' :: rest => foldLength rest + 1
  | '\t' :: rest => foldLength rest + 1
  | '\n' :: rest => foldLength rest + 1
  | '\r' :: '\n' :: rest => foldLength rest + 2
  | _ => 0

theorem foldLength_blank {c : Char} (hc : c = ' ' ∨ c = '\t') (rest : List Char) :
    foldLength (c :: rest) = foldLength rest + 1 := by
  rcases hc with rfl | rfl
  · rw [foldLength]
  · rw [foldLength]

/-- What a backslash at the end of a line takes away: its length in
characters; the line must end behind blanks. -/
def fold (place : Nat) (s : List Char) : Placed Nat :=
  let blanks := runLength isBlank s
  match s.drop blanks with
  | '\n' :: _ => .ok (foldLength s)
  | '\r' :: '\n' :: _ => .ok (foldLength s)
  | '\r' :: _ => .error (place + blanks + 1)
  | _ => .error (place + blanks)

/-- Does a backslash in front of this character end a line? -/
def foldsAt (c : Char) : Bool := isBlank c || c == '\n' || c == '\r'

/-- The characters of a long basic string at a place, between its
quotes. -/
def longBasicText (place : Nat) : List Char → Placed (List Char)
  | [] => .ok []
  | c :: rest =>
    if c = '\\' then
      if rest.head?.any foldsAt then do
        let count ← fold (place + 1) rest
        longBasicText (place + 1 + count) (rest.drop count)
      else do
        let (d, count) ← escape (place + 1) rest
        pure (d :: (← longBasicText (place + 1 + count) (rest.drop count)))
    else if isPlain c ∨ c = '\n' then do
      pure (c :: (← longBasicText (place + c.utf8Size) rest))
    else if c = '\r' then
      if rest.head? = some '\n' then do
        pure ('\r' :: '\n' :: (← longBasicText (place + 2) (rest.drop 1)))
      else .error (place + 1)
    else .error place
termination_by s => s.length
decreasing_by
  all_goals simp only [List.length_drop, List.length_cons]; omega

/-- A sign that is no backslash is taken as it is. -/
theorem longBasicText_plain {c : Char} {s t : List Char} (hslash : c ≠ '\\')
    (hc : isPlain c = true ∨ c = '\n') {place : Nat}
    (h : longBasicText (place + c.utf8Size) t = .ok s) :
    longBasicText place (c :: t) = .ok (c :: s) := by
  rw [longBasicText, if_neg hslash, if_pos hc, h]
  rfl

/-- What stands between opening quotes and closing quotes of a length; the
place of the end if the closing ones are missing. -/
def unquote (quote : Char) (count : Nat) (raw : List Char) : Placed (List Char) :=
  let inside := raw.drop count
  if count ≤ inside.length ∧ inside.drop (inside.length - count) = List.replicate count quote then
    .ok (inside.take (inside.length - count))
  else .error (width raw)

/-- Drops the line break behind the opening quotes of a long string, and
tells where the rest begins. -/
def dropBreak : List Char → Nat × List Char
  | '\n' :: rest => (4, rest)
  | '\r' :: '\n' :: rest => (5, rest)
  | rest => (3, rest)

/-- The characters of a quoted lexeme. -/
def Quotes.text (q : Quotes) (raw : List Char) : Placed (List Char) :=
  match q with
  | .basic => do basicText 1 (← unquote '"' 1 raw)
  | .literal => do literalText 1 (← unquote '\'' 1 raw)
  | .longBasic => do
    let (place, inside) := dropBreak (← unquote '"' 3 raw)
    longBasicText place inside
  | .longLiteral => do
    let (place, inside) := dropBreak (← unquote '\'' 3 raw)
    longLiteralText place inside

/-- May a character stand in a bare key? -/
def isBareKey (c : Char) : Bool :=
  ('a' ≤ c && c ≤ 'z') || ('A' ≤ c && c ≤ 'Z') || ('0' ≤ c && c ≤ '9') || c == '_' || c == '-'

/-- The name that a key lexeme stands for.  Keys are one line long. -/
def keyText (quotes : Option Quotes) (raw : List Char) : Placed (List Char) :=
  match quotes with
  | some .longBasic | some .longLiteral => .error 0
  | some q => q.text raw
  | none =>
    if raw ≠ [] ∧ raw.all isBareKey then .ok raw
    else .error (width (raw.takeWhile isBareKey))

end Toml

end OrderDesk
