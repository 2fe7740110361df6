/-
# `Url.Percent` — characters that a URL cannot hold as they are

Such a character is written as its octets in UTF-8, each behind a percent
sign as two hexadecimal digits.  Which characters these are depends on
the part of the URL; in every part they include the controls and all that
is not ASCII, so that an encoded text is ASCII.
-/
import OrderDesk.Utf8

namespace OrderDesk

namespace Percent

/-- A set of characters that are encoded. -/
abbrev Set := Char → Bool

/-- Controls and all that is not ASCII. -/
def controls : Set := fun c => c.toNat < 0x20 || 0x7E < c.toNat

/-- What is encoded behind the number sign. -/
def fragment : Set := fun c => controls c || " \"<>`".toList.contains c

/-- What is encoded behind the question mark; there is one sign more in the
schemes of the web and those that are read like them. -/
def query (special : Bool) : Set := fun c =>
  controls c || " \"#<>".toList.contains c || (special && c == '\'')

/-- What is encoded in a path that holds its own separators. -/
def path : Set := fun c => fragment c || "#?\x7b\x7d".toList.contains c

/-- What is encoded in a single segment of a path. -/
def segment : Set := fun c => path c || "/%\\".toList.contains c

/-- What is encoded in a user name or password. -/
def userinfo : Set := fun c => path c || "/:;=@[\\]^|".toList.contains c

/-- A hexadecimal digit in capitals. -/
def hexDigit (n : Nat) : Char := (Nat.digitChar (n % 16)).toUpper

/-- An octet behind a percent sign. -/
def octet (b : UInt8) : List Char := ['%', hexDigit (b.toNat / 16), hexDigit b.toNat]

/-- A character, encoded if it is in the set. -/
def encodeChar (set : Set) (c : Char) : List Char :=
  if set c then (String.utf8EncodeChar c).flatMap octet else [c]

/-- A text with the characters of the set encoded. -/
def encode (set : Set) (text : List Char) : List Char := text.flatMap (encodeChar set)

/-- The value of a hexadecimal digit among octets. -/
def digit? (b : UInt8) : Option UInt8 :=
  if 0x30 ≤ b ∧ b ≤ 0x39 then some (b - 0x30)
  else if 0x41 ≤ b ∧ b ≤ 0x46 then some (b - 0x37)
  else if 0x61 ≤ b ∧ b ≤ 0x66 then some (b - 0x57)
  else none

/-- The octets of an encoded text; a percent sign without two digits
stays. -/
def decode : List UInt8 → List UInt8
  | [] => []
  | b :: rest =>
    if b = 0x25 then
      match rest with
      | high :: low :: rest' =>
        match digit? high, digit? low with
        | some h, some l => (h * 16 + l) :: decode rest'
        | _, _ => b :: decode (high :: low :: rest')
      | short => b :: short
    else b :: decode rest
termination_by octets => octets.length

end Percent

end OrderDesk
