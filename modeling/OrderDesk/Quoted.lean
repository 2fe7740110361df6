/-
# `Quoted` — strings as they are shown to people

Between quotation marks, and so that every character can be told from
every other: line breaks, tabs, the quotation mark and the backslash have
escapes of two characters, and what leaves no mark of its own on paper,
or would attach itself to the mark before it, is shown by its code point
as `\u{…}`.
-/
import OrderDesk.Text.Printable
import OrderDesk.Text.Extender
import OrderDesk.Utf8

namespace OrderDesk

namespace Quoted

/-- A code point in hexadecimal between braces. -/
def codePoint (c : Char) : List Char :=
  '\\' :: 'u' :: '\x7b' :: (Nat.toDigits 16 c.toNat ++ ['\x7d'])

/-- A character inside the quotation marks. -/
def escapeChar (c : Char) : List Char :=
  if c = '\x00' then ['\\', '0']
  else if c = '\t' then ['\\', 't']
  else if c = '\r' then ['\\', 'r']
  else if c = '\n' then ['\\', 'n']
  else if c = '"' then ['\\', '"']
  else if c = '\\' then ['\\', '\\']
  else if Text.isExtender c || !Text.isPrintable c then codePoint c
  else [c]

/-- A string between its quotation marks. -/
def quote (s : List Char) : List Char := '"' :: (s.flatMap escapeChar ++ ['"'])

/-- A piece of a path: octets that are no text are shown by their numbers,
and the apostrophe has an escape of its own. -/
def escapePiece : Utf8.Piece → List Char
  | .char c => if c = '\'' then ['\\', '\''] else escapeChar c
  | .junk octets => octets.flatMap fun b =>
    '\\' :: 'x' :: [hexDigit (b.toNat / 16), hexDigit b.toNat]
where
  /-- An upper-case hexadecimal digit. -/
  hexDigit (n : Nat) : Char := (Nat.digitChar (n % 16)).toUpper

/-- A path between its quotation marks. -/
def path (p : List Utf8.Piece) : List Char := '"' :: (p.flatMap escapePiece ++ ['"'])

end Quoted

end OrderDesk
