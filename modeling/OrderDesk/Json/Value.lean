/-
# `Json.Value` — values as trees, and their two layouts

A number stays the text it is written with, so that writing loses
nothing and a reader decides what the text is worth.  Members of an
object keep their order; who wants them sorted sorts them first.

* `Value.compact` — no blanks at all;
* `Value.pretty`  — one member or element a line, two blanks a level.

Only the quotation mark, the backslash and the characters below U+0020
are escaped.
-/
import OrderDesk.Decimal.Notation

namespace OrderDesk

namespace Json

/-- A value. -/
inductive Value where
  | null
  | bool (b : Bool)
  | number (text : List Char)
  | string (s : List Char)
  | array (elements : List Value)
  | object (members : List (List Char × Value))

/-- A lower-case hexadecimal digit. -/
def hexDigit (n : Nat) : Char := Nat.digitChar (n % 16)

/-- A character inside a string. -/
def escapeChar (c : Char) : List Char :=
  if c = '"' then ['\\', '"']
  else if c = '\\' then ['\\', '\\']
  else if c = '\x08' then ['\\', 'b']
  else if c = '\x0c' then ['\\', 'f']
  else if c = '\n' then ['\\', 'n']
  else if c = '\r' then ['\\', 'r']
  else if c = '\t' then ['\\', 't']
  else if c.toNat < 0x20 then
    ['\\', 'u', '0', '0', hexDigit (c.toNat / 16), hexDigit c.toNat]
  else [c]

/-- A string between its quotation marks. -/
def quote (s : List Char) : List Char := '"' :: (s.flatMap escapeChar ++ ['"'])

namespace Value

/-- A string value. -/
def ofString (s : String) : Value := .string s.toList

/-- An amount, or `null` where there are no digits to write. -/
def ofAmount : Binary64 → Value
  | .finite negative units _ => .number (Notation.json.finite negative units)
  | _ => .null

/-- A natural number. -/
def ofNat (n : Nat) : Value := .number (Decimal.text n)

mutual

/-- The layout without blanks. -/
def compact : Value → List Char
  | .null => "null".toList
  | .bool true => "true".toList
  | .bool false => "false".toList
  | .number text => text
  | .string s => quote s
  | .array [] => ['[', ']']
  | .array (v :: vs) => '[' :: (v.compact ++ compactElements vs)
  | .object [] => ['\x7b', '\x7d']
  | .object ((name, v) :: ms) =>
    '\x7b' :: (quote name ++ ':' :: (v.compact ++ compactMembers ms))

/-- The elements behind the first, and the closing bracket. -/
def compactElements : List Value → List Char
  | [] => [']']
  | v :: vs => ',' :: (v.compact ++ compactElements vs)

/-- The members behind the first, and the closing brace. -/
def compactMembers : List (List Char × Value) → List Char
  | [] => ['\x7d']
  | (name, v) :: ms => ',' :: (quote name ++ ':' :: (v.compact ++ compactMembers ms))

end

/-- A line break and the blanks of a level. -/
def newline (level : Nat) : List Char := '\n' :: List.replicate (2 * level) ' '

mutual

/-- The layout with one member or element a line, inside `level` brackets. -/
def prettyAt (level : Nat) : Value → List Char
  | .array [] => ['[', ']']
  | .array (v :: vs) =>
    '[' :: (newline (level + 1) ++ v.prettyAt (level + 1) ++ prettyElements level vs)
  | .object [] => ['\x7b', '\x7d']
  | .object ((name, v) :: ms) =>
    '\x7b' :: (newline (level + 1) ++ quote name ++ ':' :: ' ' ::
      (v.prettyAt (level + 1) ++ prettyMembers level ms))
  | .null => compact .null
  | .bool b => compact (.bool b)
  | .number text => text
  | .string s => quote s

/-- The elements behind the first, and the closing bracket. -/
def prettyElements (level : Nat) : List Value → List Char
  | [] => newline level ++ [']']
  | v :: vs => ',' :: (newline (level + 1) ++ v.prettyAt (level + 1) ++ prettyElements level vs)

/-- The members behind the first, and the closing brace. -/
def prettyMembers (level : Nat) : List (List Char × Value) → List Char
  | [] => newline level ++ ['\x7d']
  | (name, v) :: ms =>
    ',' :: (newline (level + 1) ++ quote name ++ ':' :: ' ' ::
      (v.prettyAt (level + 1) ++ prettyMembers level ms))

end

/-- The layout over several lines. -/
def pretty (v : Value) : List Char := v.prettyAt 0

end Value

end Json

end OrderDesk
