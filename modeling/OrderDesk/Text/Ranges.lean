/-
# `Text.Ranges` — sets of characters as tables

A property of characters that no rule of arithmetic describes is kept as
a table: rows of ranges of code points in ascending order, in hexadecimal
with a blank between two ranges, `61-7a 7f`.  `Ranges.ofRows` reads such
a table and `Ranges.has` looks a character up in it.
-/
namespace OrderDesk

/-- The value of a hexadecimal numeral; what is no digit counts as zero. -/
def hexValue (text : String) : Nat :=
  text.toList.foldl (fun n c =>
    n * 16 + (if '0' ≤ c ∧ c ≤ '9' then c.toNat - '0'.toNat
      else if 'a' ≤ c ∧ c ≤ 'f' then c.toNat - 'a'.toNat + 10 else 0)) 0

/-- Ranges of code points, both ends included. -/
abbrev Ranges := List (Nat × Nat)

/-- One range of a table. -/
def Ranges.entry (text : String) : Nat × Nat :=
  match text.splitOn "-" with
  | [low, high] => (hexValue low, hexValue high)
  | _ => (hexValue text, hexValue text)

/-- Reads a table. -/
def Ranges.ofRows (rows : List String) : Ranges :=
  rows.flatMap fun row => (row.splitOn " ").map Ranges.entry

/-- Is the character in one of the ranges? -/
def Ranges.has (ranges : Ranges) (c : Char) : Bool :=
  ranges.any fun (low, high) => low ≤ c.toNat && c.toNat ≤ high

end OrderDesk
