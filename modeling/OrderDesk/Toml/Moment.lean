/-
# `Toml.Moment` — dates and times

A date, a time, or both with `T` or a blank in between; a date with a
time may have an offset from universal time.  Days must exist in their
month, and a minute may have a sixty-first second.  The seconds may be
missing.
-/
import OrderDesk.Utf8

namespace OrderDesk

namespace Toml

/-- A number of exactly `count` digits, and the text behind it. -/
def fixedNumber? (count : Nat) (s : List Char) : Option (Nat × List Char) :=
  let digits := s.takeWhile Char.isDigit
  if digits.length = count then
    some (digits.foldl (fun n d => n * 10 + (d.toNat - '0'.toNat)) 0, s.drop count)
  else none

/-- A character, and the text behind it. -/
def expect? (c : Char) : List Char → Option (List Char)
  | d :: rest => if c = d then some rest else none
  | [] => none

/-- The number of days of a month. -/
def daysIn (year month : Nat) : Nat :=
  if month = 2 then
    if year % 4 = 0 ∧ (year % 100 ≠ 0 ∨ year % 400 = 0) then 29 else 28
  else if month = 4 ∨ month = 6 ∨ month = 9 ∨ month = 11 then 30
  else 31

/-- Reads a date. -/
def date? (s : List Char) : Option (List Char) := do
  let (year, s) ← fixedNumber? 4 s
  let (month, s) ← fixedNumber? 2 (← expect? '-' s)
  let (day, s) ← fixedNumber? 2 (← expect? '-' s)
  if 1 ≤ month ∧ month ≤ 12 ∧ 1 ≤ day ∧ day ≤ daysIn year month then pure s else none

/-- Reads the fraction of a second, if there is one. -/
def secondFraction? : List Char → Option (List Char)
  | '.' :: rest => if rest.head?.any Char.isDigit then some (rest.dropWhile Char.isDigit) else none
  | rest => some rest

/-- Reads a time. -/
def time? (s : List Char) : Option (List Char) := do
  let (hour, s) ← fixedNumber? 2 s
  let (minute, s) ← fixedNumber? 2 (← expect? ':' s)
  if 23 < hour ∨ 59 < minute then none
  else match s with
    | ':' :: s => do
      let (second, s) ← fixedNumber? 2 s
      if 60 < second then none else secondFraction? s
    | s => pure s

/-- Reads an offset from universal time, if there is one. -/
def offset? : List Char → Option (List Char)
  | [] => some []
  | c :: s =>
    if c = 'Z' ∨ c = 'z' then some s
    else if c = '+' ∨ c = '-' then do
      let (hours, s) ← fixedNumber? 2 s
      let (minutes, s) ← fixedNumber? 2 (← expect? ':' s)
      if 23 < hours ∨ 59 < minutes then none else pure s
    else none

/-- Is the text a date, a time, or both? -/
def isMoment (s : List Char) : Bool :=
  match (s.dropWhile Char.isDigit).head? with
  | some '-' =>
    match date? s with
    | none => false
    | some [] => true
    | some (c :: rest) =>
      (c == 'T' || c == 't' || c == ' ') && ((time? rest).bind offset?) == some []
  | _ => time? s == some []

end Toml

end OrderDesk
