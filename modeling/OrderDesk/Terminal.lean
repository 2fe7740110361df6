/-
# `Terminal` — text without control sequences

A terminal does not show every character that it is sent.  An escape
character opens a control sequence, which reaches up to its final
character; outside of sequences the control characters are not shown
either, blanks and line breaks apart.  Text for people that quotes what
somebody typed is sent without both.
-/
namespace OrderDesk

namespace Terminal

/-- Where a terminal is: outside of control sequences, or inside of one
of these kinds. -/
inductive Mode where
  /-- Outside of control sequences. -/
  | ground
  /-- Directly behind an escape character. -/
  | escape
  /-- In an escape sequence that has begun with a mark. -/
  | marked
  /-- In a sequence of parameters. -/
  | parameters
  /-- In a string that a bell ends. -/
  | bell
  /-- In a string that only an escape character or a cancelling one ends. -/
  | string
  deriving DecidableEq, Repr

/-- Is this a blank or a line break in ASCII? -/
def isBreak (c : Char) : Bool := c = '\t' || c = '\n' || c = '\x0c' || c = '\r'

/-- Is the character shown outside of control sequences? -/
def isShown (c : Char) : Bool := isBreak c || (' ' ≤ c && c ≠ '\x7f')

/-- The mode behind a character that is not shown. -/
def next (m : Mode) (c : Char) : Mode :=
  if c = '\x1b' then .escape
  else if c = '\x18' || c = '\x1a' then .ground
  else match m with
    | .ground => .ground
    | .escape =>
      if c = '[' then .parameters
      else if c = ']' then .bell
      else if c = 'P' || c = 'X' || c = '^' || c = '_' then .string
      else if ' ' ≤ c && c ≤ '/' then .marked
      else if '0' ≤ c && c ≤ '~' then .ground
      else .escape
    | .marked => if '0' ≤ c && c ≤ '~' then .ground else .marked
    | .parameters => if '@' ≤ c && c ≤ '~' then .ground else .parameters
    | .bell => if c = '\x07' then .ground else .bell
    | .string => .string

/-- Does the terminal show the character in this mode?  Line breaks are
shown in short sequences too, and end them. -/
def shows (m : Mode) (c : Char) : Bool :=
  match m with
  | .ground => isShown c
  | .escape | .marked | .parameters => isBreak c
  | .bell | .string => false

/-- The characters of a text that a terminal shows. -/
def shownFrom (m : Mode) : List Char → List Char
  | [] => []
  | c :: rest => if shows m c then c :: shownFrom .ground rest else shownFrom (next m c) rest

/-- A text as a terminal shows it. -/
def shown (s : String) : String := String.ofList (shownFrom .ground s.toList)

end Terminal

end OrderDesk
