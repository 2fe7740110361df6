/-
# `DomainName.Punycode` — labels in ASCII

A label with other characters is written as its ASCII characters, a
hyphen if there are any, and digits that say where the other characters
go.  These are inserted in the order of their code points; each takes one
number, the distance from the previous insertion when all places and
code points are counted through.

A number is written to base 36, least digit first, and a digit below the
*threshold* of its place is the last one.  The thresholds follow a *bias*
that adapts to the numbers seen.
-/
namespace OrderDesk

namespace DomainName

namespace Punycode

/-- The character of a digit. -/
def digitChar (d : Nat) : Char :=
  if d < 26 then Char.ofNat ('a'.toNat + d) else Char.ofNat ('0'.toNat + (d - 26))

/-- The value of a digit. -/
def digit? (c : Char) : Option Nat :=
  if 'a' ≤ c ∧ c ≤ 'z' then some (c.toNat - 'a'.toNat)
  else if 'A' ≤ c ∧ c ≤ 'Z' then some (c.toNat - 'A'.toNat)
  else if '0' ≤ c ∧ c ≤ '9' then some (c.toNat - '0'.toNat + 26)
  else none

/-- The threshold of a place, of which the first counts as 36. -/
def threshold (place bias : Nat) : Nat :=
  if place ≤ bias then 1 else if bias + 26 ≤ place then 26 else place - bias

theorem threshold_pos (place bias : Nat) : 1 ≤ threshold place bias := by
  unfold threshold
  split
  · exact Nat.le_refl 1
  · split <;> omega

/-- Divides by 35 until at most 455 is left, and counts the places. -/
def shrink (delta places : Nat) : Nat × Nat :=
  if 455 < delta then shrink (delta / 35) (places + 36) else (delta, places)
termination_by delta
decreasing_by omega

/-- The bias behind a number, with `count` characters placed. -/
def adapt (delta count : Nat) (first : Bool) : Nat :=
  let delta := if first then delta / 700 else delta / 2
  let (delta, places) := shrink (delta + delta / count) 0
  places + 36 * delta / (delta + 38)

/-- The digits of a number from a place on. -/
def digits (bias place number : Nat) : List Char :=
  let t := threshold place bias
  if number < t then [digitChar number]
  else digitChar (t + (number - t) % (36 - t)) ::
    digits bias (place + 36) ((number - t) / (36 - t))
termination_by number
decreasing_by
  have := threshold_pos place bias
  have := Nat.div_le_self (number - threshold place bias) (36 - threshold place bias)
  omega

/-- The state of writing: the bias, the number so far, and how many
characters are placed. -/
structure Pen where
  bias : Nat
  delta : Nat
  placed : Nat

/-- Passes through a label once, writing the places of one character. -/
def pass (basic : Nat) (c : Char) (pen : Pen) : List Char → List Char × Pen
  | [] => ([], pen)
  | d :: rest =>
    if d < c then pass basic c { pen with delta := pen.delta + 1 } rest
    else if d = c then
      let number := digits pen.bias 36 pen.delta
      let bias := adapt pen.delta (pen.placed + 1) (pen.placed == basic)
      let (text, pen) := pass basic c ⟨bias, 0, pen.placed + 1⟩ rest
      (number ++ text, pen)
    else pass basic c pen rest

/-- Passes through a label for each of its other characters in order. -/
def passes (basic : Nat) (label : List Char) (least : Nat) (pen : Pen) : List Char → List Char
  | [] => []
  | c :: others =>
    let start := { pen with delta := pen.delta + (c.toNat - least) * (pen.placed + 1) }
    let (text, pen) := pass basic c start label
    text ++ passes basic label (c.toNat + 1) { pen with delta := pen.delta + 1 } others

/-- Puts a character into an ascending list without repetitions. -/
def insertOnce (c : Char) : List Char → List Char
  | [] => [c]
  | d :: rest =>
    if c < d then c :: d :: rest else if c = d then d :: rest else d :: insertOnce c rest

/-- A label in ASCII. -/
def encode (label : List Char) : List Char :=
  let basic := label.filter fun c => c.toNat < 0x80
  let others := (label.filter fun c => 0x80 ≤ c.toNat).foldr insertOnce []
  basic ++ (if basic = [] then [] else ['-']) ++
    passes basic.length label 0x80 ⟨72, 0, basic.length⟩ others

/-- Reads a number from a place on. -/
def number? (bias place weight value : Nat) : List Char → Option (Nat × List Char)
  | [] => none
  | c :: rest =>
    match digit? c with
    | none => none
    | some d =>
      let t := threshold place bias
      if d < t then some (value + d * weight, rest)
      else number? bias (place + 36) (weight * (36 - t)) (value + d * weight) rest

theorem number?_length {bias place weight value n : Nat} {text rest : List Char}
    (h : number? bias place weight value text = some (n, rest)) : rest.length < text.length := by
  induction text generalizing place weight value with
  | nil => simp [number?] at h
  | cons c text ih =>
    rw [number?] at h
    split at h
    · cases h
    · dsimp only at h
      split at h
      · simp only [Option.some.injEq, Prod.mk.injEq] at h
        rw [← h.2]
        exact Nat.lt_succ_self _
      · exact Nat.lt_succ_of_lt (ih h)

/-- Inserts the characters that the digits stand for. -/
def insertions (bias point index : Nat) (label : List Char) (text : List Char) :
    Option (List Char) :=
  match text with
  | [] => some label
  | c :: rest =>
    match h : number? bias 36 1 index (c :: rest) with
    | none => none
    | some (index', rest') =>
      have := number?_length h
      let count := label.length + 1
      let point' := point + index' / count
      let place := index' % count
      if point'.isValidChar then
        insertions (adapt (index' - index) count (index == 0)) point' (place + 1)
          (label.insertIdx place (Char.ofNat point')) rest'
      else none
termination_by text.length
decreasing_by
  have := number?_length h
  simp only [List.length_cons] at this ⊢
  omega

/-- The label of a text in ASCII. -/
def decode (text : List Char) : Option (List Char) :=
  let digits := (text.reverse.takeWhile (· ≠ '-')).reverse
  let basic := (text.take (text.length - digits.length)).dropLast
  if basic.any fun c => 0x80 ≤ c.toNat then none
  else insertions 72 0x80 0 basic digits

end Punycode

end DomainName

end OrderDesk
