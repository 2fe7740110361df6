/-
# `Json.Failure` — why a JSON text is not a value of the wanted kind

A cause is a slip of grammar, an early end, or a well-formed value of
another kind than the one wanted.  A failure is a cause and the number of
octets that were still ahead when it was noticed, from which line and
column follow once the whole text is at hand.  What is wrong with a whole
record is noticed without a place; the record's reader then gives it the
place behind the record.
-/
import OrderDesk.Utf8
import OrderDesk.Binary64

namespace OrderDesk

namespace Json

/-- A number as the reader keeps it: a whole number in the range of 64-bit
integers, or an amount. -/
inductive Number where
  | natural (n : Nat)
  | negative (n : Nat)
  | amount (x : Binary64)
  deriving DecidableEq

/-- A value that was met instead of the wanted one. -/
inductive Found where
  | null
  | bool (b : Bool)
  | number (n : Number)
  | string (s : List Char)
  | array
  | object
  deriving DecidableEq

/-- What is wrong with a text. -/
inductive Cause where
  | endOfValue
  | endOfList
  | endOfObject
  | endOfString
  | expectedColon
  | expectedListCommaOrEnd
  | expectedObjectCommaOrEnd
  | expectedIdent
  | expectedValue
  | expectedKey
  | invalidEscape
  | invalidNumber
  | invalidUnicode
  | numberOutOfRange
  | controlCharacter
  | loneSurrogate
  | endOfHexEscape
  | trailingComma
  | trailingCharacters
  | recursionLimit
  | missingField (name : String)
  | duplicateField (name : String)
  | unknownVariant (name : List Char) (known : List String)
  | wrongType (found : Found) (wanted : String)
  | wrongLength (found : Nat) (wanted : String)
  | noVariant (wanted : String)
  deriving DecidableEq

/-- Whether a cause is an early end, a slip of grammar, or a value of the
wrong kind. -/
inductive Category where
  | early
  | grammar
  | value
  deriving DecidableEq, Repr

/-- The category of a cause. -/
def Cause.category : Cause → Category
  | .endOfValue | .endOfList | .endOfObject | .endOfString => .early
  | .missingField _ | .duplicateField _ | .unknownVariant .. | .wrongType .. | .wrongLength ..
  | .noVariant _ => .value
  | _ => .grammar

/-- A cause and the number of octets ahead when it was noticed. -/
structure Failure where
  cause : Cause
  ahead : Nat
  deriving DecidableEq

/-- What a reader answers: a value and the text behind it. -/
abbrev Outcome (α : Type) := Except Failure (α × List Utf8.Piece)

/-- A failure noticed in front of the text `s`. -/
def failAt (cause : Cause) (s : List Utf8.Piece) : Except Failure α :=
  .error ⟨cause, Utf8.size s⟩

/-- A failure noticed on the next octet of `s`, which counts as read if
there is one. -/
def failOn (cause : Cause) (s : List Utf8.Piece) : Except Failure α :=
  .error ⟨cause, Utf8.size s - 1⟩

/-- The same outcome with another value. -/
def mapValue (f : α → β) : Outcome α → Outcome β
  | .error e => .error e
  | .ok (a, rest) => .ok (f a, rest)

theorem mapValue_eq_ok {f : α → β} {x : Outcome α} {b : β} {r : List Utf8.Piece}
    (h : mapValue f x = .ok (b, r)) : ∃ a, x = .ok (a, r) ∧ f a = b := by
  cases x with
  | error e => cases h
  | ok p =>
    obtain ⟨a, rest⟩ := p
    cases h
    exact ⟨a, rfl, rfl⟩

end Json

end OrderDesk
