/-
# `Json.Skip` — values that nobody asked for

A member of an unknown name is passed over, but its value must be well
formed.  The values nest without limit, so the brackets that are open are
kept in a list and the three states of the walk (a value is due, a value
has ended, a name is due) are three functions on the text.  Numbers are
not evaluated here and strings not decoded.
-/
import OrderDesk.Json.Number

namespace OrderDesk

namespace Json

open Utf8 (Piece)

/-- An open bracket. -/
inductive Bracket where
  | array
  | object
  deriving DecidableEq, Repr

/-- A name and its colon, behind the opening quote of the name. -/
def skipName (s : List Piece) : Except Failure (List Piece) :=
  match skipString s with
  | .error e => .error e
  | .ok rest =>
    match skipSpace rest with
    | .char ':' :: rest => .ok rest
    | [] => failAt .endOfObject []
    | rest => failOn .expectedColon rest

theorem skipName_length {s r : List Piece} (h : skipName s = .ok r) : r.length < s.length := by
  unfold skipName at h
  split at h
  · cases h
  · next rest hs =>
    have := skipString_length hs
    have := skipSpace_length rest
    split at h
    · next hr => cases h; rw [hr] at this; simp only [List.length_cons] at this; omega
    · simp [failAt] at h
    · simp [failOn] at h

/-- A value that holds no other, or the bracket that begins one that
does, and the text behind. -/
def skipAtom (s : List Piece) : Except Failure (Option Bracket × List Piece) :=
  match s with
  | [] => failAt .endOfValue []
  | .char 'n' :: rest => (word "ull".toList rest).map (none, ·)
  | .char 't' :: rest => (word "rue".toList rest).map (none, ·)
  | .char 'f' :: rest => (word "alse".toList rest).map (none, ·)
  | .char '-' :: rest => (skipNumber rest).map (none, ·)
  | .char '"' :: rest => (skipString rest).map (none, ·)
  | .char '[' :: rest => .ok (some .array, rest)
  | .char '\x7b' :: rest => .ok (some .object, rest)
  | p :: rest =>
    if (digit? p).isSome then (skipNumber (p :: rest)).map (none, ·)
    else failOn .expectedValue (p :: rest)

theorem map_ok {x : Except Failure α} {f : α → β} {b : β} (h : x.map f = .ok b) :
    ∃ a, x = .ok a ∧ f a = b := by
  cases x with
  | error e => cases h
  | ok a => exact ⟨a, rfl, by simpa [Except.map] using h⟩

/-- Behind its first piece an atom takes nothing back. -/
theorem atom_length {x : Except Failure (List Piece)} {p : Piece} {rest r : List Piece}
    {b : Option Bracket} (hx : ∀ {a}, x = .ok a → a.length ≤ rest.length)
    (h : x.map (none, ·) = .ok (b, r)) : r.length < (p :: rest).length := by
  obtain ⟨a, ha, hb⟩ := map_ok h
  cases hb
  exact Nat.lt_succ_of_le (hx ha)

theorem skipAtom_length {s r : List Piece} {b : Option Bracket} (h : skipAtom s = .ok (b, r)) :
    r.length < s.length := by
  unfold skipAtom at h
  split at h
  · simp [failAt] at h
  · exact atom_length word_length h
  · exact atom_length word_length h
  · exact atom_length word_length h
  · exact atom_length (fun ha => Nat.le_of_lt (skipNumber_length ha)) h
  · exact atom_length (fun ha => Nat.le_of_lt (skipString_length ha)) h
  · cases h
    exact Nat.lt_succ_self _
  · cases h
    exact Nat.lt_succ_self _
  · split at h
    · obtain ⟨a, ha, hb⟩ := map_ok h
      cases hb
      exact skipNumber_length ha
    · simp [failOn] at h

/-- The early end of a text inside a bracket. -/
def Bracket.early : Bracket → Cause
  | .array => .endOfList
  | .object => .endOfObject

/-- What is missing between two values inside a bracket. -/
def Bracket.missing : Bracket → Cause
  | .array => .expectedListCommaOrEnd
  | .object => .expectedObjectCommaOrEnd

/-- The character that closes a bracket. -/
def Bracket.close : Bracket → Char
  | .array => ']'
  | .object => '\x7d'

/-- Reads a name and its colon where a name is due. -/
def skipMemberName (s : List Piece) : Except Failure (List Piece) :=
  match skipSpace s with
  | .char '"' :: rest => skipName rest
  | [] => failAt .endOfObject []
  | rest => failOn .expectedKey rest

theorem skipMemberName_length {s r : List Piece} (h : skipMemberName s = .ok r) :
    r.length < s.length := by
  unfold skipMemberName at h
  have := skipSpace_length s
  split at h
  · next hs =>
    rw [hs] at this
    have := skipName_length h
    simp only [List.length_cons] at *
    omega
  · simp [failAt] at h
  · simp [failOn] at h

mutual

/-- A value is due. -/
def skipValue (pending : List Bracket) (s : List Piece) : Except Failure (List Piece) :=
  match ha : skipAtom (skipSpace s) with
  | .error e => .error e
  | .ok (none, rest) =>
    have : rest.length < s.length := Nat.lt_of_lt_of_le (skipAtom_length ha) (skipSpace_length s)
    skipRest pending rest
  | .ok (some b, rest) =>
    have : rest.length < s.length := Nat.lt_of_lt_of_le (skipAtom_length ha) (skipSpace_length s)
    match hr : skipSpace rest with
    | [] => failAt b.early []
    | p :: rest' =>
      have : rest'.length < s.length := by
        have := skipSpace_length rest
        rw [hr] at this
        simp only [List.length_cons] at this
        omega
      if p = .char b.close then skipRest pending rest'
      else match b with
        | .array => skipValue (.array :: pending) rest
        | .object =>
          match hn : skipMemberName rest with
          | .error e => .error e
          | .ok rest'' =>
            have := skipMemberName_length hn
            skipValue (.object :: pending) rest''
termination_by s.length

/-- A value has ended inside the open brackets. -/
def skipRest (pending : List Bracket) (s : List Piece) : Except Failure (List Piece) :=
  match pending with
  | [] => .ok s
  | b :: outer =>
    match hs : skipSpace s with
    | [] => failAt b.early []
    | p :: rest =>
      have : rest.length < s.length := by
        have := skipSpace_length s
        rw [hs] at this
        simp only [List.length_cons] at this
        omega
      if p = .char ',' then
        match b with
        | .array => skipValue (b :: outer) rest
        | .object =>
          match hn : skipMemberName rest with
          | .error e => .error e
          | .ok rest' =>
            have := skipMemberName_length hn
            skipValue (b :: outer) rest'
      else if p = .char b.close then skipRest outer rest
      else failOn b.missing (p :: rest)
termination_by s.length

end

end Json

end OrderDesk
