/-
# `Json.Members` — from one member or element to the next

`nextName` and `nextElement` find what comes next inside a bracket: the
name of the next member (its colon is read by `colon`), the next element,
or the closing bracket.  `afterClose` is the text behind the attempt to
close a bracket early, which is where a failure without a place of its
own is put.

`content` reads a value of any kind and tells texts and numbers from the
rest.  Unlike a value that is passed over, its strings are decoded, its
numbers evaluated, and its brackets may nest only so deep.
-/
import OrderDesk.Json.Skip

namespace OrderDesk

namespace Json

open Utf8 (Piece)

/-- The name of the next member and the text behind it, or no name and the
text behind the closing brace. -/
def nextName (first : Bool) (s : List Piece) : Outcome (Option (List Char)) :=
  match skipSpace s with
  | [] => failAt .endOfObject []
  | .char '\x7d' :: rest => .ok (none, rest)
  | .char ',' :: rest =>
    if first then failOn .expectedKey (.char ',' :: rest)
    else match skipSpace rest with
      | [] => failAt .endOfValue []
      | .char '"' :: rest => mapValue some (string rest)
      | .char '\x7d' :: rest => failOn .trailingComma (.char '\x7d' :: rest)
      | rest => failOn .expectedKey rest
  | .char '"' :: rest =>
    if first then mapValue some (string rest)
    else failOn .expectedObjectCommaOrEnd (.char '"' :: rest)
  | rest => failOn (if first then .expectedKey else .expectedObjectCommaOrEnd) rest

/-- The colon behind a name. -/
def colon (s : List Piece) : Except Failure (List Piece) :=
  match skipSpace s with
  | [] => failAt .endOfObject []
  | .char ':' :: rest => .ok rest
  | rest => failOn .expectedColon rest

/-- Whether there is a next element, and the text in front of it or behind
the closing bracket. -/
def nextElement (first : Bool) (s : List Piece) : Outcome Bool :=
  match skipSpace s with
  | [] => failAt .endOfList []
  | .char ']' :: rest => .ok (false, rest)
  | .char ',' :: rest =>
    if first then .ok (true, .char ',' :: rest)
    else match skipSpace rest with
      | [] => failAt .endOfValue []
      | .char ']' :: rest => failOn .trailingComma (.char ']' :: rest)
      | rest => .ok (true, rest)
  | rest => if first then .ok (true, rest) else failOn .expectedListCommaOrEnd rest

/-- The text behind the attempt to close a bracket whose contents were
given up in front of `s`. -/
def afterClose (b : Bracket) (s : List Piece) : List Piece :=
  match b, skipSpace s with
  | .object, .char '\x7d' :: rest => rest
  | .array, .char ']' :: rest => rest
  | .array, .char ',' :: rest => skipSpace rest
  | _, rest => rest

theorem nextName_length {first : Bool} {s r : List Piece} {name : Option (List Char)}
    (h : nextName first s = .ok (name, r)) : r.length < s.length := by
  unfold nextName at h
  have hs := skipSpace_length s
  split at h
  · simp [failAt] at h
  · next heq => cases h; rw [heq] at hs; exact Nat.lt_of_succ_le hs
  · next rest heq =>
    have := skipSpace_length rest
    rw [heq, List.length_cons] at hs
    split at h
    · simp [failOn] at h
    · split at h
      · simp [failAt] at h
      · next hr =>
        obtain ⟨a, ha, _⟩ := mapValue_eq_ok h
        have := string_length ha
        simp_all
        omega
      · simp [failOn] at h
      · simp [failOn] at h
  · next rest heq =>
    rw [heq, List.length_cons] at hs
    split at h
    · obtain ⟨a, ha, _⟩ := mapValue_eq_ok h
      have := string_length ha
      omega
    · simp [failOn] at h
  · simp [failOn] at h

theorem colon_length {s r : List Piece} (h : colon s = .ok r) : r.length < s.length := by
  unfold colon at h
  have hs := skipSpace_length s
  split at h
  · simp [failAt] at h
  · next heq => cases h; rw [heq] at hs; exact Nat.lt_of_succ_le hs
  · simp [failOn] at h

theorem nextElement_length {first more : Bool} {s r : List Piece}
    (h : nextElement first s = .ok (more, r)) :
    r.length ≤ s.length ∧ (first = false ∨ more = false → r.length < s.length) := by
  unfold nextElement at h
  have hs := skipSpace_length s
  split at h
  · simp [failAt] at h
  · next heq => cases h; rw [heq] at hs; simp only [List.length_cons] at hs; omega
  · next rest heq =>
    have := skipSpace_length rest
    rw [heq, List.length_cons] at hs
    split at h
    · cases h; simp_all
    · split at h
      · simp [failAt] at h
      · simp [failOn] at h
      · cases h; omega
  · split at h
    · cases h; simp_all
    · simp [failOn] at h

/-- A value that holds no other, with its string decoded or its number
evaluated, or the bracket that begins one that does. -/
def readAtom (s : List Piece) : Except Failure (Option Bracket × List Piece) :=
  match s with
  | [] => failAt .endOfValue []
  | .char 'n' :: rest => (word "ull".toList rest).map (none, ·)
  | .char 't' :: rest => (word "rue".toList rest).map (none, ·)
  | .char 'f' :: rest => (word "alse".toList rest).map (none, ·)
  | .char '-' :: rest => mapValue (fun _ => none) (number true rest)
  | .char '"' :: rest => mapValue (fun _ => none) (string rest)
  | .char '[' :: rest => .ok (some .array, rest)
  | .char '\x7b' :: rest => .ok (some .object, rest)
  | p :: rest =>
    if (digit? p).isSome then mapValue (fun _ => none) (number false (p :: rest))
    else failOn .expectedValue (p :: rest)

theorem readAtom_length {s r : List Piece} {b : Option Bracket} (h : readAtom s = .ok (b, r)) :
    r.length < s.length := by
  unfold readAtom at h
  split at h
  · simp [failAt] at h
  · obtain ⟨a, ha, hb⟩ := map_ok h; cases hb; exact Nat.lt_succ_of_le (word_length ha)
  · obtain ⟨a, ha, hb⟩ := map_ok h; cases hb; exact Nat.lt_succ_of_le (word_length ha)
  · obtain ⟨a, ha, hb⟩ := map_ok h; cases hb; exact Nat.lt_succ_of_le (word_length ha)
  · obtain ⟨a, ha, _⟩ := mapValue_eq_ok h
    exact Nat.lt_succ_of_lt (number_length ha)
  · obtain ⟨a, ha, _⟩ := mapValue_eq_ok h
    exact Nat.lt_succ_of_lt (string_length ha)
  · cases h; simp
  · cases h; simp
  · split at h
    · obtain ⟨a, ha, _⟩ := mapValue_eq_ok h
      exact number_length ha
    · simp [failOn] at h

/-- How deep the brackets of a decoded value may nest, the record around
it included. -/
def depthLimit : Nat := 127

mutual

/-- A decoded value is due inside the open brackets. -/
def checkValue (pending : List Bracket) (s : List Piece) : Except Failure (List Piece) :=
  match ha : readAtom (skipSpace s) with
  | .error e => .error e
  | .ok (none, rest) =>
    have : rest.length < s.length := Nat.lt_of_lt_of_le (readAtom_length ha) (skipSpace_length s)
    checkRest true pending rest
  | .ok (some b, rest) =>
    have : rest.length < s.length := Nat.lt_of_lt_of_le (readAtom_length ha) (skipSpace_length s)
    if pending.length + 1 = depthLimit then failOn .recursionLimit (skipSpace s)
    else checkRest false (b :: pending) rest
termination_by (s.length, 0)

/-- The next value inside the open brackets is due, or the innermost of
them ends; `later` says whether a value came before. -/
def checkRest (later : Bool) (pending : List Bracket) (s : List Piece) :
    Except Failure (List Piece) :=
  match pending with
  | [] => .ok s
  | .array :: outer =>
    match hn : nextElement (!later) s with
    | .error e => .error e
    | .ok (false, rest) =>
      have : rest.length < s.length := (nextElement_length hn).2 (.inr rfl)
      checkRest true outer rest
    | .ok (true, rest) =>
      have : rest.length ≤ s.length := (nextElement_length hn).1
      checkValue (.array :: outer) rest
  | .object :: outer =>
    match hn : nextName (!later) s with
    | .error e => .error e
    | .ok (none, rest) =>
      have : rest.length < s.length := nextName_length hn
      checkRest true outer rest
    | .ok (some _, rest) =>
      have : rest.length < s.length := nextName_length hn
      match hc : colon rest with
      | .error e => .error e
      | .ok rest' =>
        have : rest'.length < rest.length := colon_length hc
        checkValue (.object :: outer) rest'
termination_by (s.length, 1)
decreasing_by
  all_goals first
    | (apply Prod.Lex.left; omega)
    | (rcases Nat.lt_or_eq_of_le this with hlt | heq
       · exact Prod.Lex.left _ _ hlt
       · rw [heq]; exact Prod.Lex.right _ (by decide))

end

/-- What a decoded value of any kind turned out to be. -/
inductive Content where
  | text (s : List Char)
  | number (n : Number)
  | other
  deriving DecidableEq

/-- Reads a value of any kind. -/
def content (s : List Piece) : Outcome Content :=
  match skipSpace s with
  | .char '"' :: rest => mapValue .text (string rest)
  | .char '-' :: rest => mapValue .number (number true rest)
  | rest =>
    if startsWithDigit rest then mapValue .number (number false rest)
    else (checkValue [] rest).map (.other, ·)

theorem content_length {c : Content} {s r : List Piece} (h : content s = .ok (c, r))
    (hc : c ≠ .other) : r.length < s.length := by
  have hs := skipSpace_length s
  unfold content at h
  split at h
  · next heq =>
    obtain ⟨a, ha, _⟩ := mapValue_eq_ok h
    have := string_length ha
    rw [heq, List.length_cons] at hs
    omega
  · next heq =>
    obtain ⟨a, ha, _⟩ := mapValue_eq_ok h
    have := number_length ha
    rw [heq, List.length_cons] at hs
    omega
  · split at h
    · obtain ⟨a, ha, _⟩ := mapValue_eq_ok h
      exact Nat.lt_of_lt_of_le (number_length ha) hs
    · obtain ⟨a, ha, hr⟩ := map_ok h
      cases hr
      exact absurd rfl hc

end Json

end OrderDesk
