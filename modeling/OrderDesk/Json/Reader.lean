/-
# `Json.Reader` — readers of single values

A reader takes the text in front of a value and answers the value and the
text behind it, which is shorter.  Every reader here wants one kind of
value and names what it found instead.
-/
import OrderDesk.Json.Record

namespace OrderDesk

namespace Json

open Utf8 (Piece)

/-- A reader of values. -/
structure Reader (α : Type) where
  read : List Piece → Except Fault (α × List Piece)
  shorter : ∀ {a s r}, read s = .ok (a, r) → r.length < s.length

/-- Readers whose failures have places. -/
def Reader.placed (read : List Piece → Outcome α)
    (shorter : ∀ {a s r}, read s = .ok (a, r) → r.length < s.length) : Reader α where
  read s :=
    match read s with
    | .ok p => .ok p
    | .error e => .error (.placed e)
  shorter {a s r} h := by
    split at h
    · next p hs =>
      cases h
      exact shorter hs
    · cases h

/-- Reads a string. -/
def text (s : List Piece) : Outcome String :=
  match skipSpace s with
  | [] => failAt .endOfValue []
  | .char '"' :: rest => mapValue String.ofList (string rest)
  | rest => .error (wrongType "a string" rest)

/-- Reads a number as an amount. -/
def amountValue (s : List Piece) : Outcome Binary64 :=
  match skipSpace s with
  | [] => failAt .endOfValue []
  | .char '-' :: rest => mapValue Number.toAmount (number true rest)
  | rest =>
    if startsWithDigit rest then mapValue Number.toAmount (number false rest)
    else .error (wrongType "f64" rest)

/-- Reads `true` or `false`. -/
def flag (s : List Piece) : Outcome Bool :=
  match skipSpace s with
  | [] => failAt .endOfValue []
  | .char 't' :: rest => (word "rue".toList rest).map (true, ·)
  | .char 'f' :: rest => (word "alse".toList rest).map (false, ·)
  | rest => .error (wrongType "a boolean" rest)

/-- Reads a string, or `null` for none. -/
def optionalText (s : List Piece) : Outcome (Option String) :=
  match skipSpace s with
  | .char 'n' :: rest => (word "ull".toList rest).map (none, ·)
  | rest => mapValue some (text rest)

theorem text_length {a : String} {s r : List Piece} (h : text s = .ok (a, r)) :
    r.length < s.length := by
  have hs := skipSpace_length s
  unfold text at h
  split at h
  · simp [failAt] at h
  · next heq =>
    obtain ⟨b, hb, _⟩ := mapValue_eq_ok h
    have := string_length hb
    rw [heq, List.length_cons] at hs
    omega
  · cases h

theorem amountValue_length {a : Binary64} {s r : List Piece} (h : amountValue s = .ok (a, r)) :
    r.length < s.length := by
  have hs := skipSpace_length s
  unfold amountValue at h
  split at h
  · simp [failAt] at h
  · next heq =>
    obtain ⟨b, hb, _⟩ := mapValue_eq_ok h
    have := number_length hb
    rw [heq, List.length_cons] at hs
    omega
  · split at h
    · obtain ⟨b, hb, _⟩ := mapValue_eq_ok h
      exact Nat.lt_of_lt_of_le (number_length hb) hs
    · cases h

theorem flag_length {a : Bool} {s r : List Piece} (h : flag s = .ok (a, r)) :
    r.length < s.length := by
  have hs := skipSpace_length s
  unfold flag at h
  split at h
  · simp [failAt] at h
  · next heq =>
    obtain ⟨b, hb, hr⟩ := map_ok h
    cases hr
    have := word_length hb
    rw [heq, List.length_cons] at hs
    omega
  · next heq =>
    obtain ⟨b, hb, hr⟩ := map_ok h
    cases hr
    have := word_length hb
    rw [heq, List.length_cons] at hs
    omega
  · cases h

theorem optionalText_length {a : Option String} {s r : List Piece}
    (h : optionalText s = .ok (a, r)) : r.length < s.length := by
  have hs := skipSpace_length s
  unfold optionalText at h
  split at h
  · next heq =>
    obtain ⟨b, hb, hr⟩ := map_ok h
    cases hr
    have := word_length hb
    rw [heq, List.length_cons] at hs
    omega
  · obtain ⟨b, hb, _⟩ := mapValue_eq_ok h
    exact Nat.lt_of_lt_of_le (text_length hb) hs

/-- The reader of strings. -/
def Reader.text : Reader String := .placed Json.text text_length

/-- The reader of amounts. -/
def Reader.amount : Reader Binary64 := .placed amountValue amountValue_length

/-- The reader of truth values. -/
def Reader.flag : Reader Bool := .placed Json.flag flag_length

/-- The reader of strings that may be missing. -/
def Reader.optionalText : Reader (Option String) := .placed Json.optionalText optionalText_length

/-- A field whose value goes through a reader into its place in the draft. -/
def Field.of (name : String) (get : D → Option α) (set : α → D → D) (reader : Reader α) :
    Field D where
  name := name
  known d := (get d).isSome
  read d s :=
    match reader.read s with
    | .error e => .error e
    | .ok (a, rest) => .ok (set a d, rest)
  shorter {d d' s r} h := by
    cases hs : reader.read s with
    | error e => simp [hs] at h
    | ok p =>
      simp only [hs, Except.ok.injEq, Prod.mk.injEq] at h
      obtain ⟨_, rfl⟩ := h
      exact reader.shorter (a := p.1) hs

/-- The value that a draft must have gathered under a name. -/
def require (name : String) : Option α → Except Cause α
  | some a => .ok a
  | none => .error (.missingField name)

end Json

end OrderDesk
