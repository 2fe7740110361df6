/-
# `Json.Record` — records read member by member

A `Format` lists the fields of a record in order.  The record may be
written as an object, whose members come in any order and whose unknown
members are passed over, or as an array of exactly its fields in order.
The text is read once from front to back, so the first fault in it is the
one reported: a repeated field as soon as its name is read, a missing
one at the closing brace.

A fault that has no place of its own (a repeated field, a value of no
accepted kind) is put behind the attempt to close the record.
-/
import OrderDesk.Json.Members

namespace OrderDesk

namespace Json

open Utf8 (Piece)

/-- A fault while a record is read: one that has its place, or one that
has only a cause and the text it was noticed in front of. -/
inductive Fault where
  | placed (failure : Failure)
  | loose (cause : Cause) (rest : List Piece)

/-- One field of a record that is gathered in a draft. -/
structure Field (Draft : Type) where
  name : String
  /-- Does the draft have this field? -/
  known : Draft → Bool
  /-- Reads the value of the field into the draft. -/
  read : Draft → List Piece → Except Fault (Draft × List Piece)
  shorter : ∀ {d d' s r}, read d s = .ok (d', r) → r.length < s.length

/-- How a record is written. -/
structure Format (Draft Result : Type) where
  /-- What an error calls the record. -/
  name : String
  fields : List (Field Draft)
  blank : Draft
  /-- The finished record, or the first field that is missing. -/
  finish : Draft → Except Cause Result

/-- The field of a name. -/
def Format.field? (f : Format D R) (name : List Char) : Option (Field D) :=
  f.fields.find? fun field => field.name.toList == name

/-- Skipping takes its share of every text with fewer than `n` pieces: of a
value there is at least one, while nothing may be left to skip behind one. -/
def SkipsBelow (n : Nat) : Prop :=
  ∀ s : List Piece, s.length < n →
    (∀ pending r, skipValue pending s = .ok r → r.length < s.length) ∧
    (∀ pending r, skipRest pending s = .ok r → r.length ≤ s.length)

section Skips

variable {pending : List Bracket} {s r : List Piece}

theorem SkipsBelow.value (ih : SkipsBelow s.length) (h : skipValue pending s = .ok r) :
    r.length < s.length := by
  have hspace := skipSpace_length s
  rw [skipValue] at h
  split at h
  · cases h
  · next rest ha =>
    have hlt := Nat.lt_of_lt_of_le (skipAtom_length ha) hspace
    exact Nat.lt_of_le_of_lt ((ih rest hlt).2 _ _ h) hlt
  · next b rest ha =>
    have hlt := Nat.lt_of_lt_of_le (skipAtom_length ha) hspace
    have hr := skipSpace_length rest
    split at h
    · simp [failAt] at h
    · next p rest' heq =>
      rw [heq, List.length_cons] at hr
      split at h
      · have hle := (ih rest' (by omega)).2 _ _ h
        omega
      · split at h
        · exact Nat.lt_trans ((ih rest hlt).1 _ _ h) hlt
        · split at h
          · cases h
          · next rest'' hn =>
            have hn' := skipMemberName_length hn
            have hlt' := (ih rest'' (by omega)).1 _ _ h
            omega

theorem SkipsBelow.rest (ih : SkipsBelow s.length) (h : skipRest pending s = .ok r) :
    r.length ≤ s.length := by
  have hspace := skipSpace_length s
  rw [skipRest.eq_def] at h
  split at h
  · cases h
    exact Nat.le_refl _
  · split at h
    · simp [failAt] at h
    · next p rest heq =>
      rw [heq, List.length_cons] at hspace
      split at h
      · split at h
        · have hlt := (ih rest hspace).1 _ _ h
          omega
        · split at h
          · cases h
          · next rest' hn =>
            have hn' := skipMemberName_length hn
            have hlt := (ih rest' (by omega)).1 _ _ h
            omega
      · split at h
        · have hle := (ih rest hspace).2 _ _ h
          omega
        · simp [failOn] at h

theorem skipsBelow (n : Nat) : SkipsBelow n := by
  induction n with
  | zero => exact fun s hs => absurd hs (Nat.not_lt_zero _)
  | succ n ih =>
      intro s hs
      have ih' : SkipsBelow s.length :=
        fun t ht => ih t (Nat.lt_of_lt_of_le ht (Nat.le_of_lt_succ hs))
      exact ⟨fun _ _ => ih'.value, fun _ _ => ih'.rest⟩

theorem skipValue_length (h : skipValue pending s = .ok r) : r.length < s.length :=
  (skipsBelow s.length).value h

end Skips

/-- Reads the members of an object behind its brace or behind a member. -/
def members (f : Format D R) (first : Bool) (draft : D) (s : List Piece) :
    Except Fault (D × List Piece) :=
  match hn : nextName first s with
  | .error e => .error (.placed e)
  | .ok (none, rest) => .ok (draft, rest)
  | .ok (some name, rest) =>
    have := nextName_length hn
    match f.field? name with
    | none =>
      match hc : colon rest with
      | .error e => .error (.placed e)
      | .ok value =>
        have := colon_length hc
        match hv : skipValue [] value with
        | .error e => .error (.placed e)
        | .ok rest =>
          have := skipValue_length hv
          members f false draft rest
    | some field =>
      if field.known draft then .error (.loose (.duplicateField field.name) rest)
      else match hc : colon rest with
        | .error e => .error (.placed e)
        | .ok value =>
          have := colon_length hc
          match hv : field.read draft value with
          | .error e => .error e
          | .ok (draft, rest) =>
            have := field.shorter hv
            members f false draft rest
termination_by s.length

/-- The end of an array whose elements are all read. -/
def closeArray (s : List Piece) : Except Failure (List Piece) :=
  match skipSpace s with
  | [] => failAt .endOfList []
  | .char ']' :: rest => .ok rest
  | .char ',' :: rest =>
    match skipSpace rest with
    | .char ']' :: rest => failOn .trailingComma (.char ']' :: rest)
    | rest => failOn .trailingCharacters rest
  | rest => failOn .trailingCharacters rest

/-- What an error calls the array form of a record. -/
def Format.arrayName (f : Format D R) : String :=
  f.name ++ " with " ++ String.ofList (Decimal.text f.fields.length) ++ " elements"

/-- Reads the fields of a record one after the other as the elements of an
array; `count` of them are read. -/
def elements (wanted : String) : List (Field D) → Nat → D → List Piece →
    Except Fault (D × List Piece)
  | [], _, draft, s => .ok (draft, s)
  | field :: fields, count, draft, s =>
    match nextElement (count == 0) s with
    | .error e => .error (.placed e)
    | .ok (false, rest) => .error (.placed ⟨.wrongLength count wanted, Utf8.size rest⟩)
    | .ok (true, rest) =>
      match field.read draft rest with
      | .error e => .error e
      | .ok (draft, rest) => elements wanted fields (count + 1) draft rest

/-- A failure from a fault inside a bracket. -/
def Fault.place (b : Bracket) : Fault → Failure
  | .placed e => e
  | .loose cause rest => ⟨cause, Utf8.size (afterClose b rest)⟩

/-- A value that is read only to be named in an error. -/
def wrongType (wanted : String) (s : List Piece) : Failure :=
  let report (found : Found) (rest : List Piece) : Failure :=
    ⟨.wrongType found wanted, Utf8.size rest⟩
  let finish (found : Found) : Except Failure (List Piece) → Failure
    | .error e => e
    | .ok rest => report found rest
  match s with
  | .char 'n' :: rest => finish .null (word "ull".toList rest)
  | .char 't' :: rest => finish (.bool true) (word "rue".toList rest)
  | .char 'f' :: rest => finish (.bool false) (word "alse".toList rest)
  | .char '-' :: rest =>
    match number true rest with
    | .error e => e
    | .ok (n, rest) => report (.number n) rest
  | .char '"' :: rest =>
    match string rest with
    | .error e => e
    | .ok (cs, rest) => report (.string cs) rest
  | .char '[' :: _ => report .array s
  | .char '\x7b' :: _ => report .object s
  | _ =>
    if startsWithDigit s then
      match number false s with
      | .error e => e
      | .ok (n, rest) => report (.number n) rest
    else ⟨.expectedValue, Utf8.size s - 1⟩

/-- Reads a record. -/
def Format.read (f : Format D R) (s : List Piece) : Outcome R :=
  match skipSpace s with
  | [] => failAt .endOfValue []
  | .char '\x7b' :: rest =>
    match members f true f.blank rest with
    | .error e => .error (e.place .object)
    | .ok (draft, rest) =>
      match f.finish draft with
      | .error cause => failAt cause rest
      | .ok record => .ok (record, rest)
  | .char '[' :: rest =>
    match elements f.arrayName f.fields 0 f.blank rest with
    | .error e => .error (e.place .array)
    | .ok (draft, rest) =>
      match closeArray rest with
      | .error e => .error e
      | .ok rest =>
        match f.finish draft with
        | .error cause => failAt cause rest
        | .ok record => .ok (record, rest)
  | s => .error (wrongType f.name s)

/-- The value of a whole text, which may hold nothing else but blanks. -/
def whole (read : List Piece → Outcome α) (s : List Piece) : Except Failure α :=
  match read s with
  | .error e => .error e
  | .ok (a, rest) =>
    match skipSpace rest with
    | [] => .ok a
    | rest => failOn .trailingCharacters rest

end Json

end OrderDesk
