/-
# `Template` — placeholders in a text

A placeholder is a name between `${` and the next `}`; the name has at
least one character.  A text is read once from left to right: where a
placeholder begins it is taken whole, whatever its name holds, and every
other character stands for itself.  Filling a text in puts the value of
each name that has one in the place of its placeholder; values are not
read again, and a placeholder without a value stays as it is written.
-/
namespace OrderDesk

/-- The variables that have a value. -/
abbrev Environment := String → Option String

namespace Template

/-- A part of a text. -/
inductive Part where
  | plain (c : Char)
  | placeholder (name : List Char)
  deriving DecidableEq, Repr

/-- The name in front of the next closing brace and the text behind it;
nothing if the name is empty or the brace is missing. -/
def name? (s : List Char) : Option (List Char × List Char) :=
  match s.takeWhile (· ≠ '\x7d'), s.dropWhile (· ≠ '\x7d') with
  | c :: name, _ :: rest => some (c :: name, rest)
  | _, _ => none

theorem name?_length {s name rest : List Char} (h : name? s = some (name, rest)) :
    rest.length < s.length := by
  have hs := congrArg List.length (List.takeWhile_append_dropWhile (p := (· ≠ '\x7d')) (l := s))
  unfold name? at h
  split at h
  · next ht hd =>
    simp only [Option.some.injEq, Prod.mk.injEq] at h
    obtain ⟨_, rfl⟩ := h
    rw [ht, hd] at hs
    simp only [List.length_append, List.length_cons] at hs
    omega
  · cases h

/-- The parts of a text. -/
def parts : List Char → List Part
  | [] => []
  | c :: rest =>
    match c, rest with
    | '$', '\x7b' :: inside =>
      match h : name? inside with
      | some (name, behind) =>
        have := name?_length h
        .placeholder name :: parts behind
      | none => .plain '$' :: parts ('\x7b' :: inside)
    | c, rest => .plain c :: parts rest
termination_by s => s.length
decreasing_by
  all_goals simp only [List.length_cons] at *; omega

/-- The names in a text. -/
def names (text : List Char) : List String :=
  (parts text).filterMap fun
    | .plain _ => none
    | .placeholder name => some (String.ofList name)

/-- A part as it is written. -/
def Part.text : Part → List Char
  | .plain c => [c]
  | .placeholder name => '$' :: '\x7b' :: (name ++ ['\x7d'])

/-- A part filled in. -/
def Part.fill (env : Environment) : Part → List Char
  | .plain c => [c]
  | .placeholder name =>
    match env (String.ofList name) with
    | some value => value.toList
    | none => (Part.placeholder name).text

/-- A text filled in. -/
def fill (env : Environment) (text : List Char) : List Char :=
  (parts text).flatMap (Part.fill env)

end Template

end OrderDesk
