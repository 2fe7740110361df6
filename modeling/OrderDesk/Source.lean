/-
# `Source` — which directory answers

The built-in directory, which needs no network, or the remote customer
API.  In JSON a source is its name, or an object with its name as the
only member and `null` as the value.
-/
import OrderDesk.Json.Problem
import OrderDesk.Json.Reader

namespace OrderDesk

/-- Where customers are looked up. -/
inductive Source where
  | canned
  | remote
  deriving DecidableEq, Repr

namespace Source

instance : Inhabited Source := ⟨.canned⟩

/-- The name of a source. -/
def name : Source → String
  | .canned => "canned"
  | .remote => "remote"

/-- The name of a source in the log. -/
def title : Source → String
  | .canned => "Canned"
  | .remote => "Remote"

/-- The names of all sources. -/
def names : List String := ["canned", "remote"]

/-- The source of a name. -/
def ofName? (name : String) : Option Source :=
  if name = "canned" then some .canned
  else if name = "remote" then some .remote
  else none

open Json Utf8 in
/-- Reads the name of a source, behind its quotation mark. -/
def readName (s : List Piece) : Outcome Source :=
  match string s with
  | .error e => .error e
  | .ok (cs, rest) =>
    match ofName? (String.ofList cs) with
    | some source => .ok (source, rest)
    | none => failAt (.unknownVariant cs names) rest

open Json Utf8 in
/-- Reads the value that goes with a name, which says nothing. -/
def readUnit (s : List Piece) : Except Failure (List Piece) :=
  match skipSpace s with
  | [] => failAt .endOfValue []
  | .char 'n' :: rest => word "ull".toList rest
  | rest => .error (wrongType "unit" rest)

open Json Utf8 in
/-- Reads the only member of an object, behind the quotation mark of its
name, and the closing brace. -/
def readMember (s : List Piece) : Except Failure (Source × List Piece) := do
  let (source, rest) ← readName s
  let rest ← readUnit (← colon rest)
  match skipSpace rest with
  | [] => failAt .endOfObject []
  | .char '\x7d' :: rest => pure (source, rest)
  | rest => failAt .expectedValue rest

open Json Utf8 in
/-- Reads a source. -/
def read (s : List Piece) : Outcome Source :=
  match skipSpace s with
  | [] => failAt .endOfValue []
  | .char '"' :: rest => readName rest
  | .char '\x7b' :: rest =>
    match skipSpace rest with
    | [] => failAt .endOfValue []
    | .char '"' :: rest => readMember rest
    | .char '\x7d' :: rest => failOn .expectedValue (.char '\x7d' :: rest)
    | rest => failOn .expectedKey rest
  | rest => failOn .expectedValue rest

/-- Reads the JSON form of a source. -/
def decode (octets : List UInt8) : Except Json.Problem Source := Json.decode read octets

end Source

end OrderDesk
