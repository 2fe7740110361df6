/-
# `Customer` — a record of the customer directory

The id of a customer is text.  Directories also write it as a number;
such an id is the text of the number, so that `1` and `"1"` are the same
id.
-/
import OrderDesk.Json.Problem
import OrderDesk.Json.Reader
import OrderDesk.Json.Value

namespace OrderDesk

/-- A record of the customer directory. -/
structure Customer where
  id : String
  name : String
  email : String
  deriving DecidableEq

namespace Customer

/-- The record that stands for an id which the directory does not hold. -/
def unknown (id : String) : Customer := ⟨id, "Unknown User", "unknown@example.com"⟩

/-- The record that stands for an id whose lookup failed. -/
def fallback (id : String) : Customer := ⟨id, "Fallback User", "fallback@example.com"⟩

/-- The members of the JSON form, in field order. -/
def members (c : Customer) : List (List Char × Json.Value) :=
  [("id".toList, .ofString c.id),
   ("name".toList, .ofString c.name),
   ("email".toList, .ofString c.email)]

/-- The JSON form. -/
def json (c : Customer) : Json.Value := .object c.members

/-- The compact text of the JSON form. -/
def text (c : Customer) : String := String.ofList c.json.compact

/-- Reads an id, a string or a number. -/
def readId (s : List Utf8.Piece) : Except Json.Fault (String × List Utf8.Piece) :=
  match Json.content s with
  | .error e => .error (.placed e)
  | .ok (.text cs, rest) => .ok (String.ofList cs, rest)
  | .ok (.number n, rest) => .ok (n.render, rest)
  | .ok (.other, rest) => .error (.loose (.noVariant "RawId") rest)

theorem readId_length {a : String} {s r : List Utf8.Piece} (h : readId s = .ok (a, r)) :
    r.length < s.length := by
  unfold readId at h
  split at h
  · cases h
  · next hs =>
    simp only [Except.ok.injEq, Prod.mk.injEq] at h
    obtain ⟨_, rfl⟩ := h
    exact Json.content_length hs nofun
  · next hs =>
    simp only [Except.ok.injEq, Prod.mk.injEq] at h
    obtain ⟨_, rfl⟩ := h
    exact Json.content_length hs nofun
  · cases h

/-- What is known of a customer while the record is read. -/
structure Draft where
  id : Option String := none
  name : Option String := none
  email : Option String := none

/-- A draft as a customer. -/
def Draft.finish (d : Draft) : Except Json.Cause Customer := do
  let id ← Json.require "id" d.id
  let name ← Json.require "name" d.name
  let email ← Json.require "email" d.email
  pure ⟨id, name, email⟩

/-- How a customer is written. -/
def format : Json.Format Draft Customer where
  name := "struct Customer"
  fields :=
    [.of "id" Draft.id (fun x d => { d with id := some x }) ⟨readId, readId_length⟩,
     .of "name" Draft.name (fun x d => { d with name := some x }) .text,
     .of "email" Draft.email (fun x d => { d with email := some x }) .text]
  blank := {}
  finish := Draft.finish

/-- Reads the JSON form of a customer. -/
def decode (octets : List UInt8) : Except Json.Problem Customer :=
  Json.decode format.read octets

end Customer

end OrderDesk
