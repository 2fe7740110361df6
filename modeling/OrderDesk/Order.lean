/-
# `Order` — a purchase request

Nothing ties the status, the flag and the amount of an order together,
and any of them may change at any time.  A fresh order is pending and not
yet valid.

`Order.json` is its JSON form, `Order.line` the form on one line, and
`Order.decode` reads the JSON form back, written as an object with the
members in any order or as an array of them in this order.
-/
import OrderDesk.Json.Problem
import OrderDesk.Json.Reader
import OrderDesk.Json.Value

namespace OrderDesk

/-- A purchase request. -/
structure Order where
  id : String
  customerId : String
  amount : Binary64
  status : Option String
  valid : Bool
  deriving DecidableEq

namespace Order

/-- The status of a fresh order. -/
def pending : String := "PENDING"

/-- A fresh order. -/
def new (id customerId : String) (amount : Binary64) : Order :=
  ⟨id, customerId, amount, some pending, false⟩

/-- An order without any data. -/
def blank : Order := ⟨"", "", .zero, none, false⟩

instance : Inhabited Order := ⟨blank⟩

/-- Equality of orders, amounts compared as numbers. -/
def equals (a b : Order) : Bool :=
  a.id == b.id && a.customerId == b.customerId && a.amount.equals b.amount &&
    a.status == b.status && a.valid == b.valid

/-- The members of the JSON form, in field order. -/
def members (o : Order) : List (List Char × Json.Value) :=
  [("id".toList, .ofString o.id),
   ("customerId".toList, .ofString o.customerId),
   ("amount".toList, .ofAmount o.amount),
   ("status".toList, o.status.elim .null .ofString),
   ("valid".toList, .bool o.valid)]

/-- The JSON form. -/
def json (o : Order) : Json.Value := .object o.members

/-- The form on one line. -/
def line (o : Order) : String :=
  "Order\x7bid='" ++ o.id ++ "', customerId='" ++ o.customerId ++
    "', amount=" ++ Notation.full.render o.amount ++
    ", status='" ++ o.status.getD "null" ++ "'\x7d"

/-- What is known of an order while it is read. -/
structure Draft where
  id : Option String := none
  customerId : Option String := none
  amount : Option Binary64 := none
  status : Option (Option String) := none
  valid : Option Bool := none

/-- A draft as an order; only the status may be missing. -/
def Draft.finish (d : Draft) : Except Json.Cause Order := do
  let id ← Json.require "id" d.id
  let customerId ← Json.require "customerId" d.customerId
  let amount ← Json.require "amount" d.amount
  let valid ← Json.require "valid" d.valid
  pure ⟨id, customerId, amount, d.status.getD none, valid⟩

/-- How an order is written. -/
def format : Json.Format Draft Order where
  name := "struct Order"
  fields :=
    [.of "id" Draft.id (fun x d => { d with id := some x }) .text,
     .of "customerId" Draft.customerId (fun x d => { d with customerId := some x }) .text,
     .of "amount" Draft.amount (fun x d => { d with amount := some x }) .amount,
     .of "status" Draft.status (fun x d => { d with status := some x }) .optionalText,
     .of "valid" Draft.valid (fun x d => { d with valid := some x }) .flag]
  blank := {}
  finish := Draft.finish

/-- Reads the JSON form of an order. -/
def decode (octets : List UInt8) : Except Json.Problem Order :=
  Json.decode format.read octets

end Order

end OrderDesk
