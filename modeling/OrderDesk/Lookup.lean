/-
# `Lookup` — from a customer id to a customer

Two fixed customers answer whatever directory is asked.  Every other id
goes to the directory, which may answer differently each time and may
fail: a directory is a state and a reaction to each question.

`Lookup.tryFetch` hands a failure on; `Lookup.fetch` never fails and
turns it into a placeholder for the same id and an event.
-/
import OrderDesk.Customer
import OrderDesk.Event

namespace OrderDesk

/-- A value, what happened until it was known, and the state afterwards. -/
structure Answer (σ α : Type) where
  value : α
  events : List Event
  state : σ

/-- A customer directory with its reaction to each question. -/
structure Directory (σ : Type) where
  ask : String → σ → Answer σ (Except LookupError Customer)

namespace Lookup

/-- The customers that answer whatever directory is asked. -/
def known? (id : String) : Option Customer :=
  if id = "123" then some ⟨"123", "John Doe", "john@example.com"⟩
  else if id = "456" then some ⟨"456", "Jane Smith", "jane@example.com"⟩
  else none

/-- The built-in record of an id. -/
def canned (id : String) : Customer := (known? id).getD (.unknown id)

/-- The built-in directory: it holds the fixed customers, and every other
id stands for an unknown one. -/
def cannedDirectory : Directory σ where
  ask id state := ⟨.ok (canned id), [.cannedAnswer id], state⟩

/-- Looks a customer up and hands a failure on. -/
def tryFetch (d : Directory σ) (id : String) (state : σ) :
    Answer σ (Except LookupError Customer) :=
  match known? id with
  | some customer => ⟨.ok customer, [.fixedAnswer id], state⟩
  | none => d.ask id state

/-- Looks a customer up; a failure becomes a placeholder and an event. -/
def fetch (d : Directory σ) (id : String) (state : σ) : Answer σ Customer :=
  let answer := tryFetch d id state
  match answer.value with
  | .ok customer => ⟨customer, answer.events, answer.state⟩
  | .error e =>
    ⟨.fallback id, answer.events ++ [.lookupFailed id e], answer.state⟩

/-- Looks customers up one after the other. -/
def fetchAll (d : Directory σ) : List String → σ → Answer σ (List Customer)
  | [], state => ⟨[], [], state⟩
  | id :: ids, state =>
    let first := fetch d id state
    let others := fetchAll d ids first.state
    ⟨first.value :: others.value, first.events ++ others.events, others.state⟩

end Lookup

end OrderDesk
