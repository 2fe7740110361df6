/-
# `Proofs.Remote.Replies` — a customer as an API tells it

A customer is written as JSON at one end and read at the other, and what
arrives is what was sent: whatever is in the three texts of a customer, they
are read back as they were, the id as well, which might as well have been a
number (`customer_arrives`).

| | |
| :-- | :-- |
| `Answers net made first r` | `r` is the response at the end of some trail |
| `Tells r c`                | the response is the text of `c`, with status 200 |

A response with status 200 redirects nowhere, so an exchange that comes by it
ends there (`Answers.reaches`); nothing is asked about its other fields.
-/
import OrderDesk.Proofs.Remote.Exchanges
import OrderDesk.Proofs.RoundTrip

namespace OrderDesk

/-- Customers with the same text are the same. -/
theorem Customer.text_inj {c c' : Customer} : c.text = c'.text ↔ c = c' := by
  constructor
  · intro h
    have hread := c.decode_text
    rw [h, c'.decode_text] at hread
    exact (Except.ok.inj hread).symm
  · intro h
    rw [h]

namespace Network

variable {timeout : Option Nat}

/-- Some trail of ten redirections at most leads to a request with this
response; the shortest one is the first request itself. -/
def Answers (net : Reaction timeout) (made : List Request) (first : Request)
    (r : Response timeout) : Prop :=
  ∃ sent last, Trail net made first sent last ∧ sent.length ≤ redirectionLimit ∧
    Gets net (made ++ sent) last (.response r)

variable {net : Reaction timeout} {made : List Request} {first : Request} {r : Response timeout}

/-- The response to the first request. -/
theorem Answers.of_reply (h : Gets net made first (.response r)) : Answers net made first r := by
  refine ⟨[], first, .start, Nat.zero_le _, ?_⟩
  rwa [List.append_nil]

/-- A status below three hundred redirects nowhere. -/
theorem final_of_status {origin : Url} (h : r.status < 300) : Final origin r := by
  rintro a ⟨hstatus, -⟩
  have hredirection : ∀ status ∈ [301, 302, 303, 307, 308], 300 ≤ status := by decide
  have := hredirection r.status hstatus
  omega

theorem Answers.reaches (h : Answers net made first r) (hstatus : r.status < 300) :
    Reaches net made first r := by
  obtain ⟨sent, last, htrail, hlength, hreply⟩ := h
  exact ⟨sent, last, htrail, hlength, hreply, final_of_status hstatus⟩

end Network

namespace Remote

open Network

variable {timeout : Option Nat}

/-- The response has the status 200 and the text of a customer. -/
structure Tells (r : Response timeout) (c : Customer) : Prop where
  status : r.status = 200
  body : r.body = .whole (Utf8.encode c.text.toList)

theorem Tells.holds {r : Response timeout} {c : Customer} (h : Tells r c) : Holds r c := by
  refine ⟨?_, _, h.body, c.decode_text⟩
  rw [h.status]
  decide

/-- What a customer is written as is read as that customer, and no other is
written so.  A lookup that is answered with it is answered with that customer,
whatever id was asked for and whatever the customer's id looks like. -/
theorem customer_arrives (c : Customer) :
    Customer.decode (Utf8.encode c.text.toList) = .ok c ∧
    (∀ c' : Customer, c ≠ c' → c.text ≠ c'.text) ∧
    ∀ net baseUrl timeout d, connect net baseUrl timeout = .ok d →
      ∃ base, Validation.address Settings.urlField baseUrl = .ok base ∧
        ∀ id made r, Answers (net timeout) made (opening (customerUrl base id)) r → Tells r c →
          (d.ask id made).value = .ok c := by
  refine ⟨c.decode_text, ?_, ?_⟩
  · intro c' hne htext
    exact hne (Customer.text_inj.mp htext)
  · intro net baseUrl timeout d hconnect
    obtain ⟨base, hbase, rfl⟩ := connect_eq_ok.mp hconnect
    refine ⟨base, hbase, ?_⟩
    intro id made r hanswers htells
    have hreaches := hanswers.reaches (by rw [htells.status]; decide)
    exact (ask_reached hreaches).trans (record_eq_ok.mpr htells.holds)

/-- A customer whose texts look like an object, a number and an escape. -/
def disguised : Customer := ⟨"\x7b\"id\":\"7\"\x7d", "1e3", "\\u0041\n"⟩

/-- A network where every request is answered with this customer. -/
def disguise : Network := fun _ _ _ =>
  .response ⟨200, none, .whole (Utf8.encode disguised.text.toList)⟩

/-- Nothing of it is taken for what it looks like. -/
theorem disguised_arrives :
    connect disguise "http://[::1]:8080/v1" = .ok ((localClient none).directory disguise) ∧
      (((localClient none).directory disguise).ask "7" []).value = .ok disguised := by
  have hconnect : connect disguise "http://[::1]:8080/v1" =
      .ok ((localClient none).directory disguise) := rfl
  obtain ⟨-, -, harrives⟩ := customer_arrives disguised
  obtain ⟨base, hbase, hasked⟩ := harrives disguise _ _ _ hconnect
  obtain rfl : localApi = base := Except.ok.inj hbase
  exact ⟨hconnect, hasked "7" [] _ (.of_reply ⟨rfl, rfl⟩) ⟨rfl, rfl⟩⟩

end Remote

end OrderDesk
