/-
# `Proofs.Remote.Exchanges` — what becomes of a lookup

An exchange is a chain of requests, each but the last one answered with a
redirection to the next.  The chains that a network allows are said first
(`Trail`), with nobody following them; then the exchange is shown to take
one of them, to its end or to the tenth redirection.

| | |
| :-- | :-- |
| `Redirects origin r a`    | the response `r` to a request for `origin` leads to `a` |
| `Final origin r`          | it leads nowhere |
| `Gets net made request x` | the request can be made, and `x` becomes of it |
| `Trail … sent request`    | the requests `sent` were redirected, each to the next, up to `request` |
| `Settles … sent last x`   | the exchange stops at `last`, and `x` is what comes of it |
| `Reaches … r`             | a trail leads to the final response `r` |
| `lookup_outcome`          | what a lookup answers, and how many requests it takes |

The invariant of the induction is that the request about to be made is the
end of a trail, and that the redirections on it and those that are left
make ten.  As the network is a function of the requests made, there is
only one trail of each length, and an exchange comes by the end of each
(`follow_trail`): it cannot miss a final response.
-/
import OrderDesk.Proofs.Settings.Validity
import OrderDesk.Remote

namespace OrderDesk

namespace Network

variable {timeout : Option Nat}

/-! ## Trails -/

/-- The response to a request for `origin` redirects to an address. -/
structure Redirects (origin : Url) (r : Response timeout) (a : Address) : Prop where
  status : r.status ∈ [301, 302, 303, 307, 308]
  location : ∃ text, r.location = some text ∧ origin.join text = .ok a

/-- The response redirects nowhere. -/
def Final (origin : Url) (r : Response timeout) : Prop := ∀ a, ¬ Redirects origin r a

/-- The request can be made, and after those made before this becomes of it. -/
structure Gets (net : Reaction timeout) (made : List Request) (request : Request)
    (x : Reply timeout) : Prop where
  requestable : request.url.isRequestable = true
  reply : net made request = x

/-- The requests `sent` were made after those made before, and each was
redirected, the last one to `request`. -/
inductive Trail (net : Reaction timeout) (made : List Request) (first : Request) :
    List Request → Request → Prop
  | start : Trail net made first [] first
  | onward {sent : List Request} {request : Request} {r : Response timeout} {url : Url} :
      Trail net made first sent request →
      Gets net (made ++ sent) request (.response r) → Redirects request.url r (.web url) →
      Trail net made first (sent ++ [request]) (onward request url)

/-- A trail goes nowhere if the first request is not redirected. -/
theorem Trail.eq_start {net : Reaction timeout} {made : List Request} {first : Request}
    {sent : List Request} {request : Request} (h : Trail net made first sent request)
    (hfinal : ∀ r, Gets net made first (.response r) → Final first.url r) :
    sent = [] ∧ request = first := by
  induction h with
  | start => exact ⟨rfl, rfl⟩
  | onward _ hreply hredirects ih =>
      obtain ⟨rfl, rfl⟩ := ih
      rw [List.append_nil] at hreply
      exact absurd hredirects (hfinal _ hreply _)

/-- A trail of ten redirections at most leads to this final response. -/
def Reaches (net : Reaction timeout) (made : List Request) (first : Request)
    (r : Response timeout) : Prop :=
  ∃ sent request, Trail net made first sent request ∧ sent.length ≤ redirectionLimit ∧
    Gets net (made ++ sent) request (.response r) ∧ Final request.url r

/-- The request, if it can be made. -/
def requested (request : Request) : List Request :=
  if request.url.isRequestable then [request] else []

/-- What comes of an exchange that stops at its last request. -/
inductive Settles (net : Reaction timeout) (origin : Url) (made sent : List Request)
    (last : Request) : Except ExchangeFailure (Response timeout) → Prop
  | unfit : last.url.isRequestable = false →
      Settles net origin made sent last (.error (.target last.url.text))
  | refused : Gets net (made ++ sent) last .refused →
      Settles net origin made sent last (.error (.sending origin.text false))
  | broken : Gets net (made ++ sent) last .broken →
      Settles net origin made sent last (.error (.sending origin.text false))
  | silence {limited : timeout.isSome} : Gets net (made ++ sent) last (.silence limited) →
      Settles net origin made sent last (.error (.sending origin.text true))
  | final {r : Response timeout} : Gets net (made ++ sent) last (.response r) →
      Final last.url r → Settles net origin made sent last (.ok r)
  | limit {r : Response timeout} {a : Address} : Gets net (made ++ sent) last (.response r) →
      Redirects last.url r a → sent.length = redirectionLimit →
      Settles net origin made sent last (.error (.redirects last.url.text))
  | target {r : Response timeout} {url : OtherUrl} : Gets net (made ++ sent) last (.response r) →
      Redirects last.url r (.other url) → sent.length < redirectionLimit →
      Settles net origin made sent last (.error (.target url.text))

theorem next?_eq_some {origin : Url} {r : Response timeout} {a : Address} :
    next? origin r = some a ↔ Redirects origin r a := by
  have hstatus : isRedirection r.status = true ↔ r.status ∈ [301, 302, 303, 307, 308] :=
    List.contains_iff_mem
  constructor
  · intro h
    rw [next?] at h
    split at h
    · next hr =>
        split at h
        · next b hjoin =>
            obtain rfl : b = a := Option.some.inj h
            obtain ⟨text, htext, hok⟩ := Option.map_eq_some_iff.mp hjoin
            exact ⟨hstatus.mp hr, text, htext, hok⟩
        · cases h
    · cases h
  · rintro ⟨hr, text, htext, hok⟩
    rw [next?, if_pos (hstatus.mpr hr), htext, Option.map_some, hok]

theorem next?_eq_none {origin : Url} {r : Response timeout} :
    next? origin r = none ↔ Final origin r := by
  rw [Option.eq_none_iff_forall_ne_some]
  exact forall_congr' fun a => not_congr next?_eq_some

/-! ## One request -/

section Step

variable {net : Reaction timeout} {origin : Url} {made sent : List Request} {request : Request}

/-- A redirection to the web is followed if one is left. -/
theorem follow_onward {r : Response timeout} {url : Url} (left : Nat)
    (hreply : Gets net made request (.response r)) (h : Redirects request.url r (.web url)) :
    follow net origin made request (left + 1) =
      follow net origin (made ++ [request]) (onward request url) left := by
  rw [follow, if_pos hreply.requestable, hreply.reply]
  simp only [next?_eq_some.mpr h]

/-- A final response is what an exchange comes to. -/
theorem follow_final {r : Response timeout} (left : Nat)
    (hreply : Gets net made request (.response r)) (h : Final request.url r) :
    follow net origin made request left = (.ok r, made ++ [request]) := by
  rw [follow.eq_def, if_pos hreply.requestable, hreply.reply]
  simp only [next?_eq_none.mpr h]

/-- At each request an exchange stops, or it goes on with one redirection
less. -/
theorem follow_step {left : Nat} (hleft : sent.length + left = redirectionLimit) :
    (Settles net origin made sent request (follow net origin (made ++ sent) request left).1 ∧
      (follow net origin (made ++ sent) request left).2 = made ++ sent ++ requested request) ∨
      ∃ less r url, left = less + 1 ∧ Gets net (made ++ sent) request (.response r) ∧
        Redirects request.url r (.web url) := by
  rw [follow.eq_def, requested]
  cases hfit : request.url.isRequestable with
  | false => exact .inl ⟨.unfit hfit, (List.append_nil _).symm⟩
  | true =>
      simp only [if_true]
      cases hreply : net (made ++ sent) request with
      | refused => exact .inl ⟨.refused ⟨hfit, hreply⟩, rfl⟩
      | broken => exact .inl ⟨.broken ⟨hfit, hreply⟩, rfl⟩
      | silence limited => exact .inl ⟨.silence ⟨hfit, hreply⟩, rfl⟩
      | response r =>
          cases hnext : next? request.url r with
          | none =>
              simp only [hnext]
              exact .inl ⟨.final ⟨hfit, hreply⟩ (next?_eq_none.mp hnext), trivial⟩
          | some a =>
              have hredirects := next?_eq_some.mp hnext
              cases left with
              | zero =>
                  simp only [hnext]
                  exact .inl ⟨.limit ⟨hfit, hreply⟩ hredirects hleft, trivial⟩
              | succ less =>
                  cases a with
                  | other url =>
                      simp only [hnext]
                      exact .inl ⟨.target ⟨hfit, hreply⟩ hredirects (by omega), trivial⟩
                  | web url => exact .inr ⟨less, r, url, rfl, ⟨hfit, hreply⟩, hredirects⟩

end Step

/-! ## Whole exchanges -/

section Exchange

variable {net : Reaction timeout} {made : List Request} {first : Request}

/-- From the end of a trail on, an exchange stops at the end of a trail. -/
theorem follow_settles (origin : Url) {left : Nat} {sent : List Request} {request : Request}
    (h : Trail net made first sent request)
    (hleft : sent.length + left = redirectionLimit) :
    ∃ sent' last, Trail net made first sent' last ∧ sent'.length ≤ redirectionLimit ∧
      Settles net origin made sent' last (follow net origin (made ++ sent) request left).1 ∧
      (follow net origin (made ++ sent) request left).2 = made ++ sent' ++ requested last := by
  induction left generalizing sent request with
  | zero =>
      rcases follow_step hleft with ⟨hsettles, hstate⟩ | ⟨less, r, url, hless, -⟩
      · exact ⟨sent, request, h, Nat.le_of_eq hleft, hsettles, hstate⟩
      · cases hless
  | succ left ih =>
      rcases follow_step hleft with ⟨hsettles, hstate⟩ | ⟨less, r, url, -, hreply, hredirects⟩
      · exact ⟨sent, request, h, by omega, hsettles, hstate⟩
      · have hlonger : (sent ++ [request]).length + left = redirectionLimit := by
          rw [List.length_append, List.length_singleton]
          omega
        rw [follow_onward left hreply hredirects, List.append_assoc]
        exact ih (h.onward hreply hredirects) hlonger

/-- An exchange comes by the end of every trail of ten redirections at
most. -/
theorem follow_trail (origin : Url) {sent : List Request} {request : Request}
    (h : Trail net made first sent request) (hlength : sent.length ≤ redirectionLimit) :
    follow net origin made first redirectionLimit =
      follow net origin (made ++ sent) request (redirectionLimit - sent.length) := by
  induction h with
  | start => rw [List.append_nil, List.length_nil, Nat.sub_zero]
  | @onward sent request r url _ hreply hredirects ih =>
      rw [List.length_append, List.length_singleton] at hlength
      have hleft : redirectionLimit - sent.length =
          redirectionLimit - (sent.length + 1) + 1 := by omega
      rw [ih (by omega), hleft, follow_onward _ hreply hredirects, List.append_assoc,
        List.length_append, List.length_singleton]

/-- An exchange stops at the end of a trail of ten redirections at most. -/
theorem exchange_settles (net : Reaction timeout) (url : Url) (made : List Request) :
    ∃ sent last, Trail net made (opening url) sent last ∧ sent.length ≤ redirectionLimit ∧
      Settles net url.withoutUser made sent last (exchange net url made).1 ∧
      (exchange net url made).2 = made ++ sent ++ requested last := by
  have hstart : Trail net made (opening url) [] (opening url) := .start
  have h := follow_settles url.withoutUser hstart (Nat.zero_add redirectionLimit)
  rwa [List.append_nil] at h

/-- An exchange answers with a response exactly if it is final and can be
reached. -/
theorem exchange_eq_ok {url : Url} {r : Response timeout} :
    (exchange net url made).1 = .ok r ↔ Reaches net made (opening url) r := by
  constructor
  · intro hok
    obtain ⟨sent, last, htrail, hlength, hsettles, -⟩ := exchange_settles net url made
    rw [hok] at hsettles
    cases hsettles with
    | final hreply hfinal => exact ⟨sent, last, htrail, hlength, hreply, hfinal⟩
  · rintro ⟨sent, last, htrail, hlength, hreply, hfinal⟩
    rw [exchange, follow_trail url.withoutUser htrail hlength, follow_final _ hreply hfinal]

/-- An exchange is out of time only if its time is limited. -/
theorem limited_of_exchange {url : Url} {failure : ExchangeFailure}
    (h : (exchange net url made).1 = .error failure) (htimeout : failure.isTimeout = true) :
    timeout.isSome := by
  obtain ⟨sent, last, -, -, hsettles, -⟩ := exchange_settles net url made
  rw [h] at hsettles
  cases hsettles with
  | @silence limited _ => exact limited
  | unfit | refused | broken | limit | target => cases htimeout

end Exchange

end Network

namespace Remote

open Network

/-! ## Clients -/

namespace Client

variable {baseUrl : String} {timeout : Option Nat}

theorem new_of_error {e : LookupError}
    (h : Validation.address Settings.urlField baseUrl = .error e) :
    new baseUrl timeout = .error e := by
  rw [new, h]
  rfl

/-- What has passed the check can be read once more. -/
theorem new_of_ok {base : Url} (h : Validation.address Settings.urlField baseUrl = .ok base) :
    new baseUrl timeout = .ok ⟨.web base, timeout⟩ := by
  rw [new, h]
  simp only [Validation.address_eq_ok.mp h]
  rfl

/-- A client is made of the texts that are addresses of the web. -/
theorem new_eq_ok {c : Client} :
    new baseUrl timeout = .ok c ↔
      ∃ base, Address.parse baseUrl = .ok (.web base) ∧ c = ⟨.web base, timeout⟩ := by
  simp only [← @Validation.address_eq_ok Settings.urlField]
  cases h : Validation.address Settings.urlField baseUrl with
  | error e => simp [new_of_error h]
  | ok base => simp [new_of_ok h, eq_comm]

end Client

/-- Checking a text, reading it anew and asking for each id whether a segment can be
put behind it is checking the text once. -/
theorem connect_eq (net : Network) (baseUrl : String) (timeout : Option Nat) :
    connect net baseUrl timeout =
      (Validation.address Settings.urlField baseUrl).map fun base =>
        { ask := fun id => ask (net timeout) (customerUrl base id) id } := by
  rw [connect]
  cases h : Validation.address Settings.urlField baseUrl with
  | error e =>
      rw [Client.new_of_error h]
      rfl
  | ok base =>
      rw [Client.new_of_ok h]
      rfl

/-- A customer API that has been accepted is the directory of a client at some
address. -/
theorem connect_eq_ok {net : Network} {baseUrl : String} {timeout : Option Nat}
    {d : Directory (List Request)} :
    connect net baseUrl timeout = .ok d ↔
      ∃ base, Validation.address Settings.urlField baseUrl = .ok base ∧
        d = { ask := fun id => ask (net timeout) (customerUrl base id) id } := by
  rw [connect_eq]
  cases Validation.address Settings.urlField baseUrl with
  | ok base => simp [Except.map, eq_comm]
  | error e => simp [Except.map]

variable {timeout : Option Nat}

/-! ## Records -/

/-- The response has a status in the two hundreds, and its whole body is
received and holds this customer. -/
def Holds (r : Response timeout) (c : Customer) : Prop :=
  (200 ≤ r.status ∧ r.status ≤ 299) ∧
    ∃ octets, r.body = .whole octets ∧ Customer.decode octets = .ok c

theorem isSuccess_iff {status : Nat} : isSuccess status = true ↔ 200 ≤ status ∧ status ≤ 299 := by
  rw [isSuccess, Bool.and_eq_true, decide_eq_true_iff, decide_eq_true_iff]

section Record

variable {id : String} {r : Response timeout}

theorem Holds.unique {c c' : Customer} (h : Holds r c) (h' : Holds r c') : c = c' := by
  obtain ⟨-, octets, hbody, hdecode⟩ := h
  obtain ⟨-, octets', hbody', hdecode'⟩ := h'
  cases hbody.symm.trans hbody'
  cases hdecode.symm.trans hdecode'
  rfl

theorem record_refused (h : ¬ (200 ≤ r.status ∧ r.status ≤ 299)) :
    record id r = .error (.status r.status id) := by
  rw [record, if_neg (mt isSuccess_iff.mp h)]

/-- A response with a status in the two hundreds holds a customer, or the
exchange has failed after all. -/
theorem record_accepted (id : String) (h : 200 ≤ r.status ∧ r.status ≤ 299) :
    (∃ c, Holds r c ∧ record id r = .ok c) ∨
      (∀ c, ¬ Holds r c) ∧ ∃ failure, record id r = .error (.exchange failure) := by
  rw [record, if_pos (isSuccess_iff.mpr h)]
  cases hbody : r.body with
  | whole octets =>
      cases hdecode : Customer.decode octets with
      | ok c =>
          refine .inl ⟨c, ⟨h, octets, hbody, hdecode⟩, ?_⟩
          simp only [hdecode]
      | error e =>
          refine .inr ⟨?_, .decoding false, ?_⟩
          · rintro c ⟨-, octets', hbody', hdecode'⟩
            cases hbody.symm.trans hbody'
            cases hdecode.symm.trans hdecode'
          · simp only [hdecode]
  | broken =>
      refine .inr ⟨?_, .decoding false, rfl⟩
      rintro c ⟨-, octets, hbody', -⟩
      cases hbody.symm.trans hbody'
  | endless limited =>
      refine .inr ⟨?_, .decoding true, rfl⟩
      rintro c ⟨-, octets, hbody', -⟩
      cases hbody.symm.trans hbody'

theorem record_eq_ok {c : Customer} : record id r = .ok c ↔ Holds r c := by
  constructor
  · intro hok
    by_cases h : 200 ≤ r.status ∧ r.status ≤ 299
    · rcases record_accepted id h with ⟨c', hc', hrecord⟩ | ⟨-, failure, hrecord⟩
      · cases hrecord.symm.trans hok
        exact hc'
      · cases hrecord.symm.trans hok
    · cases (record_refused h).symm.trans hok
  · intro hc
    rcases record_accepted id hc.1 with ⟨c', hc', hrecord⟩ | ⟨hnone, -⟩
    · rw [hrecord, hc'.unique hc]
    · exact absurd hc (hnone c)

theorem record_eq_status {code : Nat} {asked : String} :
    record id r = .error (.status code asked) ↔
      asked = id ∧ r.status = code ∧ ¬ (200 ≤ code ∧ code ≤ 299) := by
  constructor
  · intro hstatus
    by_cases h : 200 ≤ r.status ∧ r.status ≤ 299
    · rcases record_accepted id h with ⟨c, -, hrecord⟩ | ⟨-, failure, hrecord⟩
      · cases hrecord.symm.trans hstatus
      · cases hrecord.symm.trans hstatus
    · cases (record_refused h).symm.trans hstatus
      exact ⟨rfl, rfl, h⟩
  · rintro ⟨rfl, rfl, h⟩
    exact record_refused h

theorem record_eq_exchange :
    (∃ failure, record id r = .error (.exchange failure)) ↔
      (200 ≤ r.status ∧ r.status ≤ 299) ∧ ∀ c, ¬ Holds r c := by
  constructor
  · rintro ⟨failure, hfailure⟩
    by_cases h : 200 ≤ r.status ∧ r.status ≤ 299
    · refine ⟨h, ?_⟩
      intro c hc
      cases hfailure.symm.trans (record_eq_ok.mpr hc)
    · cases (record_refused h).symm.trans hfailure
  · rintro ⟨h, hnone⟩
    rcases record_accepted id h with ⟨c, hc, -⟩ | ⟨-, hfailure⟩
    · exact absurd hc (hnone c)
    · exact hfailure

/-- A record is late only if the time for it is limited. -/
theorem limited_of_record {failure : ExchangeFailure}
    (h : record id r = .error (.exchange failure)) (htimeout : failure.isTimeout = true) :
    timeout.isSome := by
  rw [record] at h
  split at h
  · split at h
    · split at h
      · cases h
      · cases h
        cases htimeout
    · cases h
      cases htimeout
    · next limited _ => exact limited
  · cases h

end Record

/-! ## Lookups -/

section Ask

variable {net : Reaction timeout} {url : Url} {id : String} {made : List Request}

/-- A lookup leaves the requests that its exchange leaves. -/
theorem ask_state : (ask net url id made).state = (exchange net url made).2 := by
  rw [ask]
  cases hexchange : exchange net url made with
  | mk x state =>
      cases x with
      | ok r => rfl
      | error failure => rfl

/-- A lookup that reaches a final response answers with its record. -/
theorem ask_reached {r : Response timeout} (h : Reaches net made (opening url) r) :
    (ask net url id made).value = record id r := by
  have hok := exchange_eq_ok.mpr h
  rw [ask]
  cases hexchange : exchange net url made with
  | mk x state =>
      rw [hexchange] at hok
      cases hok
      rfl

/-- A lookup that reaches none fails with its exchange. -/
theorem ask_unreached (h : ∀ r, ¬ Reaches net made (opening url) r) :
    ∃ failure, (exchange net url made).1 = .error failure ∧
      (ask net url id made).value = .error (.exchange failure) := by
  rw [ask]
  cases hexchange : exchange net url made with
  | mk x state =>
      cases x with
      | ok r => exact absurd (exchange_eq_ok.mp (congrArg Prod.fst hexchange)) (h r)
      | error failure => exact ⟨failure, rfl, rfl⟩

/-- What is not a failed exchange is the record of a final response. -/
theorem ask_eq {x : Except LookupError Customer} (hx : ∀ failure, x ≠ .error (.exchange failure)) :
    (ask net url id made).value = x ↔
      ∃ r, Reaches net made (opening url) r ∧ record id r = x := by
  constructor
  · intro hvalue
    by_cases hreaches : ∃ r, Reaches net made (opening url) r
    · obtain ⟨r, hr⟩ := hreaches
      exact ⟨r, hr, (ask_reached hr).symm.trans hvalue⟩
    · obtain ⟨failure, -, hfailure⟩ := ask_unreached (not_exists.mp hreaches)
      exact absurd (hvalue.symm.trans hfailure) (hx failure)
  · rintro ⟨r, hr, hrecord⟩
    exact (ask_reached hr).trans hrecord

theorem ask_eq_exchange :
    (∃ failure, (ask net url id made).value = .error (.exchange failure)) ↔
      ∀ r, Reaches net made (opening url) r →
        ∃ failure, record id r = .error (.exchange failure) := by
  constructor
  · rintro ⟨failure, hfailure⟩ r hr
    exact ⟨failure, (ask_reached hr).symm.trans hfailure⟩
  · intro h
    by_cases hreaches : ∃ r, Reaches net made (opening url) r
    · obtain ⟨r, hr⟩ := hreaches
      rw [ask_reached hr]
      exact h r hr
    · obtain ⟨failure, -, hfailure⟩ := ask_unreached (not_exists.mp hreaches)
      exact ⟨failure, hfailure⟩

/-- A lookup is out of time only if its time is limited. -/
theorem limited_of_ask {failure : ExchangeFailure}
    (h : (ask net url id made).value = .error (.exchange failure))
    (htimeout : failure.isTimeout = true) : timeout.isSome := by
  by_cases hreaches : ∃ r, Reaches net made (opening url) r
  · obtain ⟨r, hr⟩ := hreaches
    exact limited_of_record ((ask_reached hr).symm.trans h) htimeout
  · obtain ⟨failure', hexchange, hfailure⟩ := ask_unreached (not_exists.mp hreaches)
    cases hfailure.symm.trans h
    exact limited_of_exchange hexchange htimeout

/-- A lookup makes the requests of one trail, eleven at most, and only one
if the response to that is final or there is none. -/
theorem ask_requests (net : Reaction timeout) (url : Url) (id : String) (made : List Request) :
    ∃ sent last, Trail net made (opening url) sent last ∧ (sent ++ [last]).length ≤ 11 ∧
      (ask net url id made).state = made ++ sent ++ requested last ∧
      ((∀ r, Gets net made (opening url) (.response r) → Final (opening url).url r) →
        sent = []) := by
  obtain ⟨sent, last, htrail, hlength, -, hstate⟩ := exchange_settles net url made
  refine ⟨sent, last, htrail, ?_, ?_, ?_⟩
  · rw [List.length_append, List.length_singleton]
    exact Nat.succ_le_succ hlength
  · rw [ask_state, hstate]
  · intro hfinal
    exact (htrail.eq_start hfinal).1

end Ask

/-- What a lookup comes to.  It makes the requests `sent` and `last`.  Its
answer is a customer, the refusal of the API or a failed exchange, and the
final response that is reached, if there is one, says which.  It fails for
its time only if there is a timeout. -/
theorem lookup_outcome {net : Network} {baseUrl : String} {timeout : Option Nat}
    {d : Directory (List Request)} (h : connect net baseUrl timeout = .ok d) (id : String)
    (made : List Request) :
    ∃ base, Validation.address Settings.urlField baseUrl = .ok base ∧
      let react := net timeout
      let first := opening (customerUrl base id)
      let answer := d.ask id made
      (∃ sent last, Trail react made first sent last ∧ (sent ++ [last]).length ≤ 11 ∧
        answer.state = made ++ sent ++ requested last ∧
        ((∀ r, Gets react made first (.response r) → Final first.url r) → sent = [])) ∧
      (∀ c, answer.value = .ok c ↔ ∃ r, Reaches react made first r ∧ Holds r c) ∧
      (∀ code asked, answer.value = .error (.status code asked) ↔
        ∃ r, Reaches react made first r ∧
          asked = id ∧ r.status = code ∧ ¬ (200 ≤ code ∧ code ≤ 299)) ∧
      ((∃ failure, answer.value = .error (.exchange failure)) ↔
        ∀ r, Reaches react made first r →
          (200 ≤ r.status ∧ r.status ≤ 299) ∧ ∀ c, ¬ Holds r c) ∧
      ∀ failure, answer.value = .error (.exchange failure) → failure.isTimeout = true →
        timeout.isSome := by
  obtain ⟨base, hbase, rfl⟩ := connect_eq_ok.mp h
  refine ⟨base, hbase, ask_requests (net timeout) (customerUrl base id) id made, ?_, ?_, ?_, ?_⟩
  · intro c
    rw [ask_eq (by simp)]
    simp only [record_eq_ok]
  · intro code asked
    rw [ask_eq (by simp)]
    simp only [record_eq_status]
  · rw [ask_eq_exchange]
    simp only [record_eq_exchange]
  · intro failure hfailure
    exact limited_of_ask hfailure

/-- An API on the machine itself. -/
def localApi : Url :=
  ⟨.http, {}, .ipv6 [0, 0, 0, 0, 0, 0, 0, 1], some 8080, ⟨[], "v1".toList⟩, none, none⟩

/-- The client of it. -/
def localClient (timeout : Option Nat) : Client := ⟨.web localApi, timeout⟩

/-- A network where everything has moved once and is gone from there. -/
def moved : Network := fun _ made _ =>
  if made = [] then .response ⟨301, some "/v2/gone", .broken⟩
  else .response ⟨404, none, .broken⟩

theorem moved_refuses :
    connect moved "http://[::1]:8080/v1" (some 5) = .ok ((localClient (some 5)).directory moved) ∧
      (((localClient (some 5)).directory moved).ask "7" []).value = .error (.status 404 "7") := by
  have hconnect : connect moved "http://[::1]:8080/v1" (some 5) =
      .ok ((localClient (some 5)).directory moved) := rfl
  obtain ⟨base, hbase, -, -, hstatus, -⟩ := lookup_outcome hconnect "7" []
  obtain rfl : localApi = base := Except.ok.inj hbase
  refine ⟨hconnect, (hstatus 404 "7").mpr ⟨⟨404, none, .broken⟩, ?_, rfl, rfl, by decide⟩⟩
  let first := opening (customerUrl localApi "7")
  let gone : Url := { localApi with path := ⟨["v2".toList], "gone".toList⟩ }
  have hredirects : Redirects first.url (⟨301, some "/v2/gone", .broken⟩ : Response (some 5))
      (.web gone) := ⟨by decide, "/v2/gone", rfl, rfl⟩
  have htrail : Trail (moved (some 5)) [] first [first] (onward first gone) :=
    .onward .start ⟨rfl, rfl⟩ hredirects
  refine ⟨[first], onward first gone, htrail, by decide, ⟨rfl, rfl⟩, ?_⟩
  rintro a ⟨hstatus, -⟩
  revert hstatus
  decide

end Remote

end OrderDesk
