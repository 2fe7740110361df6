/-
# `Network` — requests and what becomes of them

The network is a reaction to a request that may depend on all requests
that were made before, those that nobody received included.  A reaction is
what the one who asks gets to see of it.  How long that one waits is up to
the network too: it may answer a patient client and keep an impatient one
waiting.  What never comes is waited for as long as the timeout lets, so
without a timeout there is no such reaction, and none can be written down.

`Network.exchange` asks for an address and follows the redirections it is
answered with, ten at most, until an answer is final.
-/
import OrderDesk.LookupError
import OrderDesk.Url.Reading

namespace OrderDesk

/-- A request for an address; the user goes along apart from it. -/
structure Request where
  url : Url
  user : User
  deriving DecidableEq

/-- The body of a response, as far as it arrives within a timeout. -/
inductive Body (timeout : Option Nat) where
  | whole (octets : List UInt8)
  | broken
  /-- The end does not arrive in time. -/
  | endless (limited : timeout.isSome)

/-- A response. -/
structure Response (timeout : Option Nat) where
  status : Nat
  location : Option String
  body : Body timeout

/-- What becomes of a request within a timeout. -/
inductive Reply (timeout : Option Nat) where
  /-- Nobody receives the request. -/
  | refused
  /-- The request is received, and no proper response comes back. -/
  | broken
  /-- There is no response in time. -/
  | silence (limited : timeout.isSome)
  | response (r : Response timeout)

/-- A reaction to a request after those made before. -/
abbrev Reaction (timeout : Option Nat) := List Request → Request → Reply timeout

/-- The reaction to clients with each timeout, in seconds. -/
abbrev Network := (timeout : Option Nat) → Reaction timeout

namespace Network

variable {timeout : Option Nat}

/-- The network that nobody is on. -/
def unreachable : Network := fun _ _ _ => .refused

/-- The statuses of redirections. -/
def isRedirection (status : Nat) : Bool := [301, 302, 303, 307, 308].contains status

/-- How many redirections are followed. -/
def redirectionLimit : Nat := 10

/-- Where a response leads; nothing if it is final. -/
def next? (origin : Url) (r : Response timeout) : Option Address :=
  if isRedirection r.status then
    match r.location.map origin.join with
    | some (.ok address) => some address
    | _ => none
  else none

/-- Have two addresses the same machine and port? -/
def sameOrigin (a b : Url) : Bool :=
  a.host == b.host && a.port.getD a.scheme.port == b.port.getD b.scheme.port

/-- The first request for an address. -/
def opening (url : Url) : Request := ⟨url.withoutUser, url.user⟩

/-- The request for an address that another request was redirected to.  The user
goes along if it stays with the same machine. -/
def onward (request : Request) (url : Url) : Request :=
  ⟨url.withoutUser, if sameOrigin request.url url then request.user else {}⟩

/-- Follows a request to its final response.  `origin` is the address that
was asked for first, `left` how many redirections may still be followed.
Answers the requests made as well. -/
def follow (net : Reaction timeout) (origin : Url) (made : List Request) (request : Request)
    (left : Nat) : Except ExchangeFailure (Response timeout) × List Request :=
  if request.url.isRequestable then
    match net made request with
    | .refused | .broken => (.error (.sending origin.text false), made ++ [request])
    | .silence _ => (.error (.sending origin.text true), made ++ [request])
    | .response r =>
      match next? request.url r, left with
      | none, _ => (.ok r, made ++ [request])
      | some _, 0 => (.error (.redirects request.url.text), made ++ [request])
      | some (.other url), _ + 1 => (.error (.target url.text), made ++ [request])
      | some (.web url), left + 1 => follow net origin (made ++ [request]) (onward request url) left
  else (.error (.target request.url.text), made)

/-- Asks for an address after the requests made before. -/
def exchange (net : Reaction timeout) (url : Url) (made : List Request) :
    Except ExchangeFailure (Response timeout) × List Request :=
  follow net url.withoutUser made (opening url) redirectionLimit

end Network

end OrderDesk
