/-
# `Remote` — the customer API

The record of a customer is at the address of the API, one segment
`users` down and one segment with the id down from there.  An answer
with a status in the two hundreds holds the record; every other answer
means that the API refuses.  There is one attempt for each question, and
the client waits for it as long as its timeout says.

A client is made from a text that is checked first and read after that,
and keeps what it was read as.
-/
import OrderDesk.Lookup
import OrderDesk.Network
import OrderDesk.Settings

namespace OrderDesk

namespace Remote

/-- The address of a customer below the address of the API. -/
def customerUrl (base : Url) (id : String) : Url := (base.trim.child "users").child id

/-- Is this the status of an answer that holds what was asked for? -/
def isSuccess (status : Nat) : Bool := 200 ≤ status && status ≤ 299

section Asking

variable {timeout : Option Nat}

/-- The record that a final response holds. -/
def record (id : String) (r : Response timeout) : Except LookupError Customer :=
  if isSuccess r.status then
    match r.body with
    | .whole octets =>
      match Customer.decode octets with
      | .ok customer => .ok customer
      | .error _ => .error (.exchange (.decoding false))
    | .broken => .error (.exchange (.decoding false))
    | .endless _ => .error (.exchange (.decoding true))
  else .error (.status r.status id)

/-- Asks for the record of an id at its address. -/
def ask (net : Reaction timeout) (url : Url) (id : String) (made : List Request) :
    Answer (List Request) (Except LookupError Customer) :=
  match Network.exchange net url made with
  | (.error failure, made) => ⟨.error (.exchange failure), [.request url.text], made⟩
  | (.ok response, made) =>
    ⟨record id response, [.request url.text, .response response.status], made⟩

end Asking

/-- A client of the customer API: where that is, and how many seconds an answer may
take. -/
structure Client where
  address : Address
  timeout : Option Nat

namespace Client

/-- Makes a client: the text is checked and then read anew. -/
def new (baseUrl : String) (timeout : Option Nat) : Except LookupError Client := do
  let _ ← Validation.address Settings.urlField baseUrl
  match Address.parse baseUrl with
  | .ok address => .ok ⟨address, timeout⟩
  | .error e => .error (.configuration ("Invalid customer API URL: " ++ e.message))

/-- The address of a customer below that of a client.  Segments are put behind
addresses of the web; clients that were made have no other. -/
def customerUrl (c : Client) (id : String) : Except LookupError Url :=
  match c.address with
  | .web base => .ok (Remote.customerUrl base id)
  | .other url => .error (.configuration ("Customer API URL cannot be a base: " ++ url.text))

/-- The directory that a client makes of a network; its state are the requests
made. -/
def directory (net : Network) (c : Client) : Directory (List Request) where
  ask id made :=
    match c.customerUrl id with
    | .error e => ⟨.error e, [], made⟩
    | .ok url => ask (net c.timeout) url id made

end Client

/-- The customer API at an address that is still text. -/
def connect (net : Network) (baseUrl : String) (timeout : Option Nat := none) :
    Except LookupError (Directory (List Request)) :=
  (Client.new baseUrl timeout).map (Client.directory net)

end Remote

/-- The directory that settings name. -/
def Provider.directory [Provider α] (net : Network) (p : α) :
    Except LookupError (Directory (List Request)) :=
  match source p with
  | .canned => .ok Lookup.cannedDirectory
  | .remote => Remote.connect net (baseUrl p) (timeout p)

/-- The directory that the settings in effect name. -/
def Settings.directory (net : Network) (s : Settings) :
    Except LookupError (Directory (List Request)) :=
  Provider.directory net s

end OrderDesk
