/-
# `LookupError` — what can go wrong on the way to a customer

Five causes: the exchange with the customer API failed, the API refused,
a file could not be read, the configuration does not make sense, or one
setting has a value that cannot be used.  Each cause has two wordings,
one for the log (`message`) and one for people (`friendly`).
-/
import OrderDesk.FileError

namespace OrderDesk

/-- How an exchange with the customer API failed. -/
inductive ExchangeFailure where
  /-- No complete answer came back for a request. -/
  | sending (url : String) (timedOut : Bool)
  /-- The answer holds no customer, or broke off. -/
  | decoding (timedOut : Bool)
  /-- The answers led from one place to the next too often. -/
  | redirects (url : String)
  /-- The address, or one that the answer led to, cannot be asked for. -/
  | target (url : String)
  deriving DecidableEq, Repr

/-- What can go wrong on the way to a customer. -/
inductive LookupError where
  | exchange (failure : ExchangeFailure)
  | status (code : Nat) (customerId : String)
  | file (error : FileError)
  | configuration (message : String)
  | setting (field value reason : String)
  deriving DecidableEq, Repr

/-- The wording of a failed exchange. -/
def ExchangeFailure.message : ExchangeFailure → String
  | .sending url _ => "error sending request for url (" ++ url ++ ")"
  | .decoding _ => "error decoding response body"
  | .redirects url => "error following redirect for url (" ++ url ++ ")"
  | .target url => "builder error for url (" ++ url ++ ")"

/-- Did the exchange fail because its time was up? -/
def ExchangeFailure.isTimeout : ExchangeFailure → Bool
  | .sending _ timedOut | .decoding timedOut => timedOut
  | _ => false

/-- The wording of a failed exchange for people. -/
def ExchangeFailure.friendly (failure : ExchangeFailure) : String :=
  if failure.isTimeout then "The customer API did not answer in time"
  else match failure with
    | .decoding _ => "Customer API sent a response that is not a customer record"
    | _ => "Could not reach the customer API"

namespace LookupError

/-- The wording for the log. -/
def message : LookupError → String
  | .exchange failure => "API request failed: " ++ failure.message
  | .status code id =>
    "Customer API returned " ++ String.ofList (Decimal.text code) ++
      " for customer '" ++ id ++ "'"
  | .file error => "IO error: " ++ error.message
  | .configuration message => "Configuration error: " ++ message
  | .setting field value reason =>
    "Invalid value '" ++ value ++ "' for " ++ field ++ ": " ++ reason

/-- The wording for people. -/
def friendly : LookupError → String
  | .exchange failure => failure.friendly
  | .status code id =>
    "Customer API rejected the lookup of '" ++ id ++ "' (HTTP " ++
      String.ofList (Decimal.text code) ++ ")"
  | .file error => "File access failed: " ++ error.message
  | .configuration message => "Configuration problem: " ++ message
  | .setting field _ reason => "Setting '" ++ field ++ "' is invalid: " ++ reason

/-- Does the error lie in the configuration? -/
def isConfiguration : LookupError → Bool
  | .configuration _ | .setting .. => true
  | _ => false

end LookupError

end OrderDesk
