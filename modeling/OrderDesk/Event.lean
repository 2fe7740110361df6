/-
# `Event` — what is worth a line in the log

Events are what happened, not how it is shown; `Log` turns them into
lines.  Those of a lookup name the customer id that was asked for.
-/
import OrderDesk.LookupError

namespace OrderDesk

/-- What happened during a lookup. -/
inductive Event where
  /-- One of the fixed customers answered. -/
  | fixedAnswer (customerId : String)
  /-- The built-in directory answers. -/
  | cannedAnswer (customerId : String)
  /-- A request goes out. -/
  | request (url : String)
  /-- A response with this status came back. -/
  | response (status : Nat)
  /-- A lookup failed, and a placeholder takes the place of its result. -/
  | lookupFailed (customerId : String) (error : LookupError)
  deriving DecidableEq, Repr

end OrderDesk
