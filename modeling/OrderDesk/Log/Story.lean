/-
# `Story` — what the program writes into its log

Each step of a run has one record.  The parts of the program have paths,
by which filters tell them apart.
-/
import OrderDesk.CommandLine.Listing
import OrderDesk.Event
import OrderDesk.Log.Filter
import OrderDesk.Status

namespace OrderDesk

namespace Log

/-- The path of the program, which all its parts have in front. -/
def root : String := "bamoe_poc"

/-- The path of the part that looks customers up. -/
def lookupPart : String := root ++ "::core::lookup"

/-- The path of the built-in directory. -/
def cannedPart : String := root ++ "::adapters::canned"

/-- The path of the part that talks to the customer API. -/
def remotePart : String := root ++ "::adapters::http"

/-- The program starts. -/
def started : Record := { level := .info, part := root, message := "Starting bamoe-poc CLI" }

/-- This is what the program is asked to do. -/
def asked (c : CommandLine) : Record :=
  { level := .debug, part := root, message := "CLI config: " ++ c.listing }

/-- The settings cannot be used. -/
def unusable (e : LookupError) : Record :=
  { level := .error, part := root, message := "❌ Configuration validation failed: " ++ e.message }

/-- The settings are in use. -/
def configured (s : Source) : Record :=
  { level := .info, part := root, message := "Customer lookup configured"
    fields := [("source", s.title)] }

/-- An order has been made. -/
def created (o : Order) : Record :=
  { level := .info, part := root, message := "Created " ++ o.line }

end Log

/-- The record of an event. -/
def Event.record : Event → Log.Record
  | .fixedAnswer id =>
    { level := .debug, part := Log.lookupPart, message := "Answered from fixed customer table"
      fields := [("customer_id", id)] }
  | .cannedAnswer id =>
    { level := .debug, part := Log.cannedPart, message := "Answering from canned directory"
      fields := [("customer_id", id)] }
  | .request url =>
    { level := .debug, part := Log.remotePart, message := "Making API request to: " ++ url }
  | .response status =>
    { level := .debug, part := Log.remotePart
      message := "API response status: " ++ Status.line status }
  | .lookupFailed id e =>
    { level := .error, part := Log.lookupPart
      message := "Customer lookup failed, returning fallback customer"
      fields := [("customer_id", id), ("error", e.message)] }

namespace Log

/-- The variable that holds the filter. -/
def filterVariable : String := "RUST_LOG"

/-- The filter where the variable holds none that can be read. -/
def standard (verbose : Bool) : Filter :=
  if verbose then [.below root (some .debug), .all (some .info)] else [.below root (some .info)]

/-- The filter of a run. -/
def filter (env : Environment) (verbose : Bool) : Filter :=
  ((env filterVariable).bind Filter.parse?).getD (standard verbose)

end Log

end OrderDesk
