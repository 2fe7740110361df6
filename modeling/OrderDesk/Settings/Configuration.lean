/-
# `Settings.Configuration` — the settings of one file

A file is read into its two tables, with the standard values where it is
silent.  It is a provider of settings by itself, and the bottom of what
the command line is laid over.
-/
import OrderDesk.Settings.File

namespace OrderDesk

/-- The table of a file about the customer API. -/
structure ApiTable where
  baseUrl : String := Settings.standardUrl
  timeout : Option Nat := none

/-- The table of a file about the lookup. -/
structure LookupTable where
  source : Source := .canned

/-- A file with the standard values where it is silent. -/
structure Configuration where
  api : ApiTable := {}
  lookup : LookupTable := {}

namespace Configuration

instance : Provider Configuration :=
  ⟨fun c => c.api.baseUrl, fun c => c.api.timeout, fun c => c.lookup.source⟩

/-- The configuration of what a file says. -/
def ofLayer (l : Layer) : Configuration where
  api := { baseUrl := l.baseUrl.getD Settings.standardUrl, timeout := l.timeout }
  lookup := { source := l.source.getD .canned }

/-- The configuration of a text with placeholders. -/
def ofText (env : Environment) (text : String) : Except LookupError Configuration :=
  (Layer.ofText env text).map ofLayer

/-- The configuration of a file with this content. -/
def ofFile (env : Environment) (content : Except FileError (List UInt8)) :
    Except LookupError Configuration :=
  (Layer.ofFile env content).map ofLayer

end Configuration

/-- The settings that a configuration stands for. -/
def Settings.ofConfiguration (c : Configuration) : Settings :=
  ⟨Provider.baseUrl c, Provider.timeout c, Provider.source c⟩

/-- What a file says comes into effect by way of its configuration. -/
theorem Settings.ofConfiguration_ofLayer (l : Layer) :
    ofConfiguration (.ofLayer l) = standard.under l := by
  cases l with
  | mk baseUrl timeout source =>
      cases timeout with
      | none => rfl
      | some seconds => rfl

end OrderDesk
