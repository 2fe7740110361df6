/-
# `Settings` — where and how customers are looked up

Settings come in layers: the standard ones, those of a file, those of the
command line.  A layer sets each of the three or leaves it, and an upper
layer wins over a lower one for each setting by itself.  What a lower
layer says is not looked at when an upper one says otherwise.

The settings in effect are not the only thing that can be asked for the
three: a file can be asked as well.  The checks are the same for all that
can (`Provider`).
-/
import OrderDesk.Json.Value
import OrderDesk.Source
import OrderDesk.Validation

namespace OrderDesk

/-- Where and how customers are looked up. -/
structure Settings where
  baseUrl : String
  timeout : Option Nat
  source : Source
  deriving DecidableEq

/-- What can be asked for the settings. -/
class Provider (α : Type) where
  baseUrl : α → String
  timeout : α → Option Nat
  source : α → Source

instance : Provider Settings := ⟨Settings.baseUrl, Settings.timeout, Settings.source⟩

/-- What one layer says about the settings. -/
structure Layer where
  baseUrl : Option String := none
  timeout : Option Nat := none
  source : Option Source := none
  deriving DecidableEq

/-- Two layers as one, `upper` winning. -/
def Layer.over (upper lower : Layer) : Layer where
  baseUrl := upper.baseUrl <|> lower.baseUrl
  timeout := upper.timeout <|> lower.timeout
  source := upper.source <|> lower.source

namespace Settings

/-- The address of the customer API when no layer gives one. -/
def standardUrl : String := "https://jsonplaceholder.typicode.com"

/-- The settings below all layers. -/
def standard : Settings := ⟨standardUrl, none, .canned⟩

instance : Inhabited Settings := ⟨standard⟩

/-- The settings with a layer over them. -/
def under (s : Settings) (l : Layer) : Settings where
  baseUrl := l.baseUrl.getD s.baseUrl
  timeout := l.timeout <|> s.timeout
  source := l.source.getD s.source

/-- What errors call the address. -/
def urlField : String := "customer_api.base_url"

/-- What errors call the timeout. -/
def timeoutField : String := "customer_api.timeout_seconds"

end Settings

/-- The address must be one of the web if it is needed, and a timeout must
be at least a second. -/
def Provider.validate [Provider α] (p : α) : Except LookupError Unit := do
  if source p = .remote then
    let _ ← Validation.address Settings.urlField (baseUrl p)
  match timeout p with
  | none => pure ()
  | some seconds => Validation.number Settings.timeoutField seconds 1

namespace Settings

/-- The checks of the settings in effect. -/
def validate (s : Settings) : Except LookupError Unit := Provider.validate s

/-- The JSON form, grouped as in a file. -/
def json (s : Settings) : Json.Value :=
  .object
    [("customer_api".toList, .object
      [("base_url".toList, .ofString s.baseUrl),
       ("timeout_seconds".toList, s.timeout.elim .null .ofNat)]),
     ("lookup".toList, .object [("source".toList, .ofString s.source.name)])]

end Settings

end OrderDesk
