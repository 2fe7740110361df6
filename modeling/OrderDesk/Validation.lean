/-
# `Validation` — which values a setting may have

The address of the customer API must be a web address, and numbers must
reach their minimum.
-/
import OrderDesk.LookupError
import OrderDesk.Url.Reading

namespace OrderDesk

namespace Validation

/-- An address must be one of the web; if it is, here it is. -/
def address (field value : String) : Except LookupError Url :=
  if value = "" then .error (.setting field value "URL cannot be empty")
  else match Address.parse value with
    | .ok (.web url) => .ok url
    | .ok (.other url) =>
      .error (.setting field value ("Unsupported URL scheme: " ++ String.ofList url.scheme))
    | .error e => .error (.setting field value ("Invalid URL format: " ++ e.message))

/-- A number must not be below its minimum. -/
def number (field : String) (value least : Nat) : Except LookupError Unit :=
  if value < least then
    .error (.setting field (String.ofList (Decimal.text value))
      ("Value must be at least " ++ String.ofList (Decimal.text least)))
  else .ok ()

end Validation

end OrderDesk
