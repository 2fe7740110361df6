/-
# `Settings.File` — settings from a TOML text

A file may hold a table `customer_api` with `base_url` and
`timeout_seconds` and a table `lookup` with `source`; an array of the
values in this order stands for the table as well.  Other members are
passed over, but even in them a number must not be larger than any
number can be.  Members are looked at in the order of their names, and
the first fault is told.

Placeholders are filled in before the text is read at all, so places
refer to the text filled in.
-/
import OrderDesk.Settings
import OrderDesk.Template
import OrderDesk.Toml.Document

namespace OrderDesk

namespace Settings

open Toml (Fault Members Scalar Span Value faultIn)

/-- The value of an amount, which must not be larger than the largest one
unless it is an infinity by name. -/
def amountOf (span : Span) (text : List Char) : Except Fault Binary64 :=
  match Binary64.parse text with
  | .ok (.infinite negative) =>
    if text.contains 'i' then .ok (.infinite negative)
    else faultIn (.overflow "floating-point") span
  | .ok x => .ok x
  | .error _ => faultIn (.overflow "floating-point") span

/-- A whole number, which must fit into 128 bits. -/
def integerOf (span : Span) (n : Int) : Except Fault Int :=
  if -0x80000000000000000000000000000000 ≤ n ∧ n < 0x100000000000000000000000000000000 then .ok n
  else faultIn (.overflow "integer") span

/-- What a value is found to be where another is wanted. -/
def foundOf (span : Span) : Value → Except Fault Toml.Found
  | .scalar (.text s) => .ok (.text (String.ofList s))
  | .scalar (.integer n) => (integerOf span n).map .integer
  | .scalar (.amount text) => (amountOf span text).map .float
  | .scalar (.bool b) => .ok (.bool b)
  | .scalar .moment => .ok .map
  | .array .. => .ok .sequence
  | .table .. => .ok .map

/-- A value of another kind than the one wanted. -/
def wrongType (span : Span) (v : Value) (wanted : String) : Except Fault α := do
  let found ← foundOf span v
  faultIn (.wrongType found wanted) span

mutual

/-- A value that is passed over. -/
def pass (span : Span) : Value → Except Fault Unit
  | .scalar (.integer n) => (integerOf span n).map fun _ => ()
  | .scalar (.amount text) => (amountOf span text).map fun _ => ()
  | .scalar _ => .ok ()
  | .array _ elements => passElements elements
  | .table _ members => passMembers members

/-- Elements that are passed over. -/
def passElements : List (Span × Value) → Except Fault Unit
  | [] => .ok ()
  | (span, v) :: rest => do
    pass span v
    passElements rest

/-- Members that are passed over. -/
def passMembers : Members → Except Fault Unit
  | [] => .ok ()
  | (_, span, v) :: rest => do
    pass span v
    passMembers rest

end

/-- A text. -/
def textOf (span : Span) : Value → Except Fault String
  | .scalar (.text s) => .ok (String.ofList s)
  | v => wrongType span v "a string"

/-- A number of 64 bits without a sign. -/
def naturalOf (span : Span) : Value → Except Fault Nat
  | .scalar (.integer n) =>
    if 0 ≤ n ∧ n < 0x10000000000000000 then .ok n.toNat
    else if -0x8000000000000000 ≤ n ∧ n < 0 then faultIn (.wrongValue (.integer n) "u64") span
    else wrongType span (.scalar (.integer n)) "u64"
  | v => wrongType span v "u64"

/-- What comes with the name of a source must say nothing. -/
def checkPayload (span : Span) : Value → Except Fault Unit
  | .array _ [] | .table _ [] => .ok ()
  | .array .. => faultIn (.payload "empty array") span
  | .table .. => faultIn (.payload "empty table") span
  | .scalar (.text _) => faultIn (.payload "table, found string") span
  | .scalar (.integer _) => faultIn (.payload "table, found integer") span
  | .scalar (.amount _) => faultIn (.payload "table, found float") span
  | .scalar (.bool _) => faultIn (.payload "table, found boolean") span
  | .scalar .moment => faultIn (.payload "table, found datetime") span

/-- The source of a name. -/
def sourceNamed (span : Span) (name : String) : Except Fault Source :=
  match Source.ofName? name with
  | some source => .ok source
  | none => faultIn (.unknownVariant name Source.names) span

/-- A source: its name, or a table with its name as the only member. -/
def sourceOf (span : Span) : Value → Except Fault Source
  | .scalar (.text s) => sourceNamed span (String.ofList s)
  | .table _ [] => faultIn .noVariant span
  | .table _ [(key, inner, v)] => do
    let source ← sourceNamed key.span key.name
    checkPayload inner v
    pure source
  | .table .. => faultIn .severalVariants span
  | _ => faultIn .notVariant span

/-- The members of the table `customer_api`. -/
def apiMembers (l : Layer) : Members → Except Fault Layer
  | [] => .ok l
  | (key, span, v) :: rest => do
    let l ←
      if key.name = "base_url" then do pure { l with baseUrl := some (← textOf span v) }
      else if key.name = "timeout_seconds" then do
        pure { l with timeout := some (← naturalOf span v) }
      else do
        pass span v
        pure l
    apiMembers l rest

/-- What is said about the customer API. -/
def apiOf (l : Layer) (span : Span) : Value → Except Fault Layer
  | .table _ members => apiMembers l members
  | .array _ ((first, url) :: (second, seconds) :: _) => do
    let url ← textOf first url
    let seconds ← naturalOf second seconds
    pure { l with baseUrl := some url, timeout := some seconds }
  | .array _ [(first, url)] => do
    let _ ← textOf first url
    faultIn (.wrongLength 1 "struct CustomerApiConfig with 2 elements") span
  | .array _ [] => faultIn (.wrongLength 1 "struct CustomerApiConfig with 2 elements") span
  | .scalar .moment => .ok l
  | v => wrongType span v "struct CustomerApiConfig"

/-- The members of the table `lookup`. -/
def lookupMembers (l : Layer) : Members → Except Fault Layer
  | [] => .ok l
  | (key, span, v) :: rest => do
    let l ←
      if key.name = "source" then do pure { l with source := some (← sourceOf span v) }
      else do
        pass span v
        pure l
    lookupMembers l rest

/-- What is said about the lookup. -/
def lookupOf (l : Layer) (span : Span) : Value → Except Fault Layer
  | .table _ members => lookupMembers l members
  | .array _ ((first, source) :: _) => do
    pure { l with source := some (← sourceOf first source) }
  | .array _ [] => .ok l
  | .scalar .moment => .ok l
  | v => wrongType span v "struct LookupConfig"

/-- The members of a document. -/
def documentMembers (l : Layer) : Members → Except Fault Layer
  | [] => .ok l
  | (key, span, v) :: rest => do
    let l ←
      if key.name = "customer_api" then apiOf l span v
      else if key.name = "lookup" then lookupOf l span v
      else do
        pass span v
        pure l
    documentMembers l rest

end Settings

namespace Layer

/-- What a TOML text says about the settings. -/
def ofToml (text : List Char) : Except Toml.Fault Layer := do
  Settings.documentMembers {} (← Toml.document text)

/-- What a text with placeholders says about the settings. -/
def ofText (env : Environment) (text : String) : Except LookupError Layer :=
  let filled := Template.fill env text.toList
  match ofToml filled with
  | .ok l => .ok l
  | .error fault => .error (.configuration ("TOML parsing error: " ++ fault.message filled))

/-- What a file says about the settings; its content is there in octets or
could not be had. -/
def ofFile (env : Environment) (content : Except FileError (List UInt8)) :
    Except LookupError Layer :=
  match content with
  | .error e => .error (.file e)
  | .ok octets =>
    match Utf8.string? octets with
    | none => .error (.file .notText)
    | some text => ofText env text

end Layer

end OrderDesk
