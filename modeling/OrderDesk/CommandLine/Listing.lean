/-
# `Listing` — a command line with all its fields

The form in which the log shows what the program is asked to do: every
field by name, an option that is not there as `None`, texts in quotation
marks.
-/
import OrderDesk.CommandLine
import OrderDesk.Quoted

namespace OrderDesk

namespace CommandLine

/-- A text in quotation marks. -/
def quoted (s : String) : String := String.ofList (Quoted.quote s.toList)

/-- A field that may not be there. -/
def listOption (write : α → String) : Option α → String
  | none => "None"
  | some a => "Some(" ++ write a ++ ")"

/-- A record of fields. -/
def listFields (name : String) (fields : List (String × String)) : String :=
  name ++ " \x7b " ++ ", ".intercalate (fields.map fun f => f.1 ++ ": " ++ f.2) ++ " \x7d"

end CommandLine

/-- The fields of a command. -/
def Command.listing : Command → String
  | .customer ids =>
    CommandLine.listFields "Customer"
      [("ids", "[" ++ ", ".intercalate (ids.map CommandLine.quoted) ++ "]")]
  | .order id customerId amount =>
    CommandLine.listFields "Order"
      [("id", CommandLine.quoted id), ("customer_id", CommandLine.quoted customerId),
        ("amount", Notation.field.render amount)]

namespace CommandLine

/-- The fields of a command line. -/
def listing (c : CommandLine) : String :=
  listFields "CliConfig"
    [("config", listOption (fun p => String.ofList (Quoted.path p)) c.options.config),
      ("source", listOption Source.title c.options.layer.source),
      ("base_url", listOption quoted c.options.layer.baseUrl),
      ("timeout_seconds",
        listOption (fun n => String.ofList (Decimal.text n)) c.options.layer.timeout),
      ("verbose", toString c.options.verbose), ("json_logs", toString c.options.jsonLogs),
      ("command", c.command.listing)]

end CommandLine

end OrderDesk
