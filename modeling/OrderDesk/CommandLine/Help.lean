/-
# `Help` — what the command line can hold, for people

A help text says what the program or one of its commands is for, how it
is used, and what its parts are.  In the brief form each part has one
line, and the explanations of a section begin in one column; in the full
form the explanation stands below the part, and parts are set apart by
blank lines.
-/
import OrderDesk.CommandLine.Switch
import OrderDesk.Source

namespace OrderDesk

namespace CommandLine

/-- The name under which the program is called. -/
def program : String := "bamoe-poc"

/-- What a help text is about. -/
inductive Topic where
  | program
  | customer
  | order
  | help
  deriving DecidableEq, Repr

namespace Topic

/-- The commands, as they are listed. -/
def commands : List Topic := [.customer, .order, .help]

/-- The word for a command. -/
def name : Topic → String
  | .program => CommandLine.program
  | .customer => "customer"
  | .order => "order"
  | .help => "help"

/-- What a command is for. -/
def about : Topic → String
  | .program => "Look up customers and inspect orders"
  | .customer => "Look up one or more customers by id"
  | .order => "Build a pending order and resolve its customer"
  | .help => "Print this message or the help of the given subcommand(s)"

/-- How a command is used. -/
def usage : Topic → String
  | .program => " [OPTIONS] <COMMAND>"
  | .customer => " customer [OPTIONS] <IDS>..."
  | .order => " order [OPTIONS] --id <ID> --customer-id <CUSTOMER_ID> --amount <AMOUNT>"
  | .help => " help [COMMAND]..."

end Topic

namespace Help

/-- A part that is explained, in the brief form and in the full one. -/
structure Entry where
  part : String
  brief : String
  full : List String

/-- An entry with one explanation for both forms. -/
def Entry.of (part about : String) : Entry := ⟨part, about, [about]⟩

/-- A heading with the parts under it. -/
structure Section where
  heading : String
  entries : List Entry

/-- What a source stands for. -/
def sourceAbout : Source → String
  | .canned => "Built-in directory, no network"
  | .remote => "The configured customer API"

/-- The list of sources behind an explanation. -/
def sourceNames : String := "[possible values: " ++ ", ".intercalate Source.names ++ "]"

/-- The part of a switch that has no letter of its own. -/
def unlettered (s : Switch) : String := "    " ++ s.shown

/-- The entry of a switch. -/
def switchEntry (s : Switch) : Entry :=
  match s with
  | .valued .config => .of (unlettered s) "TOML configuration file"
  | .valued .source =>
    ⟨unlettered s, sourceNames,
      "Possible values:" ::
        [Source.canned, .remote].map fun s => "- " ++ s.name ++ ": " ++ sourceAbout s⟩
  | .valued .baseUrl => .of (unlettered s) "Customer API base URL"
  | .valued _ => .of (unlettered s) ""
  | .flag .verbose => .of (unlettered s) "Enable verbose output"
  | .flag .jsonLogs => .of (unlettered s) "Emit logs as JSON"
  | .help =>
    ⟨"-h, " ++ s.shown, "Print help (see more with '--help')",
      ["Print help (see a summary with '-h')"]⟩

/-- The switches of a place. -/
def switches (p : Place) : Section := ⟨"Options:", p.switches.map switchEntry⟩

/-- A text with blanks behind it up to a width. -/
def pad (width : Nat) (s : String) : String := s.pushn ' ' (width - s.length)

/-- A section in the brief form. -/
def Section.brief (s : Section) : String :=
  let width := (s.entries.map (·.part.length)).foldl max 0
  "\n".intercalate (s.heading :: s.entries.map fun e => "  " ++ pad width e.part ++ "  " ++ e.brief)

/-- An entry in the full form. -/
def Entry.text (e : Entry) : String :=
  "\n".intercalate (("  " ++ e.part) :: e.full.map ("          " ++ ·))

/-- A section in the full form. -/
def Section.full (s : Section) : String :=
  s.heading ++ "\n" ++ "\n\n".intercalate (s.entries.map Entry.text)

/-- The commands. -/
def commands : Section :=
  ⟨"Commands:", Topic.commands.map fun t => .of t.name t.about⟩

/-- The sections about a topic in the brief or in the full form; commands
have one line in both, and there is no more to say about help. -/
def sections (full : Bool) : Topic → List String
  | .program => [commands.brief, form (switches .top)]
  | .customer => [form ⟨"Arguments:", [.of "<IDS>..." ""]⟩, form (switches .customer)]
  | .order => [form (switches .order)]
  | .help => [Section.brief ⟨"Arguments:", [.of "[COMMAND]..." "Print help for the subcommand(s)"]⟩]
where
  /-- A section in the form asked for. -/
  form (s : Section) : String := if full then s.full else s.brief

/-- The help text about a topic. -/
def text (full : Bool) (t : Topic) : String :=
  "\n\n".intercalate (t.about :: ("Usage: " ++ program ++ t.usage) :: sections full t) ++ "\n"

end Help

end CommandLine

end OrderDesk
