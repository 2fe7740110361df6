/-
# `Switch` — what can be said behind two hyphens

A switch is an option with a value, a flag, or the wish for help.  Each
place of the command line, before the command or behind one of the two
commands, has its own list of switches, in the order in which they are
listed for people; the common ones are in every list.
-/
namespace OrderDesk

namespace CommandLine

/-- An option, which has a value. -/
inductive Valued where
  | config
  | id
  | customerId
  | source
  | amount
  | baseUrl
  | timeout
  deriving DecidableEq, Repr

/-- A flag, which has none. -/
inductive Flag where
  | verbose
  | jsonLogs
  deriving DecidableEq, Repr

/-- What can be said behind two hyphens. -/
inductive Switch where
  | valued (v : Valued)
  | flag (f : Flag)
  | help
  deriving DecidableEq, Repr

/-- The name of an option. -/
def Valued.name : Valued → String
  | .config => "config"
  | .id => "id"
  | .customerId => "customer-id"
  | .source => "source"
  | .amount => "amount"
  | .baseUrl => "base-url"
  | .timeout => "timeout-seconds"

/-- What stands for the value of an option. -/
def Valued.metavariable : Valued → String
  | .config => "CONFIG"
  | .id => "ID"
  | .customerId => "CUSTOMER_ID"
  | .source => "SOURCE"
  | .amount => "AMOUNT"
  | .baseUrl => "BASE_URL"
  | .timeout => "TIMEOUT_SECONDS"

/-- The name of a flag. -/
def Flag.name : Flag → String
  | .verbose => "verbose"
  | .jsonLogs => "json-logs"

/-- The name of a switch. -/
def Switch.name : Switch → String
  | .valued v => v.name
  | .flag f => f.name
  | .help => "help"

/-- An option as people are shown it. -/
def Valued.shown (v : Valued) : String := "--" ++ v.name ++ " <" ++ v.metavariable ++ ">"

/-- A switch as people are shown it. -/
def Switch.shown : Switch → String
  | .valued v => v.shown
  | s => "--" ++ s.name

/-- Where a word of the command line stands. -/
inductive Place where
  | top
  | customer
  | order
  deriving DecidableEq, Repr

/-- The switches of a place, as they are listed. -/
def Place.switches : Place → List Switch
  | .order =>
    [.valued .config, .valued .id, .valued .customerId, .valued .source, .valued .amount,
      .valued .baseUrl, .valued .timeout, .flag .verbose, .flag .jsonLogs, .help]
  | .top | .customer =>
    [.valued .config, .valued .source, .valued .baseUrl, .valued .timeout,
      .flag .verbose, .flag .jsonLogs, .help]

/-- The switch of a name. -/
def Place.switch? (p : Place) (name : String) : Option Switch :=
  p.switches.find? (·.name == name)

end CommandLine

end OrderDesk
