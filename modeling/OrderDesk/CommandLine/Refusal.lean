/-
# `Refusal` — why a command line is not carried out

Either help is wanted, or the command line cannot be understood.  Help
goes to the output and counts as success, except where nothing at all was
said; everything else is an error.
-/
import OrderDesk.CommandLine.Help
import OrderDesk.Decimal.Whole
import OrderDesk.Terminal

namespace OrderDesk

namespace CommandLine

/-- Why a command line is not carried out. -/
inductive Refusal where
  /-- Help about a topic is wanted, in the full or in the brief form. -/
  | help (full : Bool) (topic : Topic)
  /-- Nothing at all was said. -/
  | blank
  /-- Options were said, but no command. -/
  | noCommand
  | unknownCommand (word : String)
  | unknownArgument (word : String)
  /-- A flag was given a value. -/
  | surplusValue (flag : Switch) (value : String)
  | noValue (option : Valued)
  | repeated (s : Switch)
  /-- Octets where text is wanted. -/
  | notText
  | wrongSource (value : String)
  | wrongTimeout (value : String) (why : WholeError)
  | wrongAmount (value : String) (why : AmountError)
  /-- Parts of a command that must be there and are not. -/
  | missing (parts : List String)
  deriving DecidableEq, Repr

namespace Refusal

/-- The list of sources below an error about one. -/
def sourceHint : Valued → String
  | .source => "\n  " ++ Help.sourceNames
  | _ => ""

/-- A value that an option does not take. -/
def invalid (value : String) (option : Valued) : String :=
  "invalid value '" ++ Terminal.shown value ++ "' for '" ++ option.shown ++ "'"

/-- What is wrong with a command line. -/
def fault : Refusal → String
  | .help .. | .blank => ""
  | .noCommand =>
    "'" ++ program ++ "' requires a subcommand but one was not provided\n  [subcommands: " ++
      ", ".intercalate (Topic.commands.map Topic.name) ++ "]"
  | .unknownCommand word => "unrecognized subcommand '" ++ Terminal.shown word ++ "'"
  | .unknownArgument word => "unexpected argument '" ++ Terminal.shown word ++ "' found"
  | .surplusValue flag value =>
    "unexpected value '" ++ Terminal.shown value ++ "' for '" ++ flag.shown ++
      "' found; no more were expected"
  | .noValue option =>
    "a value is required for '" ++ option.shown ++ "' but none was supplied" ++ sourceHint option
  | .repeated s => "the argument '" ++ s.shown ++ "' cannot be used multiple times"
  | .notText => "invalid UTF-8 was detected in one or more arguments"
  | .wrongSource value => invalid value .source ++ sourceHint .source
  | .wrongTimeout value why => invalid value .timeout ++ ": " ++ why.message
  | .wrongAmount value why => invalid value .amount ++ ": " ++ why.message
  | .missing parts =>
    "the following required arguments were not provided:" ++ String.join (parts.map ("\n  " ++ ·))

/-- What people are told. -/
def message : Refusal → String
  | .help full topic => Help.text full topic
  | .blank => Help.text false .program
  | r => "error: " ++ r.fault

/-- Is help all that is wanted? -/
def isHelp : Refusal → Bool
  | .help .. => true
  | _ => false

/-- The exit status. -/
def exit (r : Refusal) : Nat := if r.isHelp then 0 else 2

end Refusal

end CommandLine

end OrderDesk
