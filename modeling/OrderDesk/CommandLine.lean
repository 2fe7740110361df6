/-
# `CommandLine` — what the program is asked to do

A command line holds one of two commands, and options that are common to
both: a file with settings, settings that win over those of the file, and
how much is logged in which form.  The words of a command line are octets
that need not be text; only the path of the file may hold such octets.
-/
import OrderDesk.Order
import OrderDesk.Settings.Configuration
import OrderDesk.Utf8

namespace OrderDesk

/-- A word of the command line, or a path. -/
abbrev Word := List Utf8.Piece

/-- The options that are common to all commands. -/
structure Options where
  config : Option Word := none
  layer : Layer := {}
  verbose : Bool := false
  jsonLogs : Bool := false
  deriving DecidableEq

/-- What is to be done. -/
inductive Command where
  /-- Look customers up. -/
  | customer (ids : List String)
  /-- Make an order and look its customer up. -/
  | order (id customerId : String) (amount : Binary64)
  deriving DecidableEq

/-- What the program is asked to do. -/
structure CommandLine where
  options : Options
  command : Command
  deriving DecidableEq

/-- Options that were said in two places, `inner` winning; a flag counts
wherever it stands. -/
def Options.over (inner outer : Options) : Options where
  config := inner.config <|> outer.config
  layer := inner.layer.over outer.layer
  verbose := inner.verbose || outer.verbose
  jsonLogs := inner.jsonLogs || outer.jsonLogs

/-- The configuration of the file that the options name, which is an empty one if
they name none. -/
def Options.configuration (env : Environment) (files : Word → Except FileError (List UInt8))
    (o : Options) : Except LookupError Configuration :=
  match o.config with
  | none => .ok {}
  | some path => Configuration.ofFile env (files path)

/-- The settings that are in effect, if the files have this content. -/
def Options.settings (env : Environment) (files : Word → Except FileError (List UInt8))
    (o : Options) : Except LookupError Settings :=
  (o.configuration env files).map fun c => (Settings.ofConfiguration c).under o.layer

end OrderDesk
