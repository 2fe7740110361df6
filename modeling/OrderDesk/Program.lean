/-
# `Program` — a whole run

A run is a function of its surroundings: the words of the command line,
the variables, the files, and the network.  It ends with an exit status,
and leaves a text on the output, notices on the error stream, and the
requests that were made, whether anybody received them or not.

* exit status 2 — the command line cannot be understood;
* exit status 1 — the settings cannot be used, and nothing was looked up;
* exit status 0 — help was given, or every customer has been written,
  perhaps as a placeholder.

What is logged is decided when everything else is done, so it has no
influence on anything else.
-/
import OrderDesk.CommandLine.Reading
import OrderDesk.Log.Story
import OrderDesk.Remote

namespace OrderDesk

/-- What a run depends on, its command line apart. -/
structure Surroundings where
  environment : Environment
  files : Word → Except FileError (List UInt8)
  network : Network

/-- What goes to the error stream. -/
inductive Notice where
  | record (r : Log.Record)
  | text (s : String)

/-- What a run leaves behind. -/
structure Outcome where
  exit : Nat
  output : String
  notices : List Notice
  layout : Log.Layout
  requests : List Request

namespace Notice

/-- Does the filter keep the notice?  It is only about records. -/
def isKept (f : Log.Filter) : Notice → Bool
  | .record r => f.keeps r
  | .text _ => true

/-- The text of a notice at a time. -/
def shown (layout : Log.Layout) (time : String) : Notice → String
  | .record r => r.line layout time
  | .text s => s

end Notice

/-- The text on the error stream, if the clock shows these times. -/
def Outcome.errors (clock : Nat → String) (o : Outcome) : String :=
  String.join (o.notices.zipIdx.map fun n => n.1.shown o.layout (clock n.2))

namespace Program

/-- The end of a run whose command line is not carried out. -/
def refused (r : CommandLine.Refusal) : Outcome :=
  let hint := if r = .blank then "" else "\n\nFor more information, try '--help'.\n"
  { exit := r.exit
    output := if r.isHelp then r.message else ""
    notices := if r.isHelp then [] else [.text (r.message ++ hint)]
    layout := .compact
    requests := [] }

/-- The members of an object in the order of their names. -/
def byName (members : List (List Char × Json.Value)) : List (List Char × Json.Value) :=
  members.foldr insert []
where
  /-- Puts a member in front of the first one whose name is not smaller. -/
  insert (m : List Char × Json.Value) :
      List (List Char × Json.Value) → List (List Char × Json.Value)
    | [] => [m]
    | n :: rest => if n.1 < m.1 then n :: insert m rest else m :: n :: rest

/-- What is written for an order and its customer. -/
def report (o : Order) (c : Customer) : Json.Value :=
  .object (byName
    [("order".toList, .object (byName o.members)),
     ("customer".toList, .object (byName c.members))])

/-- Carries a command out: the text on the output, and the records. -/
def perform (d : Directory σ) (state : σ) : Command → Answer σ (String × List Log.Record)
  | .customer ids =>
    let a := Lookup.fetchAll d ids state
    ⟨(String.join (a.value.map fun c => c.text ++ "\n"), a.events.map Event.record),
      a.events, a.state⟩
  | .order id customerId amount =>
    let o := Order.new id customerId amount
    let a := Lookup.fetch d customerId state
    ⟨(String.ofList (report o a.value).pretty ++ "\n",
      Log.created o :: a.events.map Event.record), a.events, a.state⟩

/-- The settings of a run, if they can be used. -/
def settings (s : Surroundings) (o : Options) : Except LookupError Settings := do
  let settings ← o.settings s.environment s.files
  settings.validate
  pure settings

/-- The records at the beginning of a run. -/
def opening (c : CommandLine) : List Log.Record :=
  Log.started :: if c.options.verbose then [Log.asked c] else []

/-- A run before any record is dropped. -/
def unfiltered (s : Surroundings) (c : CommandLine) : Outcome :=
  let layout := if c.options.jsonLogs then .json else .compact
  let opening := (opening c).map Notice.record
  match settings s c.options with
  | .error e =>
    { exit := 1, output := "", layout, requests := []
      notices := opening ++ [.record (Log.unusable e), .text ("❌ " ++ e.friendly ++ "\n")] }
  | .ok settings =>
    let opening := opening ++ [.record (Log.configured settings.source)]
    match settings.directory s.network with
    | .error e =>
      { exit := 1, output := "", layout, requests := []
        notices := opening ++
          [.text ("Error: building customer client\n\nCaused by:\n    " ++ e.message ++ "\n")] }
    | .ok d =>
      let a := perform d [] c.command
      { exit := 0, output := a.value.1, layout, requests := a.state
        notices := opening ++ a.value.2.map Notice.record }

/-- A run of a command line that has been understood. -/
def carryOut (s : Surroundings) (c : CommandLine) : Outcome :=
  let o := unfiltered s c
  { o with notices := o.notices.filter (·.isKept (Log.filter s.environment c.options.verbose)) }

/-- A run. -/
def run (s : Surroundings) (words : List Word) : Outcome :=
  match CommandLine.read words with
  | .error r => refused r
  | .ok c => carryOut s c

end Program

end OrderDesk
