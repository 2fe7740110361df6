/-
# `Filter` — which records are kept

A filter is a list of directives between commas.  A directive gives the
level up to which records are kept, for all parts of the program or for
those whose path begins with a text; it may ask for a field as well, in
brackets and braces.  Of the directives that concern a record the one
with the longest path decides, of those the one that asks for a field,
and of equals the last.  A record that no directive concerns is dropped.

Brackets with a name, or braces with a value, are about stretches of work.
The program has no named stretches of work, so these directives concern
nothing.
-/
import OrderDesk.Log

namespace OrderDesk

namespace Log

/-- The level up to which records are kept; nothing at all if there is none. -/
abbrev Threshold := Option Level

/-- A directive. -/
structure Directive where
  /-- How the path of a part begins. -/
  path : Option String := none
  /-- The field that a record must have. -/
  field : Option String := none
  /-- Is it about stretches of work? -/
  work : Bool := false
  threshold : Threshold := some .trace
  deriving DecidableEq, Repr

/-- A list of directives. -/
abbrev Filter := List Directive

namespace Directive

/-- A directive for all parts. -/
def all (t : Threshold) : Directive := { threshold := t }

/-- A directive for the parts whose path begins with a text. -/
def below (path : String) (t : Threshold) : Directive := { path := some path, threshold := t }

/-- Does the directive concern the record? -/
def concerns (d : Directive) (r : Record) : Bool :=
  !d.work && d.path.all (fun p => p.toList.isPrefixOf r.part.toList) &&
    d.field.all fun name => name == "message" || r.fields.any (·.1 == name)

/-- Is the record kept if this directive decides? -/
def keeps (d : Directive) (r : Record) : Bool := d.threshold.any fun l => r.level.rank ≤ l.rank

/-- Does `b`, which comes later, decide before `a`? -/
def yields (a b : Directive) : Bool :=
  let length (d : Directive) := d.path.elim 0 (·.length + 1)
  length a < length b || length a == length b && (a.field.isNone || b.field.isSome)

/-- The names of the thresholds. -/
def thresholdNames : List (String × Threshold) :=
  [("off", none), ("error", some .error), ("warn", some .warn), ("info", some .info),
    ("debug", some .debug), ("trace", some .trace),
    ("0", none), ("1", some .error), ("2", some .warn), ("3", some .info),
    ("4", some .debug), ("5", some .trace)]

/-- A threshold by its name, in any case, or by its number. -/
def threshold? (text : List Char) : Option Threshold :=
  thresholdNames.lookup (String.ofList (text.map Char.toLower))

/-- The threshold at the end of a directive: an equals sign and a level,
which may be missing. -/
def ending? : List Char → Option Threshold
  | [] | ['='] => some (some .trace)
  | '=' :: text => threshold? text
  | _ => none

/-- Brackets, from the opening one on, and the end of a directive. -/
def brackets? (path : Option String) (text : List Char) : Option Directive :=
  let name := text.takeWhile fun c => c ≠ ']' && c ≠ '\x7b'
  match text.dropWhile fun c => c ≠ ']' && c ≠ '\x7b' with
  | ']' :: rest => (ending? rest).map fun t => { path, work := true, threshold := t }
  | '\x7b' :: rest =>
    let field := rest.takeWhile (· ≠ '\x7d')
    match field, rest.dropWhile (· ≠ '\x7d') with
    | _ :: _, '\x7d' :: ']' :: rest =>
      (ending? rest).map fun t =>
        { path, field := some (String.ofList field), threshold := t
          work := !name.isEmpty || field.contains '=' }
    | _, _ => none
  | _ => none

/-- May a directive begin with this character? -/
def mayBegin (c : Char) : Bool := c.isAlphanum || c == '-' || c == ':' || c == '_' || '\x7f' < c

/-- Reads a directive. -/
def parse? (text : List Char) : Option Directive :=
  match text with
  | [] => none
  | '[' :: rest => brackets? none rest
  | c :: _ =>
    if mayBegin c then
      let path := text.takeWhile fun c => c ≠ '=' && c ≠ '['
      match text.dropWhile fun c => c ≠ '=' && c ≠ '[' with
      | [] =>
        match threshold? path with
        | some t => some (all t)
        | none => some (below (String.ofList path) (some .trace))
      | '[' :: rest => brackets? (some (String.ofList path)) rest
      | rest => (ending? rest).map (below (String.ofList path))
    else none

end Directive

namespace Filter

/-- Reads a filter; without any directive it drops everything. -/
def parse? (text : String) : Option Filter :=
  ((text.splitOn ",").filter (· ≠ "")).mapM fun d => Directive.parse? d.trimAscii.toString.toList

/-- The directive that decides about a record. -/
def decisive? (f : Filter) (r : Record) : Option Directive :=
  (f.filter (·.concerns r)).foldl (fun best d =>
    match best with
    | none => some d
    | some b => if b.yields d then some d else some b) none

/-- Is the record kept? -/
def keeps (f : Filter) (r : Record) : Bool := (f.decisive? r).any (·.keeps r)

end Filter

end Log

end OrderDesk
