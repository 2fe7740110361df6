/-
# `Reading` — the command line from its words

The words are read once from left to right.  Before `--`, a word that
begins with a hyphen is a switch, and the word behind an option is its
value unless it begins with a hyphen itself; an amount may be a negative
number all the same.  Behind `--` no word is a switch.  The options common
to all commands may stand before the command and behind it, once in each
of the two places.

A value is not looked at before the next switch or the end of its place is
reached, so an unknown switch is told before a wrong value in front of it,
and what is wrong behind the command before what is wrong at the end of
the words in front of it.
-/
import OrderDesk.CommandLine
import OrderDesk.CommandLine.Refusal

namespace OrderDesk

namespace CommandLine

open Utf8 (Piece)

/-- A word by its first characters. -/
inductive Form where
  /-- Two hyphens and nothing else. -/
  | separator
  /-- Two hyphens, a name, and perhaps a value behind an equals sign. -/
  | long (name : Word) (value : Option Word)
  /-- One hyphen and letters. -/
  | short (letters : Word)
  | plain
  deriving DecidableEq, Repr

/-- The form of a word. -/
def Form.of : Word → Form
  | [.char '-', .char '-'] => .separator
  | .char '-' :: .char '-' :: rest =>
    .long (rest.takeWhile (· ≠ .char '=')) ((rest.dropWhile (· ≠ .char '=')).tail?)
  | .char '-' :: letter :: letters => .short (letter :: letters)
  | _ => .plain

/-- Is this a number as it may stand behind a hyphen: digits, perhaps a
point after the first of them, perhaps an exponent of digits? -/
def isNumber (letters : List Char) : Bool :=
  let mantissa := letters.takeWhile (· ≠ 'e')
  let isExponent := match letters.dropWhile (· ≠ 'e') with
    | [] => true
    | _ :: digits => !digits.isEmpty && digits.all Decimal.isDigit
  mantissa.head?.any Decimal.isDigit && mantissa.all (fun c => Decimal.isDigit c || c == '.') &&
    mantissa.count '.' ≤ 1 && isExponent

/-- Are the letters of a word a value of the option all the same? -/
def Valued.takes (v : Valued) (letters : Word) : Bool :=
  v == .amount && (Utf8.text? letters).any isNumber

/-- A word as it is told back. -/
def told (w : Word) : String := String.ofList (Utf8.lossy w)

/-- What has been said in one place. -/
structure Draft where
  options : Options := {}
  ids : List String := []
  id : Option String := none
  customerId : Option String := none
  amount : Option Binary64 := none
  deriving DecidableEq

/-- The text of a word. -/
def textOf (w : Word) : Except Refusal String :=
  match Utf8.text? w with
  | some text => .ok (String.ofList text)
  | none => .error .notText

/-- A word as the name of a source. -/
def sourceOf (w : Word) : Except Refusal Source :=
  match (Utf8.text? w).bind fun text => Source.ofName? (String.ofList text) with
  | some source => .ok source
  | none => .error (if w = [] then .noValue .source else .wrongSource (told w))

/-- A word as a number of seconds. -/
def timeoutOf (w : Word) : Except Refusal Nat := do
  let text ← textOf w
  match Whole.parse text.toList with
  | .ok seconds => pure seconds
  | .error why => throw (.wrongTimeout text why)

/-- A word as an amount. -/
def amountOf (w : Word) : Except Refusal Binary64 := do
  let text ← textOf w
  match Binary64.parse text.toList with
  | .ok amount => pure amount
  | .error why => throw (.wrongAmount text why)

namespace Draft

/-- Has the option been said? -/
def has (d : Draft) : Valued → Bool
  | .config => d.options.config.isSome
  | .id => d.id.isSome
  | .customerId => d.customerId.isSome
  | .source => d.options.layer.source.isSome
  | .amount => d.amount.isSome
  | .baseUrl => d.options.layer.baseUrl.isSome
  | .timeout => d.options.layer.timeout.isSome

/-- Has the flag been said? -/
def raised (d : Draft) : Flag → Bool
  | .verbose => d.options.verbose
  | .jsonLogs => d.options.jsonLogs

/-- The draft with other settings. -/
def withLayer (d : Draft) (l : Layer) : Draft := { d with options := { d.options with layer := l } }

/-- The draft with the value of an option, whatever was said before. -/
def set (d : Draft) (w : Word) : Valued → Except Refusal Draft
  | .config =>
    if w = [] then .error (.noValue .config)
    else .ok { d with options := { d.options with config := some w } }
  | .id => (textOf w).map fun id => { d with id := some id }
  | .customerId => (textOf w).map fun id => { d with customerId := some id }
  | .source => (sourceOf w).map fun s => d.withLayer { d.options.layer with source := some s }
  | .amount => (amountOf w).map fun x => { d with amount := some x }
  | .baseUrl => (textOf w).map fun url => d.withLayer { d.options.layer with baseUrl := some url }
  | .timeout => (timeoutOf w).map fun n => d.withLayer { d.options.layer with timeout := some n }

/-- The draft with the value of an option that must not have been said. -/
def put (d : Draft) (v : Valued) (w : Word) : Except Refusal Draft :=
  if d.has v then .error (.repeated (.valued v)) else d.set w v

/-- The draft with a flag that must not have been said. -/
def raise (d : Draft) (f : Flag) : Except Refusal Draft :=
  if d.raised f then .error (.repeated (.flag f))
  else match f with
    | .verbose => .ok { d with options := { d.options with verbose := true } }
    | .jsonLogs => .ok { d with options := { d.options with jsonLogs := true } }

/-- The draft with more ids. -/
def addIds (d : Draft) (words : List Word) : Except Refusal Draft :=
  (words.mapM textOf).map fun ids => { d with ids := d.ids ++ ids }

end Draft

/-- What has been said and not been looked at. -/
inductive Pending where
  | nothing
  /-- An option whose value comes next. -/
  | awaiting (v : Valued)
  | value (v : Valued) (w : Word)
  | ids (words : List Word)
  deriving DecidableEq

/-- The state of reading in one place. -/
structure Reading where
  draft : Draft := {}
  pending : Pending := .nothing
  deriving DecidableEq

namespace Reading

/-- Looks at what is pending. -/
def settle (r : Reading) : Except Refusal Draft :=
  match r.pending with
  | .nothing => .ok r.draft
  | .awaiting v => .error (.noValue v)
  | .value v w => r.draft.put v w
  | .ids words => r.draft.addIds words

/-- The ids with one more. -/
def withId (r : Reading) (w : Word) : Except Refusal Reading :=
  match r.pending with
  | .ids words => .ok { r with pending := .ids (words ++ [w]) }
  | _ => do pure ⟨← r.settle, .ids [w]⟩

/-- A switch with a name and perhaps a value. -/
def long (r : Reading) (p : Place) (name : Word) (value : Option Word) : Except Refusal Reading :=
  match (Utf8.text? name).bind fun text => p.switch? (String.ofList text), value with
  | none, _ => .error (.unknownArgument ("--" ++ told name))
  | some (.valued v), none => do pure ⟨← r.settle, .awaiting v⟩
  | some (.valued v), some w => do pure ⟨← (← r.settle).put v w, .nothing⟩
  | some s, some w => .error (.surplusValue s (told w))
  | some (.flag f), none => do pure ⟨← (← r.settle).raise f, .nothing⟩
  | some .help, none => do
    let _ ← r.settle
    throw (.help true (topic p))
where
  /-- What help in a place is about. -/
  topic : Place → Topic
    | .top => .program
    | .customer => .customer
    | .order => .order

/-- A switch of one letter; only help has one. -/
def short (r : Reading) (p : Place) : Word → Except Refusal Reading
  | .char 'h' :: _ => do
    let _ ← r.settle
    throw (.help false (long.topic p))
  | .char c :: _ => .error (.unknownArgument ("-" ++ String.singleton c))
  | letters => .error (.unknownArgument ("-" ++ told letters))

/-- A word that is no switch and no value. -/
def plain (r : Reading) (p : Place) (w : Word) : Except Refusal Reading :=
  match p with
  | .customer => r.withId w
  | .order => .error (.unknownArgument (told w))
  | .top => .error (.unknownCommand (told w))

/-- A word before `--`. -/
def word (r : Reading) (p : Place) (w : Word) : Except Refusal Reading :=
  match Form.of w, r.pending with
  | .short letters, .awaiting v =>
    if v.takes letters then .ok { r with pending := .value v w } else r.short p letters
  | .short letters, _ => r.short p letters
  | .long name value, _ => r.long p name value
  | _, .awaiting v => .ok { r with pending := .value v w }
  | _, _ => r.plain p w

/-- The command of a word in a place. -/
def command? (p : Place) (w : Word) : Option Topic :=
  if p = .top then Topic.commands.find? fun t => w == Utf8.ofString t.name else none

/-- Is the next word a value, even if it looks like a command? -/
def isAwaiting (r : Reading) : Bool :=
  match r.pending with
  | .awaiting _ => true
  | _ => false

/-- Reads the words behind `--`. -/
def rest (r : Reading) (p : Place) : List Word → Except Refusal Reading
  | [] => .ok r
  | w :: words =>
    if (command? p w).isSome then .error (.unknownArgument (told w))
    else do (← r.plain p w).rest p words

/-- Reads words up to a command, and says which it is and what is behind it. -/
def words (r : Reading) (p : Place) :
    List Word → Except Refusal (Reading × Option (Topic × List Word))
  | [] => .ok (r, none)
  | w :: ws =>
    match if r.isAwaiting then none else command? p w with
    | some t => .ok (r, some (t, ws))
    | none =>
      if Form.of w = .separator then (r.rest p ws).map fun r => (r, none)
      else do (← r.word p w).words p ws

/-- What has been said in a place that holds no command. -/
def all (p : Place) (ws : List Word) : Except Refusal Draft := do
  (← Reading.words {} p ws).1.settle

end Reading

/-- The command to look customers up. -/
def Draft.customer (d : Draft) : Except Refusal Command :=
  if d.ids = [] then .error (.missing ["<IDS>..."]) else .ok (.customer d.ids)

/-- The command to make an order. -/
def Draft.order (d : Draft) : Except Refusal Command :=
  match d.id, d.customerId, d.amount with
  | some id, some customerId, some amount => .ok (.order id customerId amount)
  | _, _, _ =>
    .error (.missing
      (([Valued.id, .customerId, .amount].filter fun v => !d.has v).map Valued.shown))

/-- The help that is wanted by the words behind `help`. -/
def helpOn : Topic → List Word → Refusal
  | t, [] => .help true t
  | .program, w :: ws =>
    match Reading.command? .top w with
    | some t => helpOn t ws
    | none => .unknownCommand (told w)
  | _, w :: _ => .unknownCommand (told w)

/-- The command with the words behind it, and the options among them. -/
def commandOf : Topic → List Word → Except Refusal (Options × Command)
  | .customer, ws => do
    let d ← Reading.all .customer ws
    pure (d.options, ← d.customer)
  | .order, ws => do
    let d ← Reading.all .order ws
    pure (d.options, ← d.order)
  | .program, ws | .help, ws => .error (helpOn .program ws)

/-- Reads a command line, without the name of the program. -/
def read (ws : List Word) : Except Refusal CommandLine := do
  match ← Reading.words {} .top ws with
  | (outer, some (t, behind)) =>
    let (inner, command) ← commandOf t behind
    let d ← outer.settle
    pure ⟨inner.over d.options, command⟩
  | (outer, none) =>
    if (← outer.settle) = {} then throw .blank else throw .noCommand

end CommandLine

end OrderDesk
