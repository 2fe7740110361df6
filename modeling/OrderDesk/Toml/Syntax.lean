/-
# `Toml.Syntax` — a TOML text as headers and members

The tokens of a text are read one at a time; what is still open is kept
on a stack of *frames*, and a *mode* says what is due.  The first token
that does not fit ends the reading.  Two kinds of gaps are let pass and
filled with an empty lexeme, which is found to be no key or value later:
a missing key, and a missing value.

A bare value takes in the words behind it: words and points that follow
each other, and further words across blanks, so that a date and a time
are one value.  Brackets may nest up to `depthLimit`.
-/
import OrderDesk.Toml.Problem

namespace OrderDesk

namespace Toml

/-- A key or value as it is written. -/
structure Lexeme where
  quotes : Option Quotes
  text : List Char
  start : Nat
  deriving DecidableEq, Repr

/-- The place of a lexeme. -/
def Lexeme.span (l : Lexeme) : Span := ⟨l.start, l.start + width l.text⟩

/-- A value as it is written. -/
inductive Node where
  | scalar (l : Lexeme)
  | array (span : Span) (elements : List Node)
  | table (span : Span) (members : List (List Lexeme × Node))

/-- A line that says something. -/
inductive Line where
  | header (array : Bool) (span : Span) (keys : List Lexeme)
  | member (keys : List Lexeme) (value : Node)

/-- What is still open around a value; newest members and elements come
first. -/
inductive Frame where
  | line (keys : List Lexeme)
  | array (start : Nat) (elements : List Node)
  | table (start : Nat) (members : List (List Lexeme × Node)) (keys : List Lexeme)

/-- What is due. -/
inductive Mode where
  /-- A line. -/
  | line
  /-- A key of a header if `due`, else a point or the end of the header. -/
  | header (array : Bool) (start : Nat) (keys : List Lexeme) (due : Bool)
  /-- The second bracket of a header. -/
  | bracket (start : Nat) (keys : List Lexeme)
  /-- A key of a member if `due`, else a point or the equals sign. -/
  | key (keys : List Lexeme) (due : Bool)
  /-- The value of a member. -/
  | value
  /-- More words of a bare value. -/
  | words (l : Lexeme)
  /-- An element or the end of an array. -/
  | element
  /-- A member or the end of a table. -/
  | member
  /-- What separates a value from the next. -/
  | after

/-- The state of reading: the lines read, newest first, what is open, what
is due, and the end of the last token that says something. -/
structure State where
  lines : List Line
  frames : List Frame
  mode : Mode
  last : Nat

/-- How deep brackets may nest. -/
def depthLimit : Nat := 80

/-- How many brackets are open. -/
def State.depth (s : State) : Nat :=
  s.frames.countP fun
    | .line _ => false
    | _ => true

/-- The lexeme of a token. -/
def Token.lexeme (t : Token) : Lexeme :=
  match t.kind with
  | .quoted q => ⟨some q, t.text, t.start⟩
  | _ => ⟨none, t.text, t.start⟩

/-- The lexeme that stands for something missing in front of a token. -/
def Token.missing (t : Token) : Lexeme := ⟨none, [], t.start⟩

/-- Can a token be a key? -/
def Kind.isKey : Kind → Bool
  | .bare | .quoted _ => true
  | _ => false

/-- A token that does not fit. -/
def misfit (t : Token) : Except Fault State := faultIn .unexpected t.span

/-- A bracket that was not closed. -/
def State.unclosed (s : State) : Except Fault State := faultAt .unexpected s.last

/-- Puts a value into the innermost frame. -/
def State.plug (s : State) (v : Node) : State :=
  match s.frames with
  | .line keys :: outer =>
    { s with lines := .member keys v :: s.lines, frames := outer, mode := .after }
  | .array start elements :: outer =>
    { s with frames := .array start (v :: elements) :: outer, mode := .after }
  | .table start members keys :: outer =>
    { s with frames := .table start ((keys, v) :: members) [] :: outer, mode := .after }
  | [] => { s with mode := .after }

/-- Opens a bracket. -/
def State.openFrame (s : State) (t : Token) (f : Frame) (mode : Mode) : Except Fault State :=
  if s.depth = depthLimit then faultIn .tooDeep t.span
  else .ok { s with frames := f :: s.frames, mode }

/-- Closes the innermost bracket at a token. -/
def State.closeFrame (s : State) (t : Token) : Except Fault State :=
  match s.frames, t.kind with
  | .array start elements :: outer, .closeBracket =>
    .ok ({ s with frames := outer }.plug (.array ⟨start, t.span.stop⟩ elements.reverse))
  | .table start members _ :: outer, .closeBrace =>
    .ok ({ s with frames := outer }.plug (.table ⟨start, t.span.stop⟩ members.reverse))
  | _, _ => misfit t

/-- A token where a value begins. -/
def State.begin (s : State) (t : Token) : Except Fault State :=
  match t.kind with
  | .quoted _ => .ok (s.plug (.scalar t.lexeme))
  | .bare | .dot => .ok { s with mode := .words t.lexeme }
  | .openBracket => s.openFrame t (.array t.start []) .element
  | .openBrace => s.openFrame t (.table t.start [] []) .member
  | _ => misfit t

/-- A token behind a value. -/
def State.afterStep (s : State) (t : Token) : Except Fault State :=
  match s.frames, t.kind with
  | [], .newline => .ok { s with mode := .line }
  | _, .newline | _, .comment => .ok s
  | [], .finish => .ok s
  | [], _ => misfit t
  | .array .. :: _, .comma => .ok { s with mode := .element }
  | .table .. :: _, .comma => .ok { s with mode := .member }
  | _, .finish => s.unclosed
  | _, _ => s.closeFrame t

/-- A token where the value of a member is due. -/
def State.valueStep (s : State) (t : Token) : Except Fault State :=
  let fill : Except Fault State := (s.plug (.scalar t.missing)).afterStep t
  match s.frames, t.kind with
  | .table .. :: _, .newline | .table .. :: _, .comment => .ok s
  | .table .. :: _, .finish => s.unclosed
  | .table .. :: _, .closeBrace | _, .comma | _, .newline | _, .comment | _, .finish => fill
  | _, _ => s.begin t

/-- A token where an element of an array is due. -/
def State.elementStep (s : State) (t : Token) : Except Fault State :=
  match t.kind with
  | .newline | .comment => .ok s
  | .closeBracket => s.closeFrame t
  | .finish => s.unclosed
  | _ => s.begin t

/-- A token where a key of a member is due. -/
def State.keyStep (s : State) (keys : List Lexeme) (t : Token) : Except Fault State :=
  match t.kind with
  | .dot => .ok { s with mode := .key (keys ++ [t.missing]) true }
  | k =>
    if k.isKey then .ok { s with mode := .key (keys ++ [t.lexeme]) false }
    else misfit t

/-- The equals sign behind the keys of a member. -/
def State.assign (s : State) (keys : List Lexeme) : State :=
  match s.frames with
  | .table start members _ :: outer =>
    { s with frames := .table start members keys :: outer, mode := .value }
  | frames => { s with frames := .line keys :: frames, mode := .value }

/-- A token behind a key of a member. -/
def State.behindKey (s : State) (keys : List Lexeme) (t : Token) : Except Fault State :=
  match s.frames, t.kind with
  | _, .equals => .ok (s.assign keys)
  | _, .dot => .ok { s with mode := .key keys true }
  | .table .. :: _, .newline | .table .. :: _, .comment => .ok { s with mode := .key keys false }
  | .table .. :: _, .finish => s.unclosed
  | _, _ => misfit t

/-- A token where a member or the end of a table is due. -/
def State.memberStep (s : State) (t : Token) : Except Fault State :=
  match t.kind with
  | .newline | .comment => .ok s
  | .closeBrace => s.closeFrame t
  | .finish => s.unclosed
  | .equals => s.behindKey [t.missing] t
  | .dot => s.behindKey [t.missing] t
  | _ => s.keyStep [] t

/-- A token where a line is due. -/
def State.lineStep (s : State) (t : Token) : Except Fault State :=
  match t.kind with
  | .newline | .comment | .finish => .ok s
  | .openBracket => .ok { s with mode := .header false t.start [] true }
  | .equals | .dot => s.behindKey [t.missing] t
  | _ => s.keyStep [] t

/-- A token inside a header. -/
def State.headerStep (s : State) (array : Bool) (start : Nat) (keys : List Lexeme)
    (due : Bool) (t : Token) : Except Fault State :=
  match t.kind with
  | .openBracket =>
    if !array && due && keys = [] && t.gap = [] then
      .ok { s with mode := .header true start [] true }
    else s.unclosed
  | .dot =>
    .ok { s with mode := .header array start (if due then keys ++ [t.missing] else keys) true }
  | .closeBracket =>
    let keys := if due then keys ++ [t.missing] else keys
    if array then .ok { s with mode := .bracket start keys }
    else
      .ok { s with lines := .header false ⟨start, t.span.stop⟩ keys :: s.lines, mode := .after }
  | k =>
    if due && k.isKey then .ok { s with mode := .header array start (keys ++ [t.lexeme]) false }
    else s.unclosed

/-- A token where the second bracket of a header is due. -/
def State.bracketStep (s : State) (start : Nat) (keys : List Lexeme) (t : Token) :
    Except Fault State :=
  if t.kind = .closeBracket ∧ t.gap = [] then
    .ok { s with lines := .header true ⟨start, t.span.stop⟩ keys :: s.lines, mode := .after }
  else s.unclosed

/-- A token that may belong to a bare value. -/
def State.wordsStep (s : State) (l : Lexeme) (t : Token) : Except Fault State :=
  if t.kind = .bare ∨ (t.kind = .dot ∧ t.gap = []) then
    .ok { s with mode := .words { l with text := l.text ++ t.gap ++ t.text } }
  else (s.plug (.scalar l)).afterStep t

/-- A token behind a point in the keys of a member. -/
def State.dueStep (s : State) (keys : List Lexeme) (t : Token) : Except Fault State :=
  if t.kind = .dot ∨ t.kind.isKey then s.keyStep keys t
  else s.behindKey (keys ++ [t.missing]) t

/-- What the grammar makes of a token. -/
def State.grammar (s : State) (t : Token) : Except Fault State :=
  match s.mode with
  | .line => s.lineStep t
  | .header array start keys due => s.headerStep array start keys due t
  | .bracket start keys => s.bracketStep start keys t
  | .key keys true => s.dueStep keys t
  | .key keys false => s.behindKey keys t
  | .value => s.valueStep t
  | .words l => s.wordsStep l t
  | .element => s.elementStep t
  | .member => s.memberStep t
  | .after => s.afterStep t

/-- Is this a control character other than a tab? -/
def isControl (c : Char) : Bool := (c.toNat < 0x20 && c != '\t') || c.toNat == 0x7F

/-- A comment must not hold control characters, and a line must not end
with a carriage return alone. -/
def Token.check (t : Token) : Except Fault Unit :=
  match t.kind with
  | .comment =>
    if t.text.any isControl then
      faultAt .unexpected (t.start + width (t.text.takeWhile fun c => !isControl c))
    else .ok ()
  | .newline => if t.text = ['\r'] then faultAt .unexpected t.span.stop else .ok ()
  | _ => .ok ()

/-- Does the token say something? -/
def Kind.speaks : Kind → Bool
  | .comment | .newline | .finish => false
  | _ => true

/-- Reads one token. -/
def State.step (s : State) (t : Token) : Except Fault State := do
  let s ← s.grammar t
  t.check
  pure (if t.kind.speaks then { s with last := t.span.stop } else s)

/-- The state before any token. -/
def State.start : State := ⟨[], [], .line, 0⟩

/-- The lines of a text. -/
def parse (text : List Char) : Except Fault (List Line) := do
  let s ← (tokens text).foldlM State.step State.start
  pure s.lines.reverse

end Toml

end OrderDesk
