/-
# `Toml.Document` — headers and members as one table

A document is a table of values, which may be tables and arrays again.
Headers name the table that the members below them belong to; a key of
several names goes through a table for each.  A table that only came to
be on the way to another (*implied*) may be headed later, one that dotted
keys made (*dotted*) may be extended by dotted keys beside them, and a
table between braces is complete.  Nothing is said twice.

Members are kept in the order of their names.  Every value knows its
place: that of its lexeme or brackets, of the header that names it, or of
the key that implies it.
-/
import OrderDesk.Toml.Scalar
import OrderDesk.Toml.Syntax

namespace OrderDesk

namespace Toml

/-- How a table came to be. -/
inductive Form where
  | headed
  | implied
  | dotted
  | braced
  deriving DecidableEq, Repr

/-- A name and the place of its key. -/
structure Key where
  name : String
  span : Span
  deriving DecidableEq

/-- A value; arrays know whether they were made by headers. -/
inductive Value where
  | scalar (s : Scalar)
  | array (headed : Bool) (elements : List (Span × Value))
  | table (form : Form) (members : List (Key × Span × Value))

/-- The members of a table. -/
abbrev Members := List (Key × Span × Value)

namespace Members

/-- The member of a name. -/
def find? (ms : Members) (name : String) : Option (Key × Span × Value) :=
  List.find? (fun m => m.1.name == name) ms

/-- Puts a member in its place by name, instead of one of the same name. -/
def put (ms : Members) (m : Key × Span × Value) : Members :=
  match ms with
  | [] => [m]
  | n :: rest =>
    if m.1.name < n.1.name then m :: n :: rest
    else if m.1.name = n.1.name then m :: rest
    else n :: put rest m

end Members

/-- A table under construction. -/
structure Table where
  form : Form
  members : Members

/-- Follows a path of keys and changes the table at its end.  Missing
tables come to be on the way, in the form `made`; the way may not lead
through values, tables between braces, nor, for dotted keys, through
tables with a header. -/
def Table.follow (made : Form) (change : Table → Except Fault Table) (t : Table) :
    List Key → Except Fault Table
  | [] => change t
  | key :: path =>
    match t.members.find? key.name with
    | none => do
      let inner ← Table.follow made change ⟨made, []⟩ path
      pure { t with members := t.members.put (key, key.span, .table inner.form inner.members) }
    | some (known, span, .table form members) =>
      if form = .braced ∨ (made = .dotted ∧ form = .headed) then
        faultIn .duplicateKey key.span
      else do
        let inner ← Table.follow made change ⟨form, members⟩ path
        pure { t with members := t.members.put (known, span, .table inner.form inner.members) }
    | some (known, span, .array true elements) =>
      match elements.getLast? with
      | some (place, .table form members) => do
        let inner ← Table.follow made change ⟨form, members⟩ path
        let elements := elements.dropLast ++ [(place, .table inner.form inner.members)]
        pure { t with members := t.members.put (known, span, .array true elements) }
      | _ => faultIn .duplicateKey key.span
    | some _ => faultIn .duplicateKey key.span

/-- A key path, with its last key apart. -/
structure KeyPath where
  outer : List Key
  key : Key

/-- How many keys a path may have. -/
def pathLimit : Nat := 80

/-- The name of a key lexeme. -/
def Lexeme.key (l : Lexeme) : Except Fault Key :=
  match keyText l.quotes l.text with
  | .ok name => .ok ⟨String.ofList name, l.span⟩
  | .error place => faultAt .invalidKey (l.start + place)

/-- The key path of some lexemes. -/
def keyPath (ls : List Lexeme) : Except Fault KeyPath := do
  let keys ← ls.mapM Lexeme.key
  match keys.getLast? with
  | none => .error ⟨.invalidKey, none⟩
  | some key =>
    if pathLimit < keys.length then .error ⟨.tooDeep, none⟩ else pure ⟨keys.dropLast, key⟩

/-- Adds a member to a table.  Behind dotted keys the table at the end of
the path must itself be one of dotted keys. -/
def Table.add (t : Table) (path : KeyPath) (span : Span) (v : Value) : Except Fault Table :=
  t.follow .dotted (fun inner =>
    if (inner.form = .dotted) = (path.outer = []) then faultIn .duplicateKey path.key.span
    else match inner.members.find? path.key.name with
      | some _ => faultIn .duplicateKey path.key.span
      | none => .ok { inner with members := inner.members.put (path.key, span, v) }) path.outer

mutual

/-- The value of a node and its place. -/
def Node.value : Node → Except Fault (Span × Value)
  | .scalar l =>
    match scalarText l.quotes l.text with
    | .ok s => .ok (l.span, .scalar s)
    | .error place => faultAt .invalidValue (l.start + place)
  | .array span elements => do pure (span, .array false (← nodeValues elements))
  | .table span members => do
    let t ← nodeMembers ⟨.braced, []⟩ members
    pure (span, .table .braced t.members)

/-- The values of the elements of an array. -/
def nodeValues : List Node → Except Fault (List (Span × Value))
  | [] => .ok []
  | n :: ns => do
    let v ← n.value
    pure (v :: (← nodeValues ns))

/-- Adds the members between braces to a table. -/
def nodeMembers (t : Table) : List (List Lexeme × Node) → Except Fault Table
  | [] => .ok t
  | (keys, n) :: ms => do
    let path ← keyPath keys
    let (span, v) ← n.value
    nodeMembers (← t.add path span v) ms

end

/-- A document under construction: the whole of it, the header that
applies, and the table below that header. -/
structure Draft where
  root : Table
  header : Option (Bool × Span × KeyPath)
  current : Table

/-- The document with the table of the last header put in its place. -/
def Draft.settle (d : Draft) : Except Fault Table :=
  match d.header with
  | none => .ok d.current
  | some (array, span, path) =>
    let v : Value := .table d.current.form d.current.members
    d.root.follow .implied (fun parent =>
      let place (key : Key) (spot : Span) (v : Value) : Except Fault Table :=
        .ok { parent with members := parent.members.put (key, spot, v) }
      if array then
        match parent.members.find? path.key.name with
        | some (key, first, .array true elements) =>
          place key first (.array true (elements ++ [(span, v)]))
        | _ => place path.key span (.array true [(span, v)])
      else place path.key span v) path.outer

/-- The document with all tables on the way to a header, which must not
name what is there already. -/
def openHeader (root : Table) (array : Bool) (path : KeyPath) : Except Fault Table :=
  root.follow .implied (fun parent =>
    match parent.members.find? path.key.name, array with
    | none, _ => .ok parent
    | some (_, _, .array true _), true => .ok parent
    | some (_, _, .table .implied _), false => .ok parent
    | some _, _ => faultIn .duplicateKey path.key.span) path.outer

/-- The members that the table of a header has already, because it was
implied by others. -/
def impliedMembers (t : Table) (name : String) : List Key → Members
  | [] =>
    match t.members.find? name with
    | some (_, _, .table .implied members) => members
    | _ => []
  | key :: path =>
    match t.members.find? key.name with
    | some (_, _, .table form members) => impliedMembers ⟨form, members⟩ name path
    | some (_, _, .array true elements) =>
      match elements.getLast? with
      | some (_, .table form members) => impliedMembers ⟨form, members⟩ name path
      | _ => []
    | _ => []

/-- Takes one line into a document. -/
def Draft.line (d : Draft) : Line → Except Fault Draft
  | .header array span keys => do
    let path ← keyPath keys
    let root ← openHeader (← d.settle) array path
    let members := if array then [] else impliedMembers root path.key.name path.outer
    pure ⟨root, some (array, span, path), ⟨.headed, members⟩⟩
  | .member keys node => do
    let path ← keyPath keys
    let (span, v) ← node.value
    pure { d with current := (← d.current.add path span v) }

/-- The table of a document. -/
def document (text : List Char) : Except Fault Members := do
  let lines ← parse text
  let d ← lines.foldlM Draft.line ⟨⟨.headed, []⟩, none, ⟨.headed, []⟩⟩
  pure (← d.settle).members

end Toml

end OrderDesk
