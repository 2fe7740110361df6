/-
# `Proofs.Toml.Outline` — what the clauses of a document come to

What a document comes to does not depend on places.  Here it is told without
them: a value is a tree, a table is a function of names, and a clause takes
effect in the whole document at once.

| | |
| :-- | :-- |
| `Value.tree v`        | the value without its places |
| `Outline`             | a table without places |
| `Outline.follow`      | a change of the table at the end of a path |
| `Sketch.clause s c`   | the document with one more clause |
| `assemble cs`         | the document of these clauses, if they go together |

The reader keeps the table of the last header apart and puts it in its place
when the next header comes; that this makes no difference is shown in
`Proofs.Toml.Assembly`.
-/
import OrderDesk.Proofs.Toml.Grammar

namespace OrderDesk.Toml

/-! ## Values without places -/

/-- A value without places. -/
inductive Tree where
  | scalar (s : Scalar)
  | array (headed : Bool) (elements : List Tree)
  | table (form : Form) (members : String → Option Tree)

mutual

/-- The value without its places. -/
def Value.tree : Value → Tree
  | .scalar s => .scalar s
  | .array headed elements => .array headed (elementTrees elements)
  | .table form members => .table form (memberTree members)

/-- The elements without their places. -/
def elementTrees : List (Span × Value) → List Tree
  | [] => []
  | (_, v) :: rest => v.tree :: elementTrees rest

/-- The member of a name, without its place. -/
def memberTree : List (Key × Span × Value) → String → Option Tree
  | [], _ => none
  | (key, _, v) :: rest, name => if key.name = name then some v.tree else memberTree rest name

end

/-- A table without places. -/
structure Outline where
  form : Form
  members : String → Option Tree

/-- The table without its places. -/
def Table.outline (t : Table) : Outline := ⟨t.form, memberTree t.members⟩

namespace Outline

/-- A table with no members. -/
def empty (form : Form) : Outline := ⟨form, fun _ => none⟩

/-- The table as a value. -/
def tree (t : Outline) : Tree := .table t.form t.members

/-- The table with another member of a name. -/
def set (t : Outline) (name : String) (x : Tree) : Outline :=
  ⟨t.form, fun other => if other = name then some x else t.members other⟩

/-! ## Changes -/

/-- The table that the next name of a path leads to; `made` is the form of
tables that come to be on the way. -/
def enter (made : Form) (t : Outline) (name : String) : Option Outline :=
  match t.members name with
  | none => some (empty made)
  | some (.table form members) =>
    if form = .braced ∨ (made = .dotted ∧ form = .headed) then none else some ⟨form, members⟩
  | some (.array true elements) =>
    match elements.getLast? with
    | some (.table form members) => some ⟨form, members⟩
    | _ => none
  | some _ => none

/-- The table with another one in the place of that which the name leads to. -/
def leave (t : Outline) (name : String) (inner : Outline) : Outline :=
  match t.members name with
  | some (.array headed elements) => t.set name (.array headed (elements.dropLast ++ [inner.tree]))
  | _ => t.set name inner.tree

/-- Changes the table at the end of a path. -/
def follow (made : Form) (change : Outline → Option Outline) (t : Outline) :
    List String → Option Outline
  | [] => change t
  | name :: path => do
    let inner ← t.enter made name
    let inner ← follow made change inner path
    some (t.leave name inner)

/-- A new member; `direct` says that no dotted keys lead to it. -/
def join (direct : Prop) [Decidable direct] (name : String) (x : Tree) (t : Outline) :
    Option Outline :=
  if (t.form = .dotted) = direct then none
  else match t.members name with
    | some _ => none
    | none => some (t.set name x)

/-- The last name of a path that is not too long. -/
def lastName (path : List String) : Option String :=
  if pathLimit < path.length then none else path.getLast?

theorem getLast?_of_lastName {path : List String} {name : String}
    (h : lastName path = some name) : path.getLast? = some name :=
  (Option.ite_none_left_eq_some.mp h).2

/-- A new member at the end of a path. -/
def add (t : Outline) (path : List String) (x : Tree) : Option Outline :=
  match lastName path with
  | none => none
  | some name => t.follow .dotted (join (path.dropLast = []) name x) path.dropLast

/-- The table of a header, or one more in its array. -/
def head (array : Bool) (name : String) (t : Outline) : Option Outline :=
  match t.members name, array with
  | none, false => some (t.set name (empty .headed).tree)
  | none, true => some (t.set name (.array true [(empty .headed).tree]))
  | some (.array true elements), true =>
    some (t.set name (.array true (elements ++ [(empty .headed).tree])))
  | some (.table .implied members), false => some (t.set name (.table .headed members))
  | some _, _ => none

/-! ## What a change leaves alone -/

section Changes

variable {made : Form} {change : Outline → Option Outline} {t t' u v : Outline} {n k : String}
  {x y : Tree}

theorem members_set (t : Outline) (n : String) (x : Tree) : (t.set n x).members n = some x :=
  if_pos rfl

theorem members_set_of_ne (h : n ≠ k) (t : Outline) (x : Tree) :
    (t.set k x).members n = t.members n := if_neg h

theorem set_set (t : Outline) (n : String) (x y : Tree) : (t.set n x).set n y = t.set n y := by
  rw [set, set, set]
  congr 1
  funext other
  split
  · rfl
  · next hne => exact if_neg hne

theorem set_comm (h : n ≠ k) (t : Outline) (x y : Tree) :
    (t.set n x).set k y = (t.set k y).set n x := by
  rw [set, set, set, set]
  congr 1
  funext other
  by_cases hn : other = n
  · subst hn
    simp [h]
  · simp [hn]

theorem leave_eq_set (t : Outline) (n : String) (u : Outline) : ∃ y, t.leave n u = t.set n y := by
  rw [leave]
  split
  · exact ⟨_, rfl⟩
  · exact ⟨_, rfl⟩

theorem form_leave (t : Outline) (n : String) (u : Outline) : (t.leave n u).form = t.form := by
  obtain ⟨y, hy⟩ := t.leave_eq_set n u
  rw [hy, set]

theorem members_leave (t : Outline) (n : String) (u : Outline) :
    (t.leave n u).members n ≠ none := by
  obtain ⟨y, hy⟩ := t.leave_eq_set n u
  rw [hy, members_set]
  nofun

/-- Where a name leads to does not depend on other members. -/
theorem enter_congr (h : u.members n = t.members n) : u.enter made n = t.enter made n := by
  rw [enter, enter, h]

/-- A path is followed name by name. -/
theorem follow_cons_eq_some {path : List String} :
    t.follow made change (n :: path) = some t' ↔ ∃ inner inner', t.enter made n = some inner ∧
      inner.follow made change path = some inner' ∧ t' = t.leave n inner' := by
  rw [follow]
  constructor
  · intro h
    obtain ⟨inner, henter, hrest⟩ := Option.bind_eq_some_iff.mp h
    obtain ⟨inner', hinner, hleave⟩ := Option.bind_eq_some_iff.mp hrest
    cases hleave
    exact ⟨inner, inner', henter, hinner, rfl⟩
  · rintro ⟨inner, inner', henter, hinner, rfl⟩
    exact Option.bind_eq_some_iff.mpr ⟨inner, henter,
      Option.bind_eq_some_iff.mpr ⟨inner', hinner, rfl⟩⟩

/-- A change that leaves the form of its table leaves that of the whole. -/
theorem follow_form (h : ∀ u u', change u = some u' → u'.form = u.form) {path : List String}
    (ht : t.follow made change path = some t') : t'.form = t.form := by
  cases path with
  | nil => exact h t t' ht
  | cons n path =>
      obtain ⟨inner, inner', -, -, rfl⟩ := follow_cons_eq_some.mp ht
      exact form_leave t n inner'

/-- A change that takes no member of its table away takes none of the whole. -/
theorem follow_keeps (h : ∀ u u', change u = some u' → u'.members k = none → u.members k = none)
    {path : List String} (ht : t.follow made change path = some t') (hk : t'.members k = none) :
    t.members k = none := by
  cases path with
  | nil => exact h t t' ht hk
  | cons n path =>
      obtain ⟨inner, inner', -, -, rfl⟩ := follow_cons_eq_some.mp ht
      have hne : k ≠ n := by
        rintro rfl
        exact members_leave t k inner' hk
      obtain ⟨y, hy⟩ := t.leave_eq_set n inner'
      rwa [hy, members_set_of_ne hne] at hk

/-- A member that is joined to a table has a name of its own. -/
theorem join_eq_some {direct : Prop} [Decidable direct] :
    u.join direct n y = some v ↔
      ¬ (u.form = .dotted) = direct ∧ u.members n = none ∧ v = u.set n y := by
  rw [join]
  split
  · next hform =>
      constructor
      · nofun
      · rintro ⟨hne, -⟩
        exact absurd hform hne
  · next hform =>
      cases hn : u.members n with
      | some z => simp
      | none =>
          constructor
          · rintro ⟨⟩
            exact ⟨hform, rfl, rfl⟩
          · rintro ⟨-, -, rfl⟩
            rfl

theorem add_eq_some {path : List String} (h : u.add path y = some v) :
    ∃ name, lastName path = some name ∧
      u.follow .dotted (join (path.dropLast = []) name y) path.dropLast = some v := by
  rw [add] at h
  split at h
  · cases h
  · next name hname => exact ⟨name, hname, h⟩

theorem add_of_long {path : List String} (h : lastName path = none) (t : Outline) (x : Tree) :
    t.add path x = none := by
  rw [add, h]

/-- A path of one name. -/
theorem add_single : u.add [n] y = some v ↔
    u.form ≠ .dotted ∧ u.members n = none ∧ v = u.set n y := by
  have hadd : u.add [n] y = u.join ([n].dropLast = []) n y := rfl
  rw [hadd, join_eq_some]
  simp

theorem form_add {path : List String} (h : u.add path y = some v) : v.form = u.form := by
  obtain ⟨name, -, hfollow⟩ := add_eq_some h
  refine follow_form ?_ hfollow
  intro w w' hjoin
  obtain ⟨-, -, rfl⟩ := join_eq_some.mp hjoin
  rfl

theorem add_keeps {path : List String} (h : u.add path y = some v) (hk : v.members k = none) :
    u.members k = none := by
  obtain ⟨name, -, hfollow⟩ := add_eq_some h
  refine follow_keeps ?_ hfollow hk
  intro w w' hjoin hk
  obtain ⟨-, hname, rfl⟩ := join_eq_some.mp hjoin
  by_cases hne : k = name
  · rw [hne, hname]
  · rwa [members_set_of_ne hne] at hk

/-- A header concerns the member of its name only. -/
theorem head_eq_some {array : Bool} (h : u.head array n = some v) :
    ∃ y, v = u.set n y ∧ ∀ w : Outline, w.members n = u.members n →
      w.head array n = some (w.set n y) := by
  rw [head.eq_def] at h
  cases hn : u.members n with
  | none =>
      cases array with
      | false =>
          simp only [hn] at h
          cases h
          exact ⟨_, rfl, fun w hw => by simp only [head, hw]⟩
      | true =>
          simp only [hn] at h
          cases h
          exact ⟨_, rfl, fun w hw => by simp only [head, hw]⟩
  | some z =>
      simp only [hn] at h
      split at h
      · next heq => cases heq
      · next heq => cases heq
      · next elements heq =>
          cases h
          exact ⟨_, rfl, fun w hw => by simp only [head, hw, heq]⟩
      · next members heq =>
          cases h
          exact ⟨_, rfl, fun w hw => by simp only [head, hw, heq]⟩
      · cases h

end Changes

end Outline

/-! ## Clauses -/

mutual

/-- The value of an item. -/
def Item.tree : Item → Option Tree
  | .scalar s => some (.scalar s)
  | .array is => do some (.array false (← itemTrees is))
  | .table ms => do some (.table .braced (← addItems (.empty .braced) ms).members)

/-- The values of some items. -/
def itemTrees : List Item → Option (List Tree)
  | [] => some []
  | i :: is => do
    let x ← i.tree
    some (x :: (← itemTrees is))

/-- Adds members between braces to a table. -/
def addItems (t : Outline) : List (List String × Item) → Option Outline
  | [] => some t
  | (path, i) :: ms => do
    let x ← i.tree
    addItems (← t.add path x) ms

end

/-- A document in the making, and the path of its last header. -/
structure Sketch where
  whole : Outline
  path : List String

/-- The document before any clause. -/
def Sketch.start : Sketch := ⟨.empty .headed, []⟩

/-- The document with one more clause: a header makes a table, a member belongs
to the table of the last header. -/
def Sketch.clause (s : Sketch) : Clause → Option Sketch
  | .header array path =>
    match Outline.lastName path with
    | none => none
    | some name => do
      let whole ← s.whole.follow .implied (·.head array name) path.dropLast
      some ⟨whole, path⟩
  | .member path i => do
    let x ← i.tree
    let whole ← s.whole.follow .implied (·.add path x) s.path
    some { s with whole }

theorem clause_header_eq_some {s s' : Sketch} {array : Bool} {path : List String} :
    s.clause (.header array path) = some s' ↔ ∃ name, Outline.lastName path = some name ∧
      s.whole.follow .implied (·.head array name) path.dropLast = some s'.whole ∧
      s'.path = path := by
  rw [Sketch.clause]
  constructor
  · intro h
    split at h
    · cases h
    · next name hname =>
        obtain ⟨whole, hwhole, heq⟩ := Option.bind_eq_some_iff.mp h
        cases heq
        exact ⟨name, hname, hwhole, rfl⟩
  · rintro ⟨name, hname, hwhole, rfl⟩
    rw [hname]
    exact Option.bind_eq_some_iff.mpr ⟨s'.whole, hwhole, rfl⟩

theorem clause_member_eq_some {s s' : Sketch} {path : List String} {i : Item} :
    s.clause (.member path i) = some s' ↔ ∃ x, i.tree = some x ∧
      s.whole.follow .implied (·.add path x) s.path = some s'.whole ∧ s'.path = s.path := by
  rw [Sketch.clause]
  constructor
  · intro h
    obtain ⟨x, hx, hrest⟩ := Option.bind_eq_some_iff.mp h
    obtain ⟨whole, hwhole, heq⟩ := Option.bind_eq_some_iff.mp hrest
    cases heq
    exact ⟨x, hx, hwhole, rfl⟩
  · rintro ⟨x, hx, hwhole, hpath⟩
    refine Option.bind_eq_some_iff.mpr ⟨x, hx, Option.bind_eq_some_iff.mpr ⟨_, hwhole, ?_⟩⟩
    rw [← hpath]

/-- The document of some clauses, if they go together. -/
def assemble (cs : List Clause) : Option Outline := do
  let s ← cs.foldlM Sketch.clause .start
  some s.whole

end OrderDesk.Toml
