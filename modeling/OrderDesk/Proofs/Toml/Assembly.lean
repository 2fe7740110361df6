/-
# `Proofs.Toml.Assembly` — a document is put together as its clauses say

The reader keeps the table of the last header apart from the rest and puts it
into its place when the next header comes, or the text ends; and it keeps the
place of everything in the text.  An outline has no places, and in it each
clause takes effect in the whole document at once.  That comes to the same
(`document_written`): whether a document is read, and as what, depends on its
clauses only.

| | |
| :-- | :-- |
| `outlined x`              | what a step comes to, without places |
| `outlined_follow`         | a change at the end of a path, without places |
| `Draft.Draws d s`         | the table that is kept apart, put in its place, gives `s` |
| `follow_twice`            | two changes at the end of one path are one change |
| `document_written`        | the document of a text is that of its clauses |

The invariant is `Draft.Draws`.  A member changes the table that is kept apart
and not the rest; as putting it in its place and changing it there are two
changes at the end of one path, they can be made the other way round
(`follow_below`).
-/
import OrderDesk.Proofs.Toml.Outline
import OrderDesk.Proofs.Toml.Parsing

namespace OrderDesk.Toml

/-! ## Members without places -/

section Members

variable {ms : Members} {name : String}

theorem elementTrees_eq_map (es : List (Span × Value)) :
    elementTrees es = es.map fun e => e.2.tree := by
  induction es with
  | nil => rfl
  | cons e es ih => rw [elementTrees, ih, List.map_cons]

theorem memberTree_eq (ms : Members) (name : String) :
    memberTree ms name = (ms.find? name).map fun m => m.2.2.tree := by
  induction ms with
  | nil => rfl
  | cons m rest ih =>
      rw [memberTree, Members.find?, List.find?_cons]
      by_cases hname : m.1.name = name
      · simp [hname]
      · rw [if_neg hname, ih, beq_eq_false_iff_ne.mpr hname]
        rfl

theorem Members.name_of_find? {m : Key × Span × Value} (h : ms.find? name = some m) :
    m.1.name = name := by
  have hfound := List.find?_some h
  exact beq_iff_eq.mp hfound

/-- A member in its place is found by its name, and the others as before. -/
theorem memberTree_put (ms : Members) (m : Key × Span × Value) (name : String) :
    memberTree (ms.put m) name =
      if name = m.1.name then some m.2.2.tree else memberTree ms name := by
  induction ms with
  | nil => simp [Members.put, memberTree, eq_comm]
  | cons n rest ih =>
      rw [Members.put]
      split
      · simp [memberTree, eq_comm]
      split
      · next hname =>
          by_cases h : m.1.name = name
          · simp [memberTree, h]
          · simp [memberTree, h, Ne.symm h, ← hname]
      · next hname =>
          by_cases h : n.1.name = name
          · have hne : ¬ name = m.1.name := fun heq => hname (heq.symm.trans h.symm)
            simp [memberTree, h, hne]
          · simp [memberTree, h, ih]

theorem outline_members (t : Table) (name : String) :
    t.outline.members name = (t.members.find? name).map fun m => m.2.2.tree :=
  memberTree_eq t.members name

theorem outline_put (t : Table) (m : Key × Span × Value) :
    Table.outline { t with members := t.members.put m } =
      t.outline.set m.1.name m.2.2.tree := by
  rw [Table.outline, Outline.set]
  congr 1
  funext name
  exact memberTree_put t.members m name

end Members

/-! ## Steps without places -/

/-- What a step comes to, without places. -/
def outlined (x : Except Fault Table) : Option Outline := x.toOption.map Table.outline

theorem outlined_map {x : Except Fault Table} {f : Table → Table} {g : Outline → Outline}
    (h : ∀ t, (f t).outline = g t.outline) :
    outlined (x >>= fun t => pure (f t)) = (do let t ← outlined x; some (g t)) := by
  cases x with
  | error e => rfl
  | ok t => exact congrArg some (h t)

theorem outlined_eq_some {x : Except Fault Table} {u : Outline} :
    outlined x = some u ↔ ∃ t, x = .ok t ∧ t.outline = u := by
  cases x with
  | error e => exact ⟨nofun, nofun⟩
  | ok t =>
      constructor
      · exact fun h => ⟨t, rfl, Option.some.inj h⟩
      · rintro ⟨_, ⟨⟩, rfl⟩
        rfl

section Agreement

variable {α β γ δ : Type} {x : Except Fault α} {y : Option β}

theorem ok_bind (a : α) (f : α → Except Fault β) : (Except.ok a >>= f) = f a := rfl

theorem rel_of_map_eq {f : α → β} (h : x.toOption.map f = y) :
    Option.Rel (fun a b => f a = b) x.toOption y := by
  cases h
  cases x with
  | error e => exact .none
  | ok a => exact .some rfl

theorem map_eq_of_rel {f : α → γ} {g : β → γ}
    (h : Option.Rel (fun a b => f a = g b) x.toOption y) : x.toOption.map f = y.map g := by
  cases x with
  | error e =>
      cases h
      rfl
  | ok a =>
      cases h with
      | some hab => exact congrArg some hab

/-- Steps that agree are followed by steps that agree. -/
theorem rel_bind {R : α → β → Prop} {S : γ → δ → Prop} {f : α → Except Fault γ}
    {g : β → Option δ} (hxy : Option.Rel R x.toOption y)
    (h : ∀ a b, R a b → Option.Rel S (f a).toOption (g b)) :
    Option.Rel S (x >>= f).toOption (y >>= g) := by
  cases x with
  | error e =>
      cases hxy
      exact .none
  | ok a =>
      cases hxy with
      | some hab => exact h _ _ hab

end Agreement

section Follow

variable {made : Form} {change : Table → Except Fault Table}
  {change' : Outline → Option Outline}

/-- A change at the end of a path, without places. -/
theorem outlined_follow (hchange : ∀ t, outlined (change t) = change' t.outline) (t : Table)
    (path : List Key) :
    outlined (t.follow made change path) =
      t.outline.follow made change' (path.map Key.name) := by
  induction path generalizing t with
  | nil => exact hchange t
  | cons key path ih =>
      have hmember := outline_members t key.name
      rw [Table.follow, List.map_cons, Outline.follow, Outline.enter]
      cases hfind : t.members.find? key.name with
      | none =>
          rw [hfind] at hmember
          rw [hmember, outlined_map (g := t.outline.leave key.name), ih]
          · rfl
          · intro inner
            rw [outline_put, Outline.leave, hmember]
            rfl
      | some m =>
          obtain ⟨known, span, v⟩ := m
          have hname : known.name = key.name := Members.name_of_find? hfind
          rw [hfind] at hmember
          rw [hmember]
          -- The path goes on in a table, or in the last table of an array of tables.
          cases v with
          | scalar s => rfl
          | table form members =>
              simp only [Option.map_some, Value.tree] at hmember ⊢
              split
              · rfl
              · rw [outlined_map (g := t.outline.leave key.name), ih]
                · rfl
                · intro inner
                  rw [outline_put, Outline.leave, hmember, ← hname]
                  rfl
          | array headed elements =>
              cases headed with
              | false => rfl
              | true =>
                  simp only [Option.map_some, Value.tree, elementTrees_eq_map, List.getLast?_map]
                    at hmember ⊢
                  cases hlast : elements.getLast? with
                  | none => rfl
                  | some e =>
                      obtain ⟨place, w⟩ := e
                      cases w with
                      | scalar s => rfl
                      | array headed' elements' => rfl
                      | table form members =>
                          simp only [Option.map_some, Value.tree]
                          rw [outlined_map (g := t.outline.leave key.name), ih]
                          · rfl
                          · intro inner
                            rw [outline_put, Outline.leave, hmember, ← hname]
                            simp only [Value.tree, elementTrees_eq_map, List.map_append,
                              List.map_dropLast]
                            rfl

end Follow

/-! ## Keys and values -/

section Values

/-- The keys of a path. -/
structure KeyPath.Names (p : KeyPath) (path : List String) : Prop where
  outer : p.outer.map Key.name = path.dropLast
  key : Outline.lastName path = some p.key.name

theorem keys_eq {ls : List Lexeme} {path : List String}
    (h : List.Forall₂ (fun l name => ∃ key, Lexeme.key l = .ok key ∧ key.name = name) ls path) :
    ∃ keys, ls.mapM Lexeme.key = .ok keys ∧ keys.map Key.name = path := by
  induction h with
  | nil => exact ⟨[], rfl, rfl⟩
  | cons hkey _ ih =>
      obtain ⟨key, hkey, rfl⟩ := hkey
      obtain ⟨keys, hkeys, rfl⟩ := ih
      refine ⟨key :: keys, ?_, rfl⟩
      rw [List.mapM_cons, hkey, hkeys]
      rfl

/-- The lexemes of a path are its keys. -/
theorem keyPath_eq {ls : List Lexeme} {path : List String} (h : Names ls path) :
    (∃ p, keyPath ls = .ok p ∧ p.Names path) ∨
      (∃ e, keyPath ls = .error e) ∧ Outline.lastName path = none := by
  obtain ⟨keys, hkeys, rfl⟩ := keys_eq h.keys
  have hne : keys ≠ [] := fun heq => h.ne_nil (congrArg (List.map Key.name) heq)
  have hlast : keys.getLast? = some (keys.getLast hne) := List.getLast?_eq_getLast_of_ne_nil hne
  have hpath : keyPath ls = if pathLimit < keys.length then .error ⟨.tooDeep, none⟩
      else .ok ⟨keys.dropLast, keys.getLast hne⟩ := by
    rw [keyPath, hkeys]
    show ((pure keys : Except Fault (List Key)) >>= _) = _
    rw [pure_bind, hlast]
    rfl
  rw [hpath, Outline.lastName, List.length_map]
  by_cases hlong : pathLimit < keys.length
  · exact .inr ⟨⟨_, if_pos hlong⟩, if_pos hlong⟩
  · refine .inl ⟨_, if_neg hlong, List.map_dropLast, ?_⟩
    rw [Outline.lastName, List.length_map, if_neg hlong, List.getLast?_map, hlast]
    rfl

/-- A member at the end of a path, without places. -/
theorem outlined_add {p : KeyPath} {path : List String} (h : p.Names path) (t : Table) (span : Span)
    (v : Value) : outlined (t.add p span v) = t.outline.add path v.tree := by
  have hdirect : (p.outer = []) = (path.dropLast = []) := by
    rw [← h.outer, List.map_eq_nil_iff]
  rw [Table.add, Outline.add, h.key]
  simp only [← h.outer]
  refine outlined_follow ?_ t p.outer
  intro inner
  rw [Outline.join]
  by_cases hform : (inner.form = .dotted) = (p.outer = [])
  · have hform' : (inner.outline.form = .dotted) = (path.dropLast = []) := hform.trans hdirect
    rw [if_pos hform, if_pos hform']
    rfl
  · have hform' : ¬ (inner.outline.form = .dotted) = (path.dropLast = []) :=
      fun heq => hform (heq.trans hdirect.symm)
    rw [if_neg hform, if_neg hform', outline_members]
    cases inner.members.find? p.key.name with
    | some m => rfl
    | none => exact congrArg some (outline_put inner (p.key, span, v))

mutual

/-- A value, without places. -/
theorem value_tree {n : Node} {i : Item} (h : n.Means i) :
    n.value.toOption.map (·.2.tree) = i.tree := by
  match h with
  | .scalar hs =>
      rw [Node.value, hs]
      rfl
  | @Node.Means.array span ns is hns =>
      rw [Node.value, Item.tree, ← nodeValues_trees hns]
      cases nodeValues ns with
      | error e => rfl
      | ok vs => rfl
  | @Node.Means.table span ms is hms =>
      have hmembers : outlined (nodeMembers ⟨.braced, []⟩ ms) = addItems (.empty .braced) is :=
        nodeMembers_outline hms ⟨.braced, []⟩
      rw [Node.value, Item.tree, ← hmembers]
      cases nodeMembers ⟨.braced, []⟩ ms with
      | error e => rfl
      | ok t => rfl

/-- Elements, without places. -/
theorem nodeValues_trees {ns : List Node} {is : List Item} (h : NodesMean ns is) :
    (nodeValues ns).toOption.map elementTrees = itemTrees is := by
  match h with
  | .nil => rfl
  | @NodesMean.cons n i ns is hn hns =>
      rw [nodeValues, itemTrees, ← value_tree hn, ← nodeValues_trees hns]
      cases n.value with
      | error e => rfl
      | ok v =>
          cases nodeValues ns with
          | error e => rfl
          | ok vs => rfl

/-- Members between braces, without places. -/
theorem nodeMembers_outline {ms : List (List Lexeme × Node)} {is : List (List String × Item)}
    (h : MembersMean ms is) (t : Table) : outlined (nodeMembers t ms) = addItems t.outline is := by
  match h with
  | .nil => rfl
  | @MembersMean.cons ls path n i ms is hls hn hms =>
      rw [nodeMembers, addItems, ← value_tree hn]
      rcases keyPath_eq hls with ⟨p, hp, hnames⟩ | ⟨⟨e, he⟩, hlong⟩
      · rw [hp]
        cases n.value with
        | error e => rfl
        | ok v =>
            have hadd := outlined_add hnames t v.1 v.2
            show outlined (t.add p v.1 v.2 >>= fun t => nodeMembers t ms) =
              (t.outline.add path v.2.tree >>= fun t => addItems t is)
            rw [← hadd]
            cases t.add p v.1 v.2 with
            | error e => rfl
            | ok t' => exact nodeMembers_outline hms t'
      · rw [he]
        cases n.value with
        | error e => rfl
        | ok v =>
            show none = (t.outline.add path v.2.tree >>= fun t => addItems t is)
            rw [Outline.add_of_long hlong]
            rfl

end

end Values

/-! ## Following a path twice -/

namespace Outline

variable {made : Form} {t u : Outline} {name : String}

theorem enter_table (h : u.form ≠ .braced) :
    (t.set name u.tree).enter .implied name = some u := by
  rw [enter, members_set, tree]
  have hmade : Form.implied ≠ .dotted := by decide
  exact if_neg (not_or.mpr ⟨h, fun hdotted => hmade hdotted.1⟩)

theorem enter_array (t u : Outline) (name : String) (elements : List Tree) :
    (t.set name (.array true (elements ++ [u.tree]))).enter made name = some u := by
  rw [enter, members_set]
  simp only [List.getLast?_append, List.getLast?_singleton, Option.some_or, tree]

/-- A table that was left can be entered again. -/
theorem enter_leave (h : t.enter .implied name = some u) {v : Outline} (hv : v.form = u.form) :
    (t.leave name v).enter .implied name = some v := by
  rw [enter] at h
  rw [leave]
  split at h
  · next hnone =>
      cases h
      rw [hnone]
      refine enter_table ?_
      rw [hv]
      show Form.implied ≠ .braced
      decide
  · next form members hsome =>
      split at h
      · cases h
      · next hform =>
          cases h
          rw [hsome]
          refine enter_table ?_
          rw [hv]
          exact (not_or.mp hform).1
  · next elements hsome =>
      rw [hsome]
      exact enter_array t v name elements.dropLast
  · cases h

theorem leave_leave (t : Outline) (name : String) (u v : Outline) :
    (t.leave name u).leave name v = t.leave name v := by
  cases h : t.members name with
  | none => simp only [leave, h, members_set, set_set, tree]
  | some x =>
      cases x with
      | scalar s => simp only [leave, h, members_set, set_set, tree]
      | table form members => simp only [leave, h, members_set, set_set, tree]
      | array headed elements =>
          simp only [leave, h, members_set, set_set, List.dropLast_concat]

theorem follow_append {change : Outline → Option Outline} (path path' : List String)
    (t : Outline) :
    t.follow made change (path ++ path') =
      t.follow made (fun u => u.follow made change path') path := by
  induction path generalizing t with
  | nil => rfl
  | cons name path ih => simp only [List.cons_append, follow, ih]

/-- What is done at the end of a path can be done in two goes. -/
theorem follow_twice {f g : Outline → Option Outline}
    (hf : ∀ u u', f u = some u' → u'.form = u.form) (path : List String) (t : Outline) :
    (t.follow .implied f path >>= fun t' => t'.follow .implied g path) =
      t.follow .implied (fun u => f u >>= g) path := by
  induction path generalizing t with
  | nil => rfl
  | cons name path ih =>
      rw [follow, follow]
      cases henter : t.enter .implied name with
      | none => rfl
      | some inner =>
          show ((inner.follow .implied f path >>= fun i => some (t.leave name i)) >>= fun t' =>
              t'.follow .implied g (name :: path)) =
            (inner.follow .implied (fun u => f u >>= g) path >>= fun i => some (t.leave name i))
          rw [← ih inner]
          cases hfollow : inner.follow .implied f path with
          | none => rfl
          | some inner' =>
              simp only [Option.bind_eq_bind, Option.bind_some, follow]
              rw [enter_leave henter (follow_form hf hfollow)]
              simp only [Option.bind_some, leave_leave]

theorem follow_none (path : List String) (t : Outline) :
    t.follow made (fun _ => none) path = none := by
  induction path generalizing t with
  | nil => rfl
  | cons name path ih => simp [follow, ih]

/-! ## The table of a header -/

/-- Puts the table of a header into its place, which is the last one of an
array. -/
def place (parent : Outline) (array : Bool) (name : String) (current : Outline) : Outline :=
  if array then
    match parent.members name with
    | some (.array true elements) => parent.set name (.array true (elements ++ [current.tree]))
    | _ => parent.set name (.array true [current.tree])
  else parent.set name current.tree

/-- A header must not name what is there already. -/
def prepare (array : Bool) (name : String) (parent : Outline) : Option Outline :=
  match parent.members name, array with
  | none, _ => some parent
  | some (.array true _), true => some parent
  | some (.table .implied _), false => some parent
  | some _, _ => none

/-- Preparing is only a check. -/
theorem eq_of_prepare {array : Bool} {name : String} {parent parent' : Outline}
    (h : parent.prepare array name = some parent') : parent' = parent := by
  rw [prepare.eq_def] at h
  split at h
  · exact (Option.some.inj h).symm
  · exact (Option.some.inj h).symm
  · exact (Option.some.inj h).symm
  · cases h

/-- What is there already of the table of a header. -/
def implied (name : String) (parent : Outline) : String → Option Tree :=
  match parent.members name with
  | some (.table .implied members) => members
  | _ => (empty .implied).members

/-- The members that the table of a header begins with. -/
def inherited (array : Bool) (name : String) (parent : Outline) : String → Option Tree :=
  if array then (empty .headed).members else parent.implied name

/-- Making the table of a header is preparing for it and putting it in its place. -/
theorem head_eq (array : Bool) (name : String) (parent : Outline) :
    parent.head array name = parent.prepare array name >>= fun parent =>
      some (parent.place array name ⟨.headed, parent.inherited array name⟩) := by
  cases h : parent.members name with
  | none =>
      cases array with
      | false => simp [head, prepare, place, inherited, implied, h, tree, empty]
      | true => simp [head, prepare, place, inherited, h, tree, empty]
  | some x =>
      cases x with
      | scalar s => cases array <;> simp [head, prepare, h]
      | array headed elements =>
          cases headed with
          | false => cases array <;> simp [head, prepare, h]
          | true => cases array <;> simp [head, prepare, place, inherited, h, tree, empty]
      | table form members =>
          cases array with
          | true => simp [head, prepare, h]
          | false => cases form <;> simp [head, prepare, place, inherited, implied, h, tree]

theorem isSome_head (array : Bool) (name : String) (parent : Outline) :
    (parent.head array name).isSome = (parent.prepare array name).isSome := by
  rw [head_eq]
  cases parent.prepare array name with
  | none => rfl
  | some parent => rfl

theorem form_place (parent : Outline) (array : Bool) (name : String) (current : Outline) :
    (parent.place array name current).form = parent.form := by
  rw [place]
  split
  · split <;> rfl
  · rfl

/-- The table of a header is where it was put. -/
theorem follow_place {array : Bool} {current : Outline} (h : current.form ≠ .braced)
    (change : Outline → Option Outline) (parent : Outline) :
    (parent.place array name current).follow .implied change [name] =
      (do some (parent.place array name (← change current))) := by
  have hfollow : ∀ t : Outline, t.enter .implied name = some current →
      (∀ u, t.leave name u = parent.place array name u) →
      t.follow .implied change [name] = (do some (parent.place array name (← change current))) := by
    intro t henter hleave
    rw [follow, henter]
    simp only [follow, hleave]
    rfl
  cases array with
  | false =>
      refine hfollow _ (enter_table h) ?_
      intro u
      simp [place, leave, members_set, tree, set_set]
  | true =>
      rw [place, if_pos rfl]
      split
      · next elements hsome =>
          refine hfollow _ (enter_array parent current name elements) ?_
          intro u
          simp [place, leave, members_set, hsome, set_set]
      · next hother =>
          refine hfollow _ (enter_array parent current name []) ?_
          intro u
          have hplace : parent.place true name u = parent.set name (.array true [u.tree]) := by
            rw [place, if_pos rfl]
            split
            · next elements hsome => exact absurd hsome (hother elements)
            · rfl
          simp [hplace, leave, members_set, set_set]

theorem follow_isSome {f g : Outline → Option Outline}
    (h : ∀ u, (f u).isSome → (g u).isSome) {path : List String} {t : Outline}
    (ht : (t.follow made f path).isSome) : (t.follow made g path).isSome := by
  induction path generalizing t with
  | nil => exact h t ht
  | cons name path ih =>
      rw [follow] at ht ⊢
      cases henter : t.enter made name with
      | none =>
          rw [henter] at ht
          cases ht
      | some inner =>
          rw [henter] at ht
          have hinner : (inner.follow made f path).isSome := by
            cases hfollow : inner.follow made f path with
            | none => simp [hfollow] at ht
            | some inner' => rfl
          obtain ⟨inner', hinner'⟩ := Option.isSome_iff_exists.mp (ih hinner)
          simp [hinner']

end Outline

/-! ## Drafts -/

/-- The draft is this sketch. -/
inductive Draft.Draws : Draft → Sketch → Prop
  | top {root current : Table} : Draws ⟨root, none, current⟩ ⟨current.outline, []⟩
  | below {root current : Table} {array : Bool} {span : Span} {p : KeyPath} {path : List String}
      {whole : Outline} : p.Names path → current.form = .headed →
      root.outline.follow .implied (fun parent =>
        some (parent.place array p.key.name current.outline)) path.dropLast = some whole →
      Draws ⟨root, some (array, span, p), current⟩ ⟨whole, path⟩

section Drafts

variable {d : Draft} {s : Sketch} {l : Line} {c : Clause}

theorem outlined_settle (h : d.Draws s) : outlined d.settle = some s.whole := by
  cases h with
  | top => rfl
  | @below root current array span p path whole hp hform hwhole =>
      rw [Draft.settle, ← hwhole, ← hp.outer]
      refine outlined_follow ?_ root p.outer
      intro parent
      cases array with
      | false => exact congrArg some (outline_put parent (p.key, span, _))
      | true =>
          rw [Outline.place, if_pos rfl, outline_members]
          cases hfind : parent.members.find? p.key.name with
          | none => exact congrArg some (outline_put parent (p.key, span, _))
          | some m =>
              obtain ⟨known, first, v⟩ := m
              have hname : known.name = p.key.name := Members.name_of_find? hfind
              cases v with
              | scalar s => exact congrArg some (outline_put parent (p.key, span, _))
              | table form members => exact congrArg some (outline_put parent (p.key, span, _))
              | array headed elements =>
                  cases headed with
                  | false => exact congrArg some (outline_put parent (p.key, span, _))
                  | true =>
                      refine (congrArg some (outline_put parent (known, first, _))).trans ?_
                      simp only [Option.map_some, Value.tree, elementTrees_eq_map, List.map_append,
                        hname]
                      rfl

/-- A change of the table of the last header can be made apart. -/
theorem follow_below {root current whole : Outline} {array : Bool} {p : KeyPath}
    {path : List String} (hp : p.Names path) (hform : current.form = .headed)
    (hwhole : root.follow .implied (fun parent =>
      some (parent.place array p.key.name current)) path.dropLast = some whole)
    (change : Outline → Option Outline) :
    whole.follow .implied change path = (do
      let current ← change current
      root.follow .implied (fun parent => some (parent.place array p.key.name current))
        path.dropLast) := by
  have hpath : path.dropLast ++ [p.key.name] = path :=
    List.dropLast_append_getLast? p.key.name (Outline.getLast?_of_lastName hp.key)
  have hbraced : current.form ≠ .braced := by
    rw [hform]
    nofun
  have hplace : ∀ u u' : Outline, some (u.place array p.key.name current) = some u' →
      u'.form = u.form := by
    rintro u u' ⟨⟩
    exact u.form_place array p.key.name current
  have htwice := Outline.follow_twice
    (g := fun u => u.follow .implied change [p.key.name]) hplace path.dropLast root
  rw [hwhole] at htwice
  conv_lhs => rw [← hpath, Outline.follow_append]
  refine htwice.trans ?_
  simp only [Option.bind_eq_bind, Option.bind_some, Outline.follow_place hbraced]
  cases change current with
  | none => exact Outline.follow_none path.dropLast root
  | some current' => rfl

/-- A member goes into the table that is kept apart. -/
theorem draws_add (h : d.Draws s) {p : KeyPath} {path : List String} (hp : p.Names path)
    (span : Span) (v : Value) :
    Option.Rel Draft.Draws
      (d.current.add p span v >>= fun current => pure { d with current }).toOption
      (do let whole ← s.whole.follow .implied (·.add path v.tree) s.path
          some { s with whole }) := by
  have hadd := outlined_add hp d.current span v
  cases h with
  | @top root current =>
      rw [Outline.follow]
      refine rel_bind (rel_of_map_eq hadd) ?_
      rintro current' _ rfl
      exact .some .top
  | @below root current array span' q path' whole hq hform hwhole =>
      rw [follow_below hq hform hwhole, ← hadd]
      cases hcurrent : current.add p span v with
      | error e => exact .none
      | ok current' =>
          rw [hcurrent] at hadd
          have hform' : current'.form = .headed := (Outline.form_add hadd.symm).trans hform
          -- The place of the table is there, whatever the table has come to be.
          have hsome : (root.outline.follow .implied (fun parent =>
              some (parent.place array q.key.name current'.outline)) path'.dropLast).isSome :=
            Outline.follow_isSome (fun u _ => rfl) (Option.isSome_iff_exists.mpr ⟨_, hwhole⟩)
          obtain ⟨whole', hwhole'⟩ := Option.isSome_iff_exists.mp hsome
          show Option.Rel Draft.Draws (some ⟨root, some (array, span', q), current'⟩)
            (do let whole ← root.outline.follow .implied (fun parent =>
                  some (parent.place array q.key.name current'.outline)) path'.dropLast
                some ⟨whole, path'⟩)
          rw [hwhole']
          exact .some (.below hq hform' hwhole')

theorem draws_member {ls : List Lexeme} {n : Node} {path : List String} {i : Item} (h : d.Draws s)
    (hls : Names ls path) (hn : n.Means i) :
    Option.Rel Draft.Draws (d.line (.member ls n)).toOption (s.clause (.member path i)) := by
  rw [Draft.line, Sketch.clause]
  rcases keyPath_eq hls with ⟨p, hp, hnames⟩ | ⟨⟨e, he⟩, hlong⟩
  · rw [hp, ok_bind]
    refine rel_bind (rel_of_map_eq (value_tree hn)) ?_
    rintro ⟨span, v⟩ _ rfl
    exact draws_add h hnames span v
  · -- A path that is too long has no place in an outline either.
    rw [he]
    simp only [Outline.add_of_long hlong, Outline.follow_none]
    cases i.tree with
    | none => exact .none
    | some x => exact .none

theorem outlined_openHeader (t : Table) (array : Bool) {p : KeyPath} {path : List String}
    (hp : p.Names path) :
    outlined (openHeader t array p) =
      t.outline.follow .implied (·.prepare array p.key.name) path.dropLast := by
  rw [openHeader, ← hp.outer]
  refine outlined_follow ?_ t p.outer
  intro parent
  rw [Outline.prepare.eq_def, outline_members]
  cases parent.members.find? p.key.name with
  | none => rfl
  | some m =>
      obtain ⟨known, span, v⟩ := m
      cases v with
      | scalar s => cases array <;> rfl
      | array headed elements => cases headed <;> cases array <;> rfl
      | table form members => cases form <;> cases array <;> rfl

theorem impliedMembers_nil (form : Form) (name : String) (path : List Key) :
    impliedMembers ⟨form, []⟩ name path = [] := by
  cases path with
  | nil => rfl
  | cons key path => rfl

/-- Where a path can be followed, the members of a header at its end are looked
up in the table that it enters. -/
theorem enter_implied (t : Table) (key : Key) :
    t.outline.enter .implied key.name = none ∨ ∃ inner : Table,
      t.outline.enter .implied key.name = some inner.outline ∧
        ∀ name path, impliedMembers t name (key :: path) = impliedMembers inner name path := by
  rw [Outline.enter, outline_members]
  simp only [impliedMembers]
  cases t.members.find? key.name with
  | none => exact .inr ⟨⟨.implied, []⟩, rfl, fun name path => (impliedMembers_nil _ name path).symm⟩
  | some m =>
      obtain ⟨known, span, v⟩ := m
      cases v with
      | scalar s => exact .inl rfl
      | table form members =>
          by_cases hform : form = .braced
          · exact .inl (if_pos (.inl hform))
          · have hmade : Form.implied ≠ .dotted := by decide
            refine .inr ⟨⟨form, members⟩, if_neg ?_, fun name path => rfl⟩
            exact not_or.mpr ⟨hform, fun hdotted => hmade hdotted.1⟩
      | array headed elements =>
          cases headed with
          | false => exact .inl rfl
          | true =>
              simp only [Option.map_some, Value.tree, elementTrees_eq_map, List.getLast?_map]
              cases elements.getLast? with
              | none => exact .inl rfl
              | some e =>
                  obtain ⟨place, w⟩ := e
                  cases w with
                  | scalar s => exact .inl rfl
                  | array headed' elements' => exact .inl rfl
                  | table form members => exact .inr ⟨⟨form, members⟩, rfl, fun name path => rfl⟩

/-- The members that are there already can be looked up before the path is
followed. -/
theorem follow_implied {name : String}
    (change : (String → Option Tree) → Outline → Option Outline) (path : List Key) (t : Table) :
    t.outline.follow .implied (change (memberTree (impliedMembers t name path)))
        (path.map Key.name) =
      t.outline.follow .implied (fun parent => change (parent.implied name) parent)
        (path.map Key.name) := by
  induction path generalizing t with
  | nil =>
      rw [List.map_nil, Outline.follow, Outline.follow, impliedMembers, Outline.implied,
        outline_members]
      cases t.members.find? name with
      | none => rfl
      | some m =>
          obtain ⟨known, span, v⟩ := m
          cases v with
          | scalar s => rfl
          | array headed elements => rfl
          | table form members => cases form <;> rfl
  | cons key path ih =>
      rw [List.map_cons, Outline.follow, Outline.follow]
      rcases enter_implied t key with hnone | ⟨inner, henter, himplied⟩
      · rw [hnone]
        rfl
      · rw [henter, himplied]
        exact congrArg (· >>= fun inner => some (t.outline.leave key.name inner)) (ih inner)

/-- The table of a header comes to be in its place. -/
theorem follow_head {t : Outline} {root : Table} {array : Bool} {p : KeyPath}
    {path : List String} (hp : p.Names path)
    (hroot : t.follow .implied (·.prepare array p.key.name) path.dropLast = some root.outline) :
    t.follow .implied (·.head array p.key.name) path.dropLast =
      root.outline.follow .implied (fun parent => some (parent.place array p.key.name ⟨.headed,
        memberTree (if array then [] else impliedMembers root p.key.name p.outer)⟩))
        path.dropLast := by
  have hform : ∀ u u' : Outline, u.prepare array p.key.name = some u' → u'.form = u.form := by
    intro u u' hu
    rw [Outline.eq_of_prepare hu]
  have htwice := Outline.follow_twice
    (g := fun parent => some (parent.place array p.key.name
      ⟨.headed, parent.inherited array p.key.name⟩)) hform path.dropLast t
  rw [hroot] at htwice
  simp only [Outline.head_eq]
  refine htwice.symm.trans ?_
  show root.outline.follow .implied _ path.dropLast = _
  cases array with
  | true => rfl
  | false =>
      rw [← hp.outer]
      exact (follow_implied (fun members parent =>
        some (parent.place false p.key.name ⟨.headed, members⟩)) p.outer root).symm

/-- A header is opened where an outline takes one, and its table comes to be
in its place. -/
theorem opens_header (t : Table) (array : Bool) {p : KeyPath} {path : List String}
    (hp : p.Names path) :
    Option.Rel (fun root whole => root.outline.follow .implied (fun parent =>
        some (parent.place array p.key.name ⟨.headed,
          memberTree (if array then [] else impliedMembers root p.key.name p.outer)⟩))
        path.dropLast = some whole)
      (openHeader t array p).toOption
      (t.outline.follow .implied (·.head array p.key.name) path.dropLast) := by
  have hopen := outlined_openHeader t array hp
  cases hroot : openHeader t array p with
  | error e =>
      rw [hroot] at hopen
      have hshrinks : ∀ u : Outline, (u.head array p.key.name).isSome →
          (u.prepare array p.key.name).isSome := fun u hu => (u.isSome_head array _).symm.trans hu
      cases hhead : t.outline.follow .implied (·.head array p.key.name) path.dropLast with
      | none => exact .none
      | some whole =>
          have hprepared := Outline.follow_isSome hshrinks
            (Option.isSome_iff_exists.mpr ⟨whole, hhead⟩)
          rw [← hopen] at hprepared
          cases hprepared
  | ok root =>
      rw [hroot] at hopen
      have hgrows : ∀ u : Outline, (u.prepare array p.key.name).isSome →
          (u.head array p.key.name).isSome := fun u hu => (u.isSome_head array _).trans hu
      have hhead := Outline.follow_isSome hgrows
        (Option.isSome_iff_exists.mpr ⟨root.outline, hopen.symm⟩)
      obtain ⟨whole, hwhole⟩ := Option.isSome_iff_exists.mp hhead
      rw [hwhole]
      exact .some ((follow_head hp hopen.symm).symm.trans hwhole)

theorem draws_header {array : Bool} {span : Span} {ls : List Lexeme} {path : List String}
    (h : d.Draws s) (hls : Names ls path) :
    Option.Rel Draft.Draws (d.line (.header array span ls)).toOption
      (s.clause (.header array path)) := by
  rw [Draft.line, Sketch.clause]
  rcases keyPath_eq hls with ⟨p, hp, hnames⟩ | ⟨⟨e, he⟩, hlong⟩
  · obtain ⟨t, hsettled, hwhole⟩ := outlined_eq_some.mp (outlined_settle h)
    rw [hp, ok_bind, hnames.key, hsettled, ok_bind, ← hwhole]
    refine rel_bind (opens_header t array hnames) ?_
    intro root whole hroot
    exact .some (.below hnames rfl hroot)
  · rw [he, hlong]
    exact .none

/-- A line does what its clause does. -/
theorem draws_line (h : d.Draws s) (hl : l.Means c) :
    Option.Rel Draft.Draws (d.line l).toOption (s.clause c) := by
  cases hl with
  | header hls => exact draws_header h hls
  | member hls hn => exact draws_member h hls hn

theorem draws_lines {ls : List Line} {cs : List Clause} (hls : List.Forall₂ Line.Means ls cs)
    (h : d.Draws s) :
    Option.Rel Draft.Draws (ls.foldlM Draft.line d).toOption (cs.foldlM Sketch.clause s) := by
  induction hls generalizing d s with
  | nil => exact .some h
  | cons hl _ ih =>
      rw [List.foldlM_cons, List.foldlM_cons]
      exact rel_bind (draws_line h hl) fun _ _ => ih

end Drafts

/-- What a document is read as depends on its clauses only. -/
theorem document_written {d : Nat} {cs : List Clause} {t : List Char}
    (h : WrittenDocument d cs t) (hd : d ≤ depthLimit) :
    (document t).toOption.map memberTree = (assemble cs).map Outline.members := by
  obtain ⟨ls, hparse, hls⟩ := parse_written h hd
  have hagree : Option.Rel (fun ms whole => memberTree ms = Outline.members whole)
      (document t).toOption (assemble cs) := by
    rw [document, hparse, ok_bind, assemble]
    refine rel_bind (draws_lines hls .top) ?_
    intro d s hdraws
    obtain ⟨t, hsettled, hwhole⟩ := outlined_eq_some.mp (outlined_settle hdraws)
    rw [hsettled]
    exact .some (congrArg Outline.members hwhole)
  exact map_eq_of_rel hagree

end OrderDesk.Toml
