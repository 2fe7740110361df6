/-
# `Proofs.Settings.Values` — settings in a document without places

Settings are the values of three members of two tables.  A document that has
these members, with values of the right kinds, and in which no number is too
large is read as just these settings (`Holds.read`).

| | |
| :-- | :-- |
| `Outline.value t g k`  | the value of the member `k` of the table `g` |
| `Outline.Tabular t g`  | nothing but a table has the name |
| `Holds t l`            | the settings of the layer are in the document, and no others |

That reading gives these settings if it gives any is known from
`describes_of_read`; what is left is that it does not fail, member by member
(`Loop.succeeds`).
-/
import Mathlib.Data.List.Pairwise
import OrderDesk.Proofs.Settings.Skipping

namespace OrderDesk

open Toml

/-! ## Values in tables -/

namespace Toml.Outline

/-- The value of the member `k` of the table `g`. -/
def value (t : Outline) (g k : String) : Option Tree :=
  match t.members g with
  | some (.table _ members) => members k
  | _ => none

/-- Nothing but a table has the name. -/
def Tabular (t : Outline) (g : String) : Prop :=
  ∀ x, t.members g = some x → ∃ form members, x = .table form members

theorem tabular_of_none {t : Outline} {g : String} (h : t.members g = none) : t.Tabular g := by
  intro x hx
  cases h.symm.trans hx

theorem tabular_of_table {t : Outline} {g : String} {form : Form}
    {members : String → Option Tree} (h : t.members g = some (.table form members)) :
    t.Tabular g := by
  intro x hx
  cases h.symm.trans hx
  exact ⟨form, members, rfl⟩

end Toml.Outline

namespace Settings

/-- The settings of the layer are in a document, and no others. -/
structure Holds (t : Outline) (l : Layer) : Prop where
  api : t.Tabular "customer_api"
  lookup : t.Tabular "lookup"
  baseUrl : t.value "customer_api" "base_url" =
    l.baseUrl.map fun url => .scalar (.text url.toList)
  timeout : t.value "customer_api" "timeout_seconds" =
    l.timeout.map fun seconds => .scalar (.integer seconds)
  source : t.value "lookup" "source" = l.source.map fun s => .scalar (.text s.name.toList)

/-! ## Single values -/

/-- A text is read as what it is. -/
theorem textOf_text (span : Span) (s : String) :
    textOf span (.scalar (.text s.toList)) = .ok s := by
  rw [textOf, String.ofList_toList]

theorem naturalOf_integer (span : Span) {n : Nat} (h : n < 0x10000000000000000) :
    naturalOf span (.scalar (.integer n)) = .ok n := by
  have hrange : (0 : Int) ≤ n ∧ (n : Int) < 0x10000000000000000 := by omega
  rw [naturalOf, if_pos hrange]
  rfl

theorem sourceOf_text (span : Span) (s : Source) :
    sourceOf span (.scalar (.text s.name.toList)) = .ok s := by
  cases s with
  | canned => rfl
  | remote => rfl

theorem tree_scalar {v : Value} {s : Scalar} (h : v.tree = .scalar s) : v = .scalar s := by
  cases v with
  | scalar s' =>
      cases h
      rfl
  | array headed elements => cases h
  | table form members => cases h

theorem tree_table {v : Value} {form : Form} {members : String → Option Tree}
    (h : v.tree = .table form members) : ∃ ms, v = .table form ms ∧ memberTree ms = members := by
  cases v with
  | scalar s => cases h
  | array headed elements => cases h
  | table form' ms =>
      cases h
      exact ⟨ms, rfl, rfl⟩

/-! ## Members by their names -/

section Members

variable {ms : Members} {m : Key × Span × Value} {name : String} {holds : Value → α → Prop}
  {field : Option α} {f : α → Tree}

theorem mem_of_memberTree {x : Tree} (h : memberTree ms name = some x) :
    ∃ m ∈ ms, m.1.name = name ∧ m.2.2.tree = x := by
  rw [memberTree_eq] at h
  obtain ⟨m, hfind, rfl⟩ := Option.map_eq_some_iff.mp h
  exact ⟨m, List.mem_of_find?_eq_some hfind, Members.name_of_find? hfind, rfl⟩

/-- Where a member of a name stands, no other says anything under this name. -/
theorem given_iff (hms : ms.Sorted) (hm : m ∈ ms) (hname : m.1.name = name) (a : α) :
    Given name holds ms a ↔ holds m.2.2 a := by
  have hne : ms.Pairwise fun m n => m.1.name ≠ n.1.name := hms.imp ne_of_lt
  have hsymm : Std.Symm fun m n : Key × Span × Value => m.1.name ≠ n.1.name :=
    ⟨fun m n h => h.symm⟩
  constructor
  · rintro ⟨n, hn, hnname, hholds⟩
    by_cases heq : m = n
    · rw [heq]
      exact hholds
    · exact absurd (hname.trans hnname.symm) (hne.forall hm hn heq)
  · intro hholds
    exact ⟨m, hm, hname, hholds⟩

theorem not_given (hms : ms.Sorted) (h : memberTree ms name = none) (a : α) :
    ¬ Given name holds ms a := by
  rintro ⟨m, hm, rfl, -⟩
  cases h.symm.trans (memberTree_mem hms hm)

/-- The member of a name says what the field has, if its tree is that of the
field. -/
theorem given_field (hms : ms.Sorted) (hfield : memberTree ms name = field.map f)
    (hholds : ∀ v a, v.tree = f a → ∀ b, holds v b ↔ b = a) (a : α) :
    field = some a ↔ Given name holds ms a := by
  cases field with
  | none => simp [not_given hms hfield]
  | some b =>
      obtain ⟨m, hm, hname, htree⟩ := mem_of_memberTree hfield
      rw [given_iff hms hm hname, hholds _ b htree, Option.some_inj, eq_comm]

/-- So does the member of a name in the table of a group. -/
theorem grouped_field {t : Outline} {group : String} {place : Nat} (hms : ms.Tidy)
    (ht : memberTree ms = t.members) (htable : t.Tabular group)
    (hfield : t.value group name = field.map f)
    (hholds : ∀ v a, v.tree = f a → ∀ b, holds v b ↔ b = a) (a : α) :
    field = some a ↔ Given group (Grouped name place holds) ms a := by
  cases hgroup : t.members group with
  | none =>
      rw [Outline.value, hgroup] at hfield
      cases field with
      | none => simp [not_given hms.sorted ((congrFun ht group).trans hgroup)]
      | some b => cases hfield
  | some x =>
      obtain ⟨form, members, rfl⟩ := htable x hgroup
      rw [Outline.value, hgroup] at hfield
      obtain ⟨m, hm, hname, htree⟩ := mem_of_memberTree ((congrFun ht group).trans hgroup)
      obtain ⟨ms', hv, hmembers⟩ := tree_table htree
      have htidy := hms.values m hm
      rw [hv] at htidy
      rw [given_iff hms.sorted hm hname, hv, grouped_table]
      exact given_field htidy.members.sorted ((congrFun hmembers name).trans hfield) hholds a

end Members

/-! ## Whole documents -/

section Documents

variable {t : Outline} {l : Layer} {ms : Members}

/-- What holds of a document without its places describes the document. -/
theorem Holds.describes (h : Holds t l) (hms : ms.Tidy) (ht : memberTree ms = t.members) :
    Describes ms l := by
  refine ⟨?_, ?_, ?_⟩
  · refine grouped_field hms ht h.api h.baseUrl ?_
    intro v url hv url'
    rw [tree_scalar hv]
    exact textOf_takes default _ _ _ (textOf_text default url)
  · refine grouped_field hms ht h.api h.timeout ?_
    intro v seconds hv seconds'
    rw [tree_scalar hv]
    simp only [IsNatural, Value.scalar.injEq, Scalar.integer.injEq, Int.natCast_inj]
    exact eq_comm
  · refine grouped_field hms ht h.lookup h.source ?_
    intro v s hv s'
    rw [tree_scalar hv]
    exact sourceOf_takes default _ _ _ (sourceOf_text default s)

/-- Members that can be read one by one can be read. -/
theorem Loop.succeeds {loop : Layer → Members → Except Fault Layer} (hloop : Loop loop)
    (h : ∀ m ∈ ms, ∀ l, ∃ l', loop l [m] = .ok l') (l : Layer) : ∃ l', loop l ms = .ok l' := by
  induction ms generalizing l with
  | nil => exact ⟨l, hloop.nil l⟩
  | cons m rest ih =>
      obtain ⟨hm, hrest⟩ := List.forall_mem_cons.mp h
      obtain ⟨next, hnext⟩ := hm l
      obtain ⟨l', hl'⟩ := ih hrest next
      exact ⟨l', (hloop.cons l m rest).trans (bind_eq_ok.mpr ⟨next, hnext, hl'⟩)⟩

/-- The members of the table `customer_api` can be read. -/
theorem apiMembers_ok (hms : ms.Tidy) (hlight : ∀ m ∈ ms, m.2.2.tree.Light)
    (hurl : memberTree ms "base_url" = l.baseUrl.map fun url => .scalar (.text url.toList))
    (htimeout : memberTree ms "timeout_seconds" =
      l.timeout.map fun seconds => .scalar (.integer seconds))
    (hrange : ∀ seconds, l.timeout = some seconds → seconds < 0x10000000000000000) (l₀ : Layer) :
    ∃ l', apiMembers l₀ ms = .ok l' := by
  refine apiMembers_loop.succeeds ?_ l₀
  intro m hm l₁
  have htree := memberTree_mem hms.sorted hm
  simp only [apiMembers]
  split_ifs with hname hname'
  · rw [hname] at htree
    obtain ⟨url, -, hv⟩ := Option.map_eq_some_iff.mp (hurl.symm.trans htree)
    rw [tree_scalar hv.symm, textOf_text]
    exact ⟨_, rfl⟩
  · rw [hname'] at htree
    obtain ⟨seconds, hseconds, hv⟩ := Option.map_eq_some_iff.mp (htimeout.symm.trans htree)
    rw [tree_scalar hv.symm, naturalOf_integer _ (hrange seconds hseconds)]
    exact ⟨_, rfl⟩
  · rw [pass_light _ _ (hms.values m hm) (hlight m hm)]
    exact ⟨_, rfl⟩

/-- So can those of the table `lookup`. -/
theorem lookupMembers_ok (hms : ms.Tidy) (hlight : ∀ m ∈ ms, m.2.2.tree.Light)
    (hsource : memberTree ms "source" = l.source.map fun s => .scalar (.text s.name.toList))
    (l₀ : Layer) : ∃ l', lookupMembers l₀ ms = .ok l' := by
  refine lookupMembers_loop.succeeds ?_ l₀
  intro m hm l₁
  have htree := memberTree_mem hms.sorted hm
  simp only [lookupMembers]
  split_ifs with hname
  · rw [hname] at htree
    obtain ⟨s, -, hv⟩ := Option.map_eq_some_iff.mp (hsource.symm.trans htree)
    rw [tree_scalar hv.symm, sourceOf_text]
    exact ⟨_, rfl⟩
  · rw [pass_light _ _ (hms.values m hm) (hlight m hm)]
    exact ⟨_, rfl⟩

/-- The value of a group is a table with the values of the group. -/
theorem group_table {m : Key × Span × Value} (hms : ms.Tidy) (hm : m ∈ ms)
    (ht : memberTree ms = t.members) (hlight : t.Light) (htable : t.Tabular m.1.name) :
    ∃ (form : Form) (ms' : Members), m.2.2 = .table form ms' ∧ ms'.Tidy ∧
      (∀ n ∈ ms', n.2.2.tree.Light) ∧ ∀ name, memberTree ms' name = t.value m.1.name name := by
  have htree : t.members m.1.name = some m.2.2.tree :=
    (congrFun ht m.1.name).symm.trans (memberTree_mem hms.sorted hm)
  obtain ⟨form, members, hv⟩ := htable _ htree
  obtain ⟨ms', hms', hmembers⟩ := tree_table hv
  have htidy : Members.Tidy ms' := (hms' ▸ hms.values m hm).members
  have hlight' := hlight _ _ htree
  rw [hv] at hlight' htree
  refine ⟨form, ms', hms', htidy, ?_, ?_⟩
  · intro n hn
    cases hlight' with
    | table hlight' =>
        exact hlight' n.1.name _ ((congrFun hmembers n.1.name).symm.trans
          (memberTree_mem htidy.sorted hn))
  · intro name
    rw [Outline.value, htree, hmembers]

/-- A document is read as the settings that are in it. -/
theorem Holds.read (h : Holds t l) (hms : ms.Tidy) (ht : memberTree ms = t.members)
    (hlight : t.Light)
    (hrange : ∀ seconds, l.timeout = some seconds → seconds < 0x10000000000000000) :
    documentMembers {} ms = .ok l := by
  have hread : ∃ l', documentMembers {} ms = .ok l' := by
    refine documentMembers_loop.succeeds ?_ {}
    intro m hm l₁
    simp only [documentMembers]
    split_ifs with hname hname'
    · obtain ⟨form, ms', hv, htidy, hlight', hvalues⟩ :=
        group_table hms hm ht hlight (hname ▸ h.api)
      rw [hname] at hvalues
      obtain ⟨l', hl'⟩ := apiMembers_ok htidy hlight' ((hvalues _).trans h.baseUrl)
        ((hvalues _).trans h.timeout) hrange l₁
      rw [hv, apiOf, hl']
      exact ⟨_, rfl⟩
    · obtain ⟨form, ms', hv, htidy, hlight', hvalues⟩ :=
        group_table hms hm ht hlight (hname' ▸ h.lookup)
      rw [hname'] at hvalues
      obtain ⟨l', hl'⟩ := lookupMembers_ok htidy hlight' ((hvalues _).trans h.source) l₁
      rw [hv, lookupOf, hl']
      exact ⟨_, rfl⟩
    · have htree := (congrFun ht m.1.name).symm.trans (memberTree_mem hms.sorted hm)
      rw [pass_light _ _ (hms.values m hm) (hlight _ _ htree)]
      exact ⟨_, rfl⟩
  obtain ⟨l', hl'⟩ := hread
  have hsame := (h.describes hms ht).unique (describes_of_read hms hl')
  rw [hl', hsame]

end Documents

end Settings

end OrderDesk
