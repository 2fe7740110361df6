/-
# `Proofs.Toml.Names` — no name is given twice

A document comes to be by many small changes, each at the end of a path:
a member behind dotted keys, the table of a header, a table between
braces.  Whatever the text is, a document that is read at all is in order
(`document_tidy`): in every table of it, however deep, the members stand in
the order of their names, and no name stands twice.

| | |
| :-- | :-- |
| `Members.Sorted`      | in the order of the names, none of them twice |
| `Members.Tidy`        | sorted, and so are the tables in the values |
| `Table.follow_tidy`   | a change at the end of a path keeps the whole in order |
| `document_tidy`       | so every line of a document does, and the document is |

The invariant is that both the document so far and the table of the last
header are in order.  A change need not be looked at but at its own table:
the path to it replaces one member of each table on the way.
-/
import Mathlib.Data.String.Basic
import OrderDesk.Toml.Document

namespace OrderDesk.Toml

/-! ## Steps that may fail -/

section Steps

variable {ε α β : Type}

/-- Two steps succeed if the first does, and then the second. -/
theorem bind_eq_ok {x : Except ε α} {f : α → Except ε β} {b : β} :
    (x >>= f) = .ok b ↔ ∃ a, x = .ok a ∧ f a = .ok b := by
  cases x with
  | error e =>
      constructor
      · intro h
        cases h
      · rintro ⟨a, h, -⟩
        cases h
  | ok a =>
      constructor
      · intro h
        exact ⟨a, rfl, h⟩
      · rintro ⟨a', h, hf⟩
        cases h
        exact hf

/-- What every step keeps, a run of steps keeps. -/
theorem foldlM_keeps {P : β → Prop} {f : β → α → Except ε β}
    (hstep : ∀ b a b', P b → f b a = .ok b' → P b') {as : List α} {b b' : β} (hb : P b)
    (h : as.foldlM f b = .ok b') : P b' := by
  induction as generalizing b with
  | nil =>
      cases h
      exact hb
  | cons a as ih =>
      rw [List.foldlM_cons] at h
      obtain ⟨next, hnext, hrest⟩ := bind_eq_ok.mp h
      exact ih (hstep b a next hb hnext) hrest

end Steps

/-! ## Tables in order -/

/-- The members are in the order of their names, and no name stands twice. -/
def Members.Sorted (ms : Members) : Prop := ms.Pairwise fun a b => a.1.name < b.1.name

/-- Every table in the value is sorted. -/
inductive Value.Tidy : Value → Prop
  | scalar (s : Scalar) : Tidy (.scalar s)
  | array {headed : Bool} {elements : List (Span × Value)} :
      (∀ e ∈ elements, Tidy e.2) → Tidy (.array headed elements)
  | table {form : Form} {ms : List (Key × Span × Value)} :
      Members.Sorted ms → (∀ m ∈ ms, Tidy m.2.2) → Tidy (.table form ms)

/-- The members are sorted, and every table in their values is. -/
structure Members.Tidy (ms : Members) : Prop where
  sorted : ms.Sorted
  values : ∀ m ∈ ms, m.2.2.Tidy

theorem Value.Tidy.members {form : Form} {ms : Members} (h : (Value.table form ms).Tidy) :
    ms.Tidy := by
  cases h with
  | table hsorted hvalues => exact ⟨hsorted, hvalues⟩

namespace Members

variable {ms : Members} {m a : Key × Span × Value} {name : String}

theorem tidy_nil : Tidy [] := ⟨.nil, by simp⟩

theorem Tidy.table (h : ms.Tidy) (form : Form) : (Value.table form ms).Tidy :=
  .table h.sorted h.values

theorem mem_put (h : a ∈ ms.put m) : a = m ∨ a ∈ ms := by
  induction ms with
  | nil => exact .inl (List.mem_singleton.mp h)
  | cons n rest ih =>
      rw [put] at h
      split at h
      · exact List.mem_cons.mp h
      split at h
      · rcases List.mem_cons.mp h with rfl | hrest
        · exact .inl rfl
        · exact .inr (.tail n hrest)
      · rcases List.mem_cons.mp h with rfl | hrest
        · exact .inr (.head rest)
        · rcases ih hrest with hm | hmem
          · exact .inl hm
          · exact .inr (.tail n hmem)

/-- A member in its place leaves the members sorted. -/
theorem Sorted.put (h : ms.Sorted) (m : Key × Span × Value) : (ms.put m).Sorted := by
  induction ms with
  | nil => exact List.pairwise_singleton _ m
  | cons n rest ih =>
      obtain ⟨hn, hrest⟩ := List.pairwise_cons.mp h
      rw [Members.put]
      split
      · next hlt =>
          refine List.pairwise_cons.mpr ⟨?_, h⟩
          intro a ha
          rcases List.mem_cons.mp ha with rfl | ha
          · exact hlt
          · exact hlt.trans (hn a ha)
      split
      · next heq =>
          refine List.pairwise_cons.mpr ⟨?_, hrest⟩
          intro a ha
          rw [heq]
          exact hn a ha
      · next hnlt hne =>
          have hgt : n.1.name < m.1.name := lt_of_le_of_ne (not_lt.mp hnlt) (Ne.symm hne)
          refine List.pairwise_cons.mpr ⟨?_, ih hrest⟩
          intro a ha
          rcases mem_put ha with rfl | ha
          · exact hgt
          · exact hn a ha

theorem Tidy.put (h : ms.Tidy) (hm : m.2.2.Tidy) : (ms.put m).Tidy := by
  refine ⟨h.sorted.put m, ?_⟩
  intro a ha
  rcases mem_put ha with rfl | ha
  · exact hm
  · exact h.values a ha

theorem Tidy.find? (h : ms.Tidy) (hm : ms.find? name = some m) : m.2.2.Tidy :=
  h.values m (List.mem_of_find?_eq_some hm)

end Members

/-! ## Changes at the end of a path -/

section Follow

variable {made : Form} {change : Table → Except Fault Table}

/-- A change that keeps the table at the end of a path in order keeps the
whole in order. -/
theorem Table.follow_tidy
    (hchange : ∀ t t', t.members.Tidy → change t = .ok t' → t'.members.Tidy) {path : List Key}
    {t t' : Table} (ht : t.members.Tidy) (h : t.follow made change path = .ok t') :
    t'.members.Tidy := by
  induction path generalizing t t' with
  | nil => exact hchange t t' ht h
  | cons key path ih =>
      rw [Table.follow] at h
      split at h
      · next hnone =>
          obtain ⟨inner, hinner, hput⟩ := bind_eq_ok.mp h
          cases hput
          exact ht.put ((ih Members.tidy_nil hinner).table inner.form)
      · next known span form members hfound =>
          split at h
          · cases h
          · obtain ⟨inner, hinner, hput⟩ := bind_eq_ok.mp h
            cases hput
            exact ht.put ((ih (ht.find? hfound).members hinner).table inner.form)
      · next known span elements hfound =>
          have helements : ∀ e ∈ elements, e.2.Tidy := by
            cases ht.find? hfound with
            | array helements => exact helements
          split at h
          · next place form members hlast =>
              -- The path goes on in the last element; the others stay as they are.
              obtain ⟨inner, hinner, hput⟩ := bind_eq_ok.mp h
              cases hput
              have hmembers := (helements _ (List.mem_of_getLast? hlast)).members
              refine ht.put (.array ?_)
              intro e he
              rcases List.mem_append.mp he with he | he
              · exact helements e (List.dropLast_subset elements he)
              · obtain rfl := List.mem_singleton.mp he
                exact (ih hmembers hinner).table inner.form
          · cases h
      · cases h

/-- A member that is added to a table in order. -/
theorem Table.add_tidy {t t' : Table} {path : KeyPath} {span : Span} {v : Value}
    (ht : t.members.Tidy) (hv : v.Tidy) (h : t.add path span v = .ok t') : t'.members.Tidy := by
  refine follow_tidy ?_ ht h
  intro inner inner' hinner hadd
  split at hadd
  · cases hadd
  split at hadd
  · cases hadd
  · cases hadd
    exact hinner.put hv

end Follow

/-! ## Values between brackets -/

mutual

/-- A value that is read is in order. -/
theorem Node.value_tidy : ∀ {n : Node} {span : Span} {v : Value},
    n.value = .ok (span, v) → v.Tidy
  | .scalar l, span, v, h => by
      rw [Node.value] at h
      split at h
      · cases h
        exact .scalar _
      · cases h
  | .array place elements, span, v, h => by
      rw [Node.value] at h
      obtain ⟨vs, hvs, hpure⟩ := bind_eq_ok.mp h
      cases hpure
      exact .array (nodeValues_tidy hvs)
  | .table place members, span, v, h => by
      rw [Node.value] at h
      obtain ⟨t, ht, hpure⟩ := bind_eq_ok.mp h
      cases hpure
      exact (nodeMembers_tidy Members.tidy_nil ht).table .braced

/-- So are the elements of an array. -/
theorem nodeValues_tidy : ∀ {ns : List Node} {vs : List (Span × Value)},
    nodeValues ns = .ok vs → ∀ e ∈ vs, e.2.Tidy
  | [], vs, h => by
      rw [nodeValues] at h
      cases h
      exact List.forall_mem_nil _
  | n :: ns, vs, h => by
      rw [nodeValues] at h
      obtain ⟨⟨span, v⟩, hv, hrest⟩ := bind_eq_ok.mp h
      obtain ⟨rest, hvs, hpure⟩ := bind_eq_ok.mp hrest
      cases hpure
      exact List.forall_mem_cons.mpr ⟨Node.value_tidy hv, nodeValues_tidy hvs⟩

/-- Members between braces leave the table that they are added to in order. -/
theorem nodeMembers_tidy : ∀ {ms : List (List Lexeme × Node)} {t t' : Table},
    t.members.Tidy → nodeMembers t ms = .ok t' → t'.members.Tidy
  | [], t, t', ht, h => by
      rw [nodeMembers] at h
      cases h
      exact ht
  | (keys, n) :: ms, t, t', ht, h => by
      rw [nodeMembers] at h
      obtain ⟨path, hpath, hvalue⟩ := bind_eq_ok.mp h
      obtain ⟨⟨span, v⟩, hv, hadd⟩ := bind_eq_ok.mp hvalue
      obtain ⟨next, hnext, hrest⟩ := bind_eq_ok.mp hadd
      exact nodeMembers_tidy (Table.add_tidy ht (Node.value_tidy hv) hnext) hrest

end

/-! ## Whole documents -/

/-- The document so far is in order, and so is the table of the last
header. -/
structure Draft.Tidy (d : Draft) : Prop where
  root : d.root.members.Tidy
  current : d.current.members.Tidy

/-- The table of the last header in its place. -/
theorem Draft.settle_tidy {d : Draft} {t : Table} (hd : d.Tidy) (h : d.settle = .ok t) :
    t.members.Tidy := by
  rw [settle] at h
  split at h
  · cases h
    exact hd.current
  · next array span path hheader =>
      refine Table.follow_tidy ?_ hd.root h
      have hcurrent := hd.current.table d.current.form
      intro parent parent' hparent hplace
      split at hplace
      · split at hplace
        · next key first elements hfound =>
            cases hplace
            refine hparent.put (.array ?_)
            intro e he
            rcases List.mem_append.mp he with he | he
            · cases hparent.find? hfound with
              | array helements => exact helements e he
            · obtain rfl := List.mem_singleton.mp he
              exact hcurrent
        · cases hplace
          refine hparent.put (.array ?_)
          intro e he
          obtain rfl := List.mem_singleton.mp he
          exact hcurrent
      · cases hplace
        exact hparent.put hcurrent

theorem openHeader_tidy {root root' : Table} {array : Bool} {path : KeyPath}
    (hroot : root.members.Tidy) (h : openHeader root array path = .ok root') :
    root'.members.Tidy := by
  refine Table.follow_tidy ?_ hroot h
  intro parent parent' hparent hopen
  split at hopen
  · cases hopen
    exact hparent
  · cases hopen
    exact hparent
  · cases hopen
    exact hparent
  · cases hopen

/-- What is there already of the table of a header. -/
theorem impliedMembers_tidy {name : String} {path : List Key} {t : Table}
    (ht : t.members.Tidy) : (impliedMembers t name path).Tidy := by
  induction path generalizing t with
  | nil =>
      rw [impliedMembers]
      split
      · next hfound => exact (ht.find? hfound).members
      · exact Members.tidy_nil
  | cons key path ih =>
      rw [impliedMembers]
      split
      · next hfound => exact ih (ht.find? hfound).members
      · next elements hfound =>
          have helements : ∀ e ∈ elements, e.2.Tidy := by
            cases ht.find? hfound with
            | array helements => exact helements
          split
          · next hlast => exact ih (helements _ (List.mem_of_getLast? hlast)).members
          · exact Members.tidy_nil
      · exact Members.tidy_nil

/-- Every line of a document leaves it in order. -/
theorem Draft.line_tidy {d d' : Draft} (hd : d.Tidy) (l : Line) (h : d.line l = .ok d') :
    d'.Tidy := by
  cases l with
  | header array span keys =>
      rw [line] at h
      obtain ⟨path, -, hsettle⟩ := bind_eq_ok.mp h
      obtain ⟨settled, hsettled, hopen⟩ := bind_eq_ok.mp hsettle
      obtain ⟨root, hroot, hpure⟩ := bind_eq_ok.mp hopen
      have htidy := openHeader_tidy (settle_tidy hd hsettled) hroot
      cases hpure
      refine ⟨htidy, ?_⟩
      -- The table of the new header begins with what dotted keys and headers have put there.
      show Members.Tidy (if array then [] else impliedMembers root path.key.name path.outer)
      split
      · exact Members.tidy_nil
      · exact impliedMembers_tidy htidy
  | member keys node =>
      rw [line] at h
      obtain ⟨path, -, hvalue⟩ := bind_eq_ok.mp h
      obtain ⟨⟨span, v⟩, hv, hadd⟩ := bind_eq_ok.mp hvalue
      obtain ⟨current, hcurrent, hpure⟩ := bind_eq_ok.mp hadd
      cases hpure
      exact ⟨hd.root, Table.add_tidy hd.current (Node.value_tidy hv) hcurrent⟩

/-- Whatever its text is, a document is in order. -/
theorem document_tidy {text : List Char} {ms : Members} (h : document text = .ok ms) :
    ms.Tidy := by
  rw [document] at h
  obtain ⟨lines, -, hlines⟩ := bind_eq_ok.mp h
  obtain ⟨d, hd, hsettle⟩ := bind_eq_ok.mp hlines
  obtain ⟨t, ht, hpure⟩ := bind_eq_ok.mp hsettle
  cases hpure
  have hstart : Draft.Tidy ⟨⟨.headed, []⟩, none, ⟨.headed, []⟩⟩ :=
    ⟨Members.tidy_nil, Members.tidy_nil⟩
  refine Draft.settle_tidy (foldlM_keeps ?_ hstart hd) ht
  intro d l d' hd hline
  exact Draft.line_tidy hd l hline

end OrderDesk.Toml
