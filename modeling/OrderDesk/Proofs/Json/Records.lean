/-
# `Proofs.Json.Records` — a record is what its members say

A record is gathered from front to back into a draft, field by field and
in whatever order the members come.  The tree says the same at once: a
field holds what its *only* member holds, or nothing if there is no such
member (`Slot.Filled`).  The two agree for every format whose fields are
places of their own in the draft (`Lawful`).

The invariant of the run is `Filled slots done d`: the draft `d` is what
the members `done`, all that were read so far, say.  One more member
either carries it on (`Filled.unknown`, `Filled.read`) or makes it
impossible whatever follows (`not_filled_of_twice`,
`not_filled_of_refused`), and these are exactly the cases in which the
reader goes on or fails.
-/
import Mathlib.Data.List.Nodup
import OrderDesk.Proofs.Json.Readings

namespace OrderDesk.Json

open Utf8 (Piece ofText)

/-- The members of a name. -/
def named (name : String) (ms : Members) : Members := ms.filter fun m => m.1 == name.toList

/-- There is no member of this name. -/
def Missing (ms : Members) (name : String) : Prop := named name ms = []

/-- There is one member of this name, and it holds `v`. -/
def Only (ms : Members) (name : String) (v : Value) : Prop := named name ms = [(name.toList, v)]

theorem named_append (name : String) (ms ms' : Members) :
    named name (ms ++ ms') = named name ms ++ named name ms' := List.filter_append ..

theorem named_cons_self (name : String) (v : Value) (ms : Members) :
    named name ((name.toList, v) :: ms) = (name.toList, v) :: named name ms :=
  List.filter_cons_of_pos (by simp)

theorem named_cons_ne {name : String} {k : List Char} (h : name.toList ≠ k) (v : Value)
    (ms : Members) : named name ((k, v) :: ms) = named name ms :=
  List.filter_cons_of_neg (by simpa using fun hk => h hk.symm)

theorem Only.unique {ms : Members} {name : String} {v v' : Value} (h : Only ms name v)
    (h' : Only ms name v') : v = v' :=
  congrArg Prod.snd (List.cons.inj (h.symm.trans h')).1

/-- Members in another order have the same only members. -/
theorem Only.perm {ms ms' : Members} {name : String} {v : Value} (h : Only ms name v)
    (hperm : ms.Perm ms') : Only ms' name v := by
  have hnamed : (named name ms').Perm [(name.toList, v)] := h ▸ (hperm.symm.filter _)
  exact List.perm_singleton.mp hnamed

theorem Missing.perm {ms ms' : Members} {name : String} (h : Missing ms name)
    (hperm : ms.Perm ms') : Missing ms' name := by
  have hnamed : (named name ms').Perm [] := h ▸ (hperm.symm.filter _)
  exact hnamed.eq_nil

/-! ## Slots -/

/-- A place of a draft: the name of its field, the reader that fills it,
and what is to be taken from a value. -/
structure Slot (D : Type) where
  α : Type
  name : String
  get : D → Option α
  set : α → D → D
  reader : Reader α
  take : Value → α → Prop

namespace Slot

variable {D : Type}

/-- The field of a slot. -/
def field (σ : Slot D) : Field D := .of σ.name σ.get σ.set σ.reader

/-- The draft has in this slot what the members say: nothing if there is no
member of the name, else what is taken from the only one. -/
def Filled (σ : Slot D) (ms : Members) (d : D) : Prop :=
  (Missing ms σ.name ∧ σ.get d = none) ∨
    ∃ v a, Only ms σ.name v ∧ σ.take v a ∧ σ.get d = some a

end Slot

/-- The draft has in every slot what the members say. -/
def Filled (slots : List (Slot D)) (ms : Members) (d : D) : Prop := ∀ σ ∈ slots, σ.Filled ms d

/-- The slots of a format are places of their own, and its readers take
what the slots say. -/
structure Lawful (f : Format D R) (slots : List (Slot D)) : Prop where
  fields_eq : f.fields = slots.map Slot.field
  nodup : (slots.map Slot.name).Nodup
  blank : ∀ σ ∈ slots, σ.get f.blank = none
  get_set : ∀ σ ∈ slots, ∀ a d, σ.get (σ.set a d) = some a
  frame : ∀ σ ∈ slots, ∀ τ ∈ slots, σ.name ≠ τ.name → ∀ a d, τ.get (σ.set a d) = τ.get d
  ext : ∀ d d', (∀ σ ∈ slots, σ.get d = σ.get d') → d = d'
  reads : ∀ σ ∈ slots, Reads σ.reader.read σ.take
  unique : ∀ σ ∈ slots, ∀ v a b, σ.take v a → σ.take v b → a = b

section Invariant

variable {f : Format D R} {slots : List (Slot D)} {ms : Members} {d : D} {v : Value}

/-- Nothing is gathered before the first member. -/
theorem Lawful.filled_nil (hf : Lawful f slots) : Filled slots [] f.blank := by
  intro σ hσ
  exact .inl ⟨rfl, hf.blank σ hσ⟩

theorem Lawful.eq_of_name (hf : Lawful f slots) {σ τ : Slot D} (hσ : σ ∈ slots) (hτ : τ ∈ slots)
    (h : σ.name = τ.name) : σ = τ :=
  List.inj_on_of_nodup_map hf.nodup hσ hτ h

/-- A member of another name leaves a slot as it is. -/
theorem Slot.Filled.other {σ : Slot D} {k : List Char} (h : σ.Filled ms d)
    (hk : σ.name.toList ≠ k) (v : Value) : σ.Filled (ms ++ [(k, v)]) d := by
  have hnamed : named σ.name (ms ++ [(k, v)]) = named σ.name ms := by
    rw [named_append, named_cons_ne hk]
    exact List.append_nil _
  rcases h with ⟨hmissing, hget⟩ | ⟨v', a, honly, htake, hget⟩
  · exact .inl ⟨hnamed.trans hmissing, hget⟩
  · exact .inr ⟨v', a, hnamed.trans honly, htake, hget⟩

/-- A member of no slot changes nothing. -/
theorem Filled.unknown {k : List Char} (h : Filled slots ms d)
    (hk : ∀ σ ∈ slots, σ.name.toList ≠ k) (v : Value) : Filled slots (ms ++ [(k, v)]) d := by
  intro σ hσ
  exact (h σ hσ).other (hk σ hσ) v

theorem Slot.Filled.missing {σ : Slot D} (h : σ.Filled ms d) (hget : σ.get d = none) :
    Missing ms σ.name := by
  rcases h with ⟨hmissing, -⟩ | ⟨_, a, -, -, hsome⟩
  · exact hmissing
  · cases hget.symm.trans hsome

/-- The first member of a slot goes into the draft. -/
theorem Lawful.filled_read (hf : Lawful f slots) {σ : Slot D} (hσ : σ ∈ slots)
    (h : Filled slots ms d) (hget : σ.get d = none) {a : σ.α} (ha : σ.take v a) :
    Filled slots (ms ++ [(σ.name.toList, v)]) (σ.set a d) := by
  intro τ hτ
  by_cases hname : σ.name = τ.name
  · obtain rfl := hf.eq_of_name hσ hτ hname
    refine .inr ⟨v, a, ?_, ha, hf.get_set σ hσ a d⟩
    rw [Only, named_append, (h σ hσ).missing hget, named_cons_self]
    rfl
  · have hframe := hf.frame σ hσ τ hτ hname a d
    have hk : τ.name.toList ≠ σ.name.toList := by
      intro heq
      exact hname (String.toList_injective heq).symm
    rcases (h τ hτ).other hk v with ⟨hmissing, hnone⟩ | ⟨v', b, honly, hb, hsome⟩
    · exact .inl ⟨hmissing, hframe.trans hnone⟩
    · exact .inr ⟨v', b, honly, hb, hframe.trans hsome⟩

/-- A second member of a slot spoils the record, whatever follows. -/
theorem not_filled_of_twice {σ : Slot D} (hσ : σ ∈ slots) (h : Filled slots ms d)
    (hget : σ.get d ≠ none) (v : Value) (ms' : Members) (d' : D) :
    ¬ Filled slots (ms ++ (σ.name.toList, v) :: ms') d' := by
  intro hfilled
  obtain ⟨-, hnone⟩ | ⟨v', _, honly, -, -⟩ := h σ hσ
  · exact hget hnone
  · have hnamed : named σ.name (ms ++ (σ.name.toList, v) :: ms') =
        (σ.name.toList, v') :: (σ.name.toList, v) :: named σ.name ms' := by
      rw [named_append, honly, named_cons_self]
      rfl
    rcases hfilled σ hσ with ⟨hmissing, -⟩ | ⟨_, _, honly', -, -⟩
    · cases hnamed.symm.trans hmissing
    · cases hnamed.symm.trans honly'

/-- So does a member from which nothing can be taken. -/
theorem not_filled_of_refused {σ : Slot D} (hσ : σ ∈ slots) (h : Filled slots ms d)
    (hget : σ.get d = none) (hv : ∀ a, ¬ σ.take v a) (ms' : Members) (d' : D) :
    ¬ Filled slots (ms ++ (σ.name.toList, v) :: ms') d' := by
  intro hfilled
  have hnamed : named σ.name (ms ++ (σ.name.toList, v) :: ms') =
      (σ.name.toList, v) :: named σ.name ms' := by
    rw [named_append, (h σ hσ).missing hget, named_cons_self]
    rfl
  rcases hfilled σ hσ with ⟨hmissing, -⟩ | ⟨v', a, honly, ha, -⟩
  · cases hnamed.symm.trans hmissing
  · have heq := hnamed.symm.trans honly
    simp only [List.cons.injEq, Prod.mk.injEq, true_and] at heq
    exact hv a (heq.1 ▸ ha)

/-- The members determine the draft. -/
theorem Lawful.filled_unique (hf : Lawful f slots) {d' : D} (h : Filled slots ms d)
    (h' : Filled slots ms d') : d = d' := by
  refine hf.ext d d' ?_
  intro σ hσ
  rcases h σ hσ with ⟨hmissing, hget⟩ | ⟨v, a, honly, ha, hget⟩ <;>
    rcases h' σ hσ with ⟨hmissing', hget'⟩ | ⟨v', b, honly', hb, hget'⟩
  · rw [hget, hget']
  · cases hmissing.symm.trans honly'
  · cases hmissing'.symm.trans honly
  · obtain rfl := honly.unique honly'
    rw [hget, hget', hf.unique σ hσ v a b ha hb]

end Invariant

end OrderDesk.Json
