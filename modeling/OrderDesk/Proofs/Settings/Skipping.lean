/-
# `Proofs.Settings.Skipping` — what is passed over

Members that are no settings are passed over, but not without a look: a
number in them that is larger than any number can be is a fault.  If there is
none (`Tree.Light`), all goes well (`pass_light`).  Whether there is one is
known from the clauses of a document already: each number stands somewhere in
them, and nothing that is done with tables makes another
(`WrittenDocument.light`).
-/
import OrderDesk.Proofs.Settings.Contents
import OrderDesk.Proofs.Toml.Assembly

namespace OrderDesk

open Toml

namespace Toml

/-- Nothing in the value is too large to be passed over. -/
inductive Tree.Light : Tree → Prop
  | scalar {s : Scalar} : (∀ span, Settings.pass span (.scalar s) = .ok ()) → Light (.scalar s)
  | array {headed : Bool} {elements : List Tree} : (∀ x ∈ elements, Light x) →
      Light (.array headed elements)
  | table {form : Form} {members : String → Option Tree} :
      (∀ name x, members name = some x → Light x) → Light (.table form members)

/-- Nothing in the table is. -/
def Outline.Light (t : Outline) : Prop := ∀ name x, t.members name = some x → x.Light

section Clauses

namespace Outline

variable {t t' u : Outline} {n : String} {x : Tree} {made : Form}

theorem light_empty (form : Form) : (empty form).Light := by
  intro name x hx
  cases hx

theorem Light.tree (h : t.Light) : t.tree.Light := .table h

theorem Light.set (h : t.Light) (hx : x.Light) : (t.set n x).Light := by
  intro name y hy
  by_cases hname : name = n
  · subst hname
    rw [members_set] at hy
    cases hy
    exact hx
  · rw [members_set_of_ne hname] at hy
    exact h name y hy

theorem Light.enter (h : t.Light) (hu : t.enter made n = some u) : u.Light := by
  rw [Outline.enter] at hu
  split at hu
  · cases hu
    exact light_empty made
  · next form members hsome =>
      obtain ⟨-, heq⟩ := Option.ite_none_left_eq_some.mp hu
      cases heq
      cases h n _ hsome with
      | table hmembers => exact hmembers
  · next elements hsome =>
      split at hu
      · next form members hlast =>
          cases hu
          cases h n _ hsome with
          | array helements =>
              cases helements _ (List.mem_of_getLast? hlast) with
              | table hmembers => exact hmembers
      · cases hu
  · cases hu

theorem Light.leave (h : t.Light) (hu : u.Light) : (t.leave n u).Light := by
  rw [Outline.leave]
  split
  · next headed elements hsome =>
      refine h.set (.array ?_)
      intro x hx
      rcases List.mem_append.mp hx with hx | hx
      · cases h n _ hsome with
        | array helements => exact helements x (List.dropLast_subset elements hx)
      · obtain rfl := List.mem_singleton.mp hx
        exact hu.tree
  · exact h.set hu.tree

theorem Light.follow {change : Outline → Option Outline} (h : t.Light)
    (hchange : ∀ u u', u.Light → change u = some u' → u'.Light) {path : List String}
    (ht : t.follow made change path = some t') : t'.Light := by
  induction path generalizing t t' with
  | nil => exact hchange t t' h ht
  | cons n path ih =>
      obtain ⟨inner, inner', henter, hinner, rfl⟩ := follow_cons_eq_some.mp ht
      exact h.leave (ih (h.enter henter) hinner)

theorem Light.add (h : t.Light) (hx : x.Light) {path : List String}
    (ht : t.add path x = some t') : t'.Light := by
  obtain ⟨name, -, hfollow⟩ := add_eq_some ht
  refine h.follow ?_ hfollow
  intro u u' hu hjoin
  obtain ⟨-, -, rfl⟩ := join_eq_some.mp hjoin
  exact hu.set hx

theorem Light.head {array : Bool} (h : t.Light) (ht : t.head array n = some t') : t'.Light := by
  rw [Outline.head.eq_def] at ht
  split at ht
  · cases ht
    exact h.set (light_empty .headed).tree
  · cases ht
    refine h.set (.array ?_)
    intro x hx
    obtain rfl := List.mem_singleton.mp hx
    exact (light_empty .headed).tree
  · next elements hsome =>
      cases ht
      refine h.set (.array ?_)
      intro x hx
      rcases List.mem_append.mp hx with hx | hx
      · cases h n _ hsome with
        | array helements => exact helements x hx
      · obtain rfl := List.mem_singleton.mp hx
        exact (light_empty .headed).tree
  · next members hsome =>
      cases ht
      cases h n _ hsome with
      | table hmembers => exact h.set (.table hmembers)
  · cases ht

end Outline

/-- A number that fits can be passed over. -/
theorem light_word {s : Scalar} {t : List Char} (h : Word s t) (hfits : s.Fits) :
    (Tree.scalar s).Light := by
  have hinteger : ∀ {n : Int}, (Scalar.integer n).Fits → (Tree.scalar (.integer n)).Light := by
    intro n hn
    have hrange : -0x80000000000000000000000000000000 ≤ n ∧
        n < 0x100000000000000000000000000000000 := hn
    refine .scalar fun span => ?_
    rw [Settings.pass, Settings.integerOf, if_pos hrange]
    rfl
  have hamount : ∀ {u : List Char} {x : Binary64}, (Scalar.amount u).Fits →
      Binary64.parse u = .ok x → (Tree.scalar (.amount u)).Light := by
    intro u x hu hx
    refine .scalar fun span => ?_
    rw [Settings.pass, Settings.amountOf, hx]
    cases x with
    | nan => rfl
    | finite negative units fits => rfl
    | infinite negative =>
        have hmem : 'i' ∈ u := hu.resolve_right fun hfinite => hfinite negative hx
        simp [hmem, Except.map]
  cases h with
  | yes => exact .scalar fun span => rfl
  | no => exact .scalar fun span => rfl
  | whole => exact hinteger hfits
  | based => exact hinteger hfits
  | amount hamount' =>
      obtain ⟨x, hx⟩ := parse_amount hamount'
      exact hamount hfits hx
  | infinity hsign =>
      cases hsign with
      | none => exact hamount hfits rfl
      | plus => exact hamount hfits rfl
      | minus => exact hamount hfits rfl
  | undefined hsign =>
      cases hsign with
      | none => exact hamount hfits rfl
      | plus => exact hamount hfits rfl
      | minus => exact hamount hfits rfl
  | moment => exact .scalar fun span => rfl

theorem itemTrees_cons {i : Item} {is : List Item} {xs : List Tree}
    (h : itemTrees (i :: is) = some xs) :
    ∃ x ys, i.tree = some x ∧ itemTrees is = some ys ∧ xs = x :: ys := by
  obtain ⟨x, hx, hrest⟩ := Option.bind_eq_some_iff.mp h
  obtain ⟨ys, hys, heq⟩ := Option.bind_eq_some_iff.mp hrest
  cases heq
  exact ⟨x, ys, hx, hys, rfl⟩

theorem addItems_cons {m : List String × Item} {ms : List (List String × Item)} {u u' : Outline}
    (h : addItems u (m :: ms) = some u') :
    ∃ x v, m.2.tree = some x ∧ u.add m.1 x = some v ∧ addItems v ms = some u' := by
  obtain ⟨x, hx, hrest⟩ := Option.bind_eq_some_iff.mp h
  obtain ⟨v, hv, hlast⟩ := Option.bind_eq_some_iff.mp hrest
  exact ⟨x, v, hx, hv, hlast⟩

mutual

theorem Written.light {d : Nat} {i : Item} {t : List Char} {x : Tree} (h : Written d i t)
    (hfits : i.Fits) (hx : i.tree = some x) : x.Light := by
  match h with
  | .word hword =>
      cases hx
      cases hfits with
      | scalar hfits => exact light_word hword hfits
  | .text hquoted =>
      cases hx
      exact .scalar fun span => rfl
  | .array helements =>
      obtain ⟨xs, hxs, heq⟩ := Option.bind_eq_some_iff.mp hx
      cases heq
      cases hfits with
      | array hfits => exact .array (helements.light hfits hxs)
  | .table hmembers =>
      obtain ⟨u, hu, heq⟩ := Option.bind_eq_some_iff.mp hx
      cases heq
      cases hfits with
      | table hfits => exact .table (hmembers.light hfits (Outline.light_empty .braced) hu)

theorem WrittenElements.light {d : Nat} {is : List Item} {t : List Char} {xs : List Tree}
    (h : WrittenElements d is t) (hfits : ∀ i ∈ is, i.Fits) (hxs : itemTrees is = some xs) :
    ∀ x ∈ xs, x.Light := by
  match h with
  | .none _ =>
      cases hxs
      exact List.forall_mem_nil _
  | .last _ hvalue _ =>
      obtain ⟨x, ys, hx, hys, rfl⟩ := itemTrees_cons hxs
      cases hys
      exact List.forall_mem_singleton.mpr (hvalue.light (hfits _ List.mem_cons_self) hx)
  | .more _ hvalue _ helements =>
      obtain ⟨x, ys, hx, hys, rfl⟩ := itemTrees_cons hxs
      obtain ⟨hfit, hfits⟩ := List.forall_mem_cons.mp hfits
      exact List.forall_mem_cons.mpr ⟨hvalue.light hfit hx, helements.light hfits hys⟩

theorem WrittenMembers.light {d : Nat} {ms : List (List String × Item)} {t : List Char}
    {u u' : Outline} (h : WrittenMembers d ms t) (hfits : ∀ m ∈ ms, m.2.Fits) (hu : u.Light)
    (hu' : addItems u ms = some u') : u'.Light := by
  match h with
  | .none _ =>
      cases hu'
      exact hu
  | .last _ hpair _ =>
      obtain ⟨x, v, hx, hv, hlast⟩ := addItems_cons hu'
      cases hlast
      exact hu.add (hpair.light (hfits _ List.mem_cons_self) hx) hv
  | .more _ hpair _ hmembers =>
      obtain ⟨x, v, hx, hv, hlast⟩ := addItems_cons hu'
      obtain ⟨hfit, hfits⟩ := List.forall_mem_cons.mp hfits
      exact hmembers.light hfits (hu.add (hpair.light hfit hx) hv) hlast

theorem WrittenPair.light {d : Nat} {path : List String} {i : Item} {t : List Char} {x : Tree}
    (h : WrittenPair d path i t) (hfits : i.Fits) (hx : i.tree = some x) : x.Light := by
  match h with
  | .mk _ _ _ hvalue => exact hvalue.light hfits hx

end

theorem WrittenLine.light {d : Nat} {cs : List Clause} {t : List Char} {s s' : Sketch}
    (h : WrittenLine d cs t) (hfits : ∀ c ∈ cs, c.Fits) (hs : s.whole.Light)
    (hs' : cs.foldlM Sketch.clause s = some s') : s'.whole.Light := by
  have hheader : ∀ {array path}, [Clause.header array path].foldlM Sketch.clause s = some s' →
      s'.whole.Light := by
    intro array path h
    obtain ⟨s₁, hclause, heq⟩ := Option.bind_eq_some_iff.mp h
    cases heq
    obtain ⟨name, -, hfollow, -⟩ := clause_header_eq_some.mp hclause
    exact hs.follow (fun u u' hu => hu.head) hfollow
  cases h with
  | silent =>
      cases hs'
      exact hs
  | header => exact hheader hs'
  | element => exact hheader hs'
  | member _ hpair =>
      obtain ⟨s₁, hclause, heq⟩ := Option.bind_eq_some_iff.mp hs'
      cases heq
      obtain ⟨x, hx, hfollow, -⟩ := clause_member_eq_some.mp hclause
      cases hfits _ List.mem_cons_self with
      | member hfit => exact hs.follow (fun u u' hu => hu.add (hpair.light hfit hx)) hfollow

/-- If no number in it is too large, nothing in a document is. -/
theorem WrittenDocument.light {d : Nat} {cs : List Clause} {t : List Char} {s s' : Sketch}
    (h : WrittenDocument d cs t) (hfits : ∀ c ∈ cs, c.Fits) (hs : s.whole.Light)
    (hs' : cs.foldlM Sketch.clause s = some s') : s'.whole.Light := by
  induction h generalizing s with
  | last hline => exact hline.light hfits hs hs'
  | more hline _ _ ih =>
      obtain ⟨hfirst, hrest⟩ := List.forall_mem_append.mp hfits
      rw [List.foldlM_append] at hs'
      obtain ⟨s₁, hs₁, hs'⟩ := Option.bind_eq_some_iff.mp hs'
      exact ih hrest (hline.light hfirst hs hs₁) hs'

end Clauses

/-! ## Members in order -/

/-- In sorted members a name has the value of every member of this name. -/
theorem memberTree_mem {ms : Members} (hms : ms.Sorted) {m : Key × Span × Value} (hm : m ∈ ms) :
    memberTree ms m.1.name = some m.2.2.tree := by
  induction ms with
  | nil => cases hm
  | cons n rest ih =>
      obtain ⟨hfirst, hrest⟩ := List.pairwise_cons.mp hms
      obtain ⟨key, span, v⟩ := n
      rw [memberTree]
      rcases List.mem_cons.mp hm with rfl | hm
      · exact if_pos rfl
      · have hne : key.name ≠ m.1.name := (hfirst m hm).ne
        rw [if_neg hne]
        exact ih hrest hm

end Toml

namespace Settings

mutual

/-- What is not too large can be passed over. -/
theorem pass_light : ∀ (v : Value) (span : Span), v.Tidy → v.tree.Light → pass span v = .ok ()
  | .scalar s, span, _, h => by
      cases h with
      | scalar hpass => exact hpass span
  | .array headed elements, span, htidy, h => by
      cases htidy with
      | array htidy =>
          cases h with
          | array hlight => exact passElements_light elements htidy hlight
  | .table form members, span, htidy, h => by
      rw [pass]
      refine passMembers_light members htidy.members.values ?_
      intro m hm
      cases h with
      | table hlight => exact hlight _ _ (memberTree_mem htidy.members.sorted hm)

theorem passElements_light : ∀ (es : List (Span × Value)), (∀ e ∈ es, e.2.Tidy) →
    (∀ x ∈ elementTrees es, x.Light) → passElements es = .ok ()
  | [], _, _ => rfl
  | (span, v) :: rest, htidy, hlight => by
      obtain ⟨hv, hrest⟩ := List.forall_mem_cons.mp htidy
      obtain ⟨hv', hrest'⟩ := List.forall_mem_cons.mp hlight
      rw [passElements, pass_light v span hv hv']
      exact passElements_light rest hrest hrest'

theorem passMembers_light : ∀ (ms : List (Key × Span × Value)), (∀ m ∈ ms, m.2.2.Tidy) →
    (∀ m ∈ ms, m.2.2.tree.Light) → passMembers ms = .ok ()
  | [], _, _ => rfl
  | (key, span, v) :: rest, htidy, hlight => by
      obtain ⟨hv, hrest⟩ := List.forall_mem_cons.mp htidy
      obtain ⟨hv', hrest'⟩ := List.forall_mem_cons.mp hlight
      rw [passMembers, pass_light v span hv hv']
      exact passMembers_light rest hrest hrest'

end

end Settings

end OrderDesk
