/-
# `Proofs.Toml.Planting` — one more member in a table of a document

A member of a table `g` can be given below the header of the table, by a
dotted key in front of all headers, or between the braces of the table.  In
each case it is one clause or one item more, at almost any place, and what
the document comes to is what it came to before, with this member in the
table (`adds_clauses`).

| | |
| :-- | :-- |
| `Outline.plant t g k x` | the document with the member `k` in the table `g` |
| `Outline.Lacks t g k`   | the table has no such member, and nothing else has its name |
| `Outline.Firm t form g` | the table has a header or braces |
| `Sketch.Loose s g cs`   | no clause that follows is going to make the table by itself |
| `Adds g k i cs ds`      | `ds` is `cs` with one more member, in one of the notations |

The clauses behind the new one must do with the member in place what they did
without it.  They do, except for one thing: a table that was only implied by
the header of a table inside it is made by dotted keys now (`Outline.graft`),
and could no longer be given a header.  So the table must be firm by then, or
no header for it may follow.
-/
import OrderDesk.Proofs.Toml.Outline

namespace OrderDesk.Toml

namespace Outline

/-- The table with one more member; a table that was only implied is now made
by dotted keys. -/
def graft (t : Outline) (k : String) (x : Tree) : Outline :=
  ⟨if t.form = .implied then .dotted else t.form, (t.set k x).members⟩

/-- The document with one more member in the table `g`. -/
def plant (t : Outline) (g k : String) (x : Tree) : Outline :=
  match t.members g with
  | none => t.set g ((empty .implied).graft k x).tree
  | some (.table form members) => t.set g ((⟨form, members⟩ : Outline).graft k x).tree
  | some _ => t

/-- The table `g` has no member `k`, and nothing else has its name. -/
def Lacks (t : Outline) (g k : String) : Prop :=
  ∀ x, t.members g = some x → ∃ form members, x = .table form members ∧ members k = none

/-! ## One more member -/

section Graft

variable {u u' : Outline} {n k : String} {x y : Tree} {made : Form}

theorem members_graft_of_ne (h : n ≠ k) : (u.graft k x).members n = u.members n := if_neg h

theorem graft_set (h : n ≠ k) : (u.graft k x).set n y = (u.set n y).graft k x := by
  have hset := set_comm h u y x
  rw [graft, graft, hset]
  rfl

theorem leave_graft (h : n ≠ k) (v : Outline) :
    (u.graft k x).leave n v = (u.leave n v).graft k x := by
  rw [leave, leave, members_graft_of_ne h]
  split
  · exact graft_set h
  · exact graft_set h

/-- What is done elsewhere in a table can be done with one more member as
well. -/
theorem follow_graft {change : Outline → Option Outline} {path : List String}
    (h : u.follow made change path = some u') (hk : u'.members k = none)
    (hnil : path = [] → change u = some u' → change (u.graft k x) = some (u'.graft k x)) :
    (u.graft k x).follow made change path = some (u'.graft k x) := by
  cases path with
  | nil => exact hnil rfl h
  | cons n path =>
      obtain ⟨inner, inner', henter, hinner, rfl⟩ := follow_cons_eq_some.mp h
      have hne : n ≠ k := by
        rintro rfl
        exact members_leave u n inner' hk
      refine follow_cons_eq_some.mpr ⟨inner, inner', ?_, hinner, (leave_graft hne inner').symm⟩
      exact (enter_congr (members_graft_of_ne hne)).trans henter

theorem join_graft {direct : Prop} [Decidable direct] (h : u.join direct n y = some u')
    (hk : u'.members k = none) (hform : direct → u.form ≠ .implied) :
    (u.graft k x).join direct n y = some (u'.graft k x) := by
  obtain ⟨hdirect, hn, rfl⟩ := join_eq_some.mp h
  have hne : n ≠ k := by
    rintro rfl
    rw [members_set] at hk
    cases hk
  refine join_eq_some.mpr ⟨?_, (members_graft_of_ne hne).trans hn, (graft_set hne).symm⟩
  -- Only the form `implied` changes, and a member cannot be joined to such a table.
  by_cases himplied : u.form = .implied
  · by_cases hd : direct
    · exact absurd himplied (hform hd)
    · simp [himplied, hd] at hdirect
  · rw [graft, if_neg himplied]
    exact hdirect

theorem add_graft {path : List String} (h : u.add path y = some u') (hk : u'.members k = none)
    (hform : u.form ≠ .implied) : (u.graft k x).add path y = some (u'.graft k x) := by
  obtain ⟨name, hname, hfollow⟩ := add_eq_some h
  rw [add, hname]
  exact follow_graft hfollow hk fun _ hjoin => join_graft hjoin hk fun _ => hform

theorem head_graft {array : Bool} (h : u.head array n = some u') (hk : u'.members k = none) :
    (u.graft k x).head array n = some (u'.graft k x) := by
  obtain ⟨y, rfl, hhead⟩ := head_eq_some h
  have hne : n ≠ k := by
    rintro rfl
    rw [members_set] at hk
    cases hk
  rw [hhead _ (members_graft_of_ne hne), graft_set hne]

theorem addItems_keeps {ms : List (List String × Item)} (h : addItems u ms = some u')
    (hk : u'.members k = none) : u.members k = none := by
  induction ms generalizing u with
  | nil =>
      cases h
      exact hk
  | cons m ms ih =>
      obtain ⟨y, -, hrest⟩ := Option.bind_eq_some_iff.mp h
      obtain ⟨v, hadd, hlast⟩ := Option.bind_eq_some_iff.mp hrest
      exact add_keeps hadd (ih hlast)

theorem form_addItems {ms : List (List String × Item)} (h : addItems u ms = some u') :
    u'.form = u.form := by
  induction ms generalizing u with
  | nil =>
      cases h
      rfl
  | cons m ms ih =>
      obtain ⟨y, -, hrest⟩ := Option.bind_eq_some_iff.mp h
      obtain ⟨v, hadd, hlast⟩ := Option.bind_eq_some_iff.mp hrest
      exact (ih hlast).trans (form_add hadd)

theorem addItems_graft {ms : List (List String × Item)} (h : addItems u ms = some u')
    (hk : u'.members k = none) (hform : u.form ≠ .implied) :
    addItems (u.graft k x) ms = some (u'.graft k x) := by
  induction ms generalizing u with
  | nil =>
      cases h
      rfl
  | cons m ms ih =>
      obtain ⟨y, hy, hrest⟩ := Option.bind_eq_some_iff.mp h
      obtain ⟨v, hadd, hlast⟩ := Option.bind_eq_some_iff.mp hrest
      have hadd' := add_graft (x := x) hadd (addItems_keeps hlast hk) hform
      rw [addItems, hy]
      simp only [Option.bind_eq_bind, Option.bind_some, hadd']
      exact ih hlast ((form_add hadd).symm ▸ hform)

end Graft

theorem eq_singleton {path : List String} {name : String} (hname : path.getLast? = some name)
    (hnil : path.dropLast = []) : path = [name] := by
  rw [← List.dropLast_append_getLast? name hname, hnil]
  rfl

/-! ## One more member in a table of the document -/

section Plant

variable {t t' u v : Outline} {g n k : String} {x y : Tree} {made : Form}

/-- The name leads to no array. -/
def Single (t : Outline) (g : String) : Prop :=
  ∀ headed elements, t.members g ≠ some (.array headed elements)

theorem plant_of_none (h : t.members g = none) :
    t.plant g k x = t.set g ((empty .implied).graft k x).tree := by
  rw [plant, h]

theorem plant_of_table {form : Form} {members : String → Option Tree}
    (h : t.members g = some (.table form members)) :
    t.plant g k x = t.set g ((⟨form, members⟩ : Outline).graft k x).tree := by
  rw [plant, h]

theorem plant_eq_set_or (t : Outline) (g k : String) (x : Tree) :
    t.plant g k x = t ∨ ∃ y, t.plant g k x = t.set g y := by
  rw [plant]
  split
  · exact .inr ⟨_, rfl⟩
  · exact .inr ⟨_, rfl⟩
  · exact .inl rfl

theorem form_plant (t : Outline) (g k : String) (x : Tree) : (t.plant g k x).form = t.form := by
  rcases t.plant_eq_set_or g k x with h | ⟨y, h⟩
  · rw [h]
  · rw [h]
    rfl

theorem members_plant_of_ne (h : n ≠ g) : (t.plant g k x).members n = t.members n := by
  rcases t.plant_eq_set_or g k x with hplant | ⟨y, hplant⟩
  · rw [hplant]
  · rw [hplant, members_set_of_ne h]

theorem plant_set (h : n ≠ g) : (t.plant g k x).set n y = (t.set n y).plant g k x := by
  rw [plant, plant, members_set_of_ne h.symm]
  split
  · exact set_comm h.symm t _ y
  · exact set_comm h.symm t _ y
  · rfl

theorem leave_plant (h : n ≠ g) (u : Outline) :
    (t.plant g k x).leave n u = (t.leave n u).plant g k x := by
  rw [leave, leave, members_plant_of_ne h]
  split
  · exact plant_set h
  · exact plant_set h

theorem enter_plant (hmade : made = .implied ∨ made = .dotted) (hsingle : t.Single g)
    (h : t.enter made g = some u) : (t.plant g k x).enter made g = some (u.graft k x) := by
  rw [enter] at h
  split at h
  · next hnone =>
      cases h
      rw [plant_of_none hnone, enter, members_set]
      rcases hmade with rfl | rfl
      · rfl
      · rfl
  · next form members hsome =>
      split at h
      · cases h
      · next hform =>
          cases h
          rw [plant_of_table hsome, enter, members_set]
          refine if_neg ?_
          by_cases himplied : form = .implied
          · simp [himplied, graft]
          · simpa [himplied, graft] using hform
  · next elements hsome => exact absurd hsome (hsingle true elements)
  · cases h

theorem leave_single (h : t.Single g) (u : Outline) : t.leave g u = t.set g u.tree := by
  rw [leave]
  split
  · next headed elements hsome => exact absurd hsome (h headed elements)
  · rfl

theorem single_plant (h : t.Single g) : (t.plant g k x).Single g := by
  intro headed elements hsome
  cases hg : t.members g with
  | none =>
      rw [plant_of_none hg, members_set] at hsome
      cases hsome
  | some y =>
      cases y with
      | scalar s => simp [plant, hg] at hsome
      | array headed' elements' => exact h headed' elements' hg
      | table form members =>
          rw [plant_of_table hg, members_set] at hsome
          cases hsome

theorem leave_plant_self (h : t.Single g) (u : Outline) :
    (t.plant g k x).leave g (u.graft k x) = (t.leave g u).plant g k x := by
  have hset : (t.plant g k x).set g (u.graft k x).tree = t.set g (u.graft k x).tree := by
    rcases t.plant_eq_set_or g k x with hplant | ⟨y, hplant⟩
    · rw [hplant]
    · rw [hplant, set_set]
  rw [leave_single (single_plant h), leave_single h, hset, plant_of_table (members_set t g u.tree),
    set_set]

theorem lacks_leave (h : (t.leave g u).Lacks g k) : u.members k = none ∧ t.Single g := by
  have hsingle : t.Single g := by
    intro headed elements hsome
    rw [leave, hsome] at h
    obtain ⟨form, members, heq, -⟩ := h _ (members_set t g _)
    cases heq
  rw [leave_single hsingle] at h
  obtain ⟨form, members, heq, hk⟩ := h _ (members_set t g _)
  cases heq
  exact ⟨hk, hsingle⟩

/-- What is done elsewhere in a document can be done with one more member in a
table as well. -/
theorem follow_plant {change : Outline → Option Outline} {path : List String}
    (hmade : made = .implied ∨ made = .dotted) (h : t.follow made change path = some t')
    (hlacks : t'.Lacks g k)
    (hnil : path = [] → change t = some t' → change (t.plant g k x) = some (t'.plant g k x))
    (hinner : ∀ rest u u', path = g :: rest → t.enter made g = some u →
      u.follow made change rest = some u' → u'.members k = none →
      (u.graft k x).follow made change rest = some (u'.graft k x)) :
    (t.plant g k x).follow made change path = some (t'.plant g k x) := by
  cases path with
  | nil => exact hnil rfl h
  | cons n path =>
      obtain ⟨inner, inner', henter, hfollow, rfl⟩ := follow_cons_eq_some.mp h
      by_cases hn : n = g
      · subst hn
        obtain ⟨hk, hsingle⟩ := lacks_leave hlacks
        refine follow_cons_eq_some.mpr ⟨_, _, enter_plant hmade hsingle henter, ?_,
          (leave_plant_self hsingle inner').symm⟩
        exact hinner path inner inner' rfl henter hfollow hk
      · refine follow_cons_eq_some.mpr ⟨inner, inner', ?_, hfollow, (leave_plant hn inner').symm⟩
        exact (enter_congr (members_plant_of_ne hn)).trans henter

theorem join_plant {direct : Prop} [Decidable direct] (hn : n ≠ g)
    (h : t.join direct n y = some t') :
    (t.plant g k x).join direct n y = some (t'.plant g k x) := by
  obtain ⟨hdirect, hnone, rfl⟩ := join_eq_some.mp h
  refine join_eq_some.mpr ⟨?_, (members_plant_of_ne hn).trans hnone, (plant_set hn).symm⟩
  rw [form_plant]
  exact hdirect

theorem head_plant {array : Bool} (hn : n ≠ g) (h : t.head array n = some t') :
    (t.plant g k x).head array n = some (t'.plant g k x) := by
  obtain ⟨y, rfl, hhead⟩ := head_eq_some h
  rw [hhead _ (members_plant_of_ne hn), plant_set hn]

theorem add_plant {path : List String} (h : t.add path y = some t') (hlacks : t'.Lacks g k)
    (hpath : path ≠ [g]) : (t.plant g k x).add path y = some (t'.plant g k x) := by
  obtain ⟨name, hname, hfollow⟩ := add_eq_some h
  rw [add, hname]
  refine follow_plant (.inr rfl) hfollow hlacks ?_ ?_
  · intro hnil hjoin
    refine join_plant ?_ hjoin
    rintro rfl
    exact hpath (eq_singleton (getLast?_of_lastName hname) hnil)
  · intro rest u u' hrest _ hinner hk
    refine follow_graft hinner hk ?_
    intro _ hjoin
    refine join_graft hjoin hk ?_
    intro hnil
    rw [hnil] at hrest
    cases hrest

end Plant

/-! ## Nothing goes away -/

section Keeping

variable {t t' u u' v : Outline} {g n k : String} {y : Tree} {made form : Form}

theorem lacks_congr (h : t'.members g = t.members g) : t'.Lacks g k ↔ t.Lacks g k := by
  rw [Lacks, Lacks, h]

theorem lacks_of_none (h : t.members g = none) : t.Lacks g k := by
  intro x hx
  cases h.symm.trans hx

theorem lacks_of_enter (h : t.enter made g = some u) (hsingle : t.Single g)
    (hk : u.members k = none) : t.Lacks g k := by
  intro x hx
  rw [enter, hx] at h
  split at h
  · next heq => cases heq
  · next form members heq =>
      cases heq
      split at h
      · cases h
      · cases h
        exact ⟨form, members, rfl, hk⟩
  · next elements heq =>
      cases heq
      exact absurd hx (hsingle true elements)
  · cases h

theorem follow_lacks {change : Outline → Option Outline} {path : List String}
    (h : t.follow made change path = some t') (hlacks : t'.Lacks g k)
    (hnil : change t = some t' → t.Lacks g k)
    (hkeeps : ∀ u u', change u = some u' → u'.members k = none → u.members k = none) :
    t.Lacks g k := by
  cases path with
  | nil => exact hnil h
  | cons n path =>
      obtain ⟨inner, inner', henter, hfollow, rfl⟩ := follow_cons_eq_some.mp h
      by_cases hn : n = g
      · subst hn
        obtain ⟨hk, hsingle⟩ := lacks_leave hlacks
        exact lacks_of_enter henter hsingle (follow_keeps hkeeps hfollow hk)
      · obtain ⟨y, hy⟩ := t.leave_eq_set n inner'
        rw [hy] at hlacks
        exact (lacks_congr (members_set_of_ne (Ne.symm hn) t y)).mp hlacks

theorem join_keeps {direct : Prop} [Decidable direct] (h : u.join direct n y = some v)
    (hk : v.members k = none) : u.members k = none := by
  obtain ⟨-, hname, rfl⟩ := join_eq_some.mp h
  by_cases hne : k = n
  · rw [hne, hname]
  · rwa [members_set_of_ne hne] at hk

theorem head_keeps {array : Bool} (h : u.head array n = some v) (hk : v.members k = none) :
    u.members k = none := by
  obtain ⟨y, rfl, -⟩ := head_eq_some h
  have hne : k ≠ n := by
    rintro rfl
    rw [members_set] at hk
    cases hk
  rwa [members_set_of_ne hne] at hk

theorem join_lacks {direct : Prop} [Decidable direct] (h : t.join direct n y = some t')
    (hlacks : t'.Lacks g k) : t.Lacks g k := by
  obtain ⟨-, hname, rfl⟩ := join_eq_some.mp h
  by_cases hne : g = n
  · exact lacks_of_none (hne ▸ hname)
  · exact (lacks_congr (members_set_of_ne hne t y)).mp hlacks

theorem add_lacks {path : List String} (h : t.add path y = some t') (hlacks : t'.Lacks g k) :
    t.Lacks g k := by
  obtain ⟨name, -, hfollow⟩ := add_eq_some h
  exact follow_lacks hfollow hlacks (fun hjoin => join_lacks hjoin hlacks) fun _ _ => join_keeps

theorem head_lacks {array : Bool} (h : t.head array n = some t') (hlacks : t'.Lacks g k) :
    t.Lacks g k := by
  by_cases hne : g = n
  · subst hne
    rw [head.eq_def] at h
    split at h
    · next hnone => exact lacks_of_none hnone
    · next hnone => exact lacks_of_none hnone
    · cases h
      obtain ⟨form, members, heq, -⟩ := hlacks _ (members_set t g _)
      cases heq
    · next members hsome =>
        cases h
        obtain ⟨form, members', heq, hk⟩ := hlacks _ (members_set t g _)
        cases heq
        intro x hx
        cases hsome.symm.trans hx
        exact ⟨_, _, rfl, hk⟩
    · cases h
  · obtain ⟨y, rfl, -⟩ := head_eq_some h
    exact (lacks_congr (members_set_of_ne hne t y)).mp hlacks

/-- The table `g` has a header or braces. -/
structure Firm (t : Outline) (form : Form) (g : String) : Prop where
  solid : form = .headed ∨ form = .braced
  table : ∃ members, t.members g = some (.table form members)

theorem firm_congr (h : t'.members g = t.members g) (hfirm : t.Firm form g) : t'.Firm form g := by
  obtain ⟨members, hsome⟩ := hfirm.table
  exact ⟨hfirm.solid, members, h.trans hsome⟩

theorem Firm.single (h : t.Firm form g) : t.Single g := by
  obtain ⟨members, hsome⟩ := h.table
  intro headed elements hg
  cases hsome.symm.trans hg

theorem Firm.form_enter (h : t.Firm form g) (henter : t.enter made g = some u) :
    form = .headed ∧ u.form = .headed := by
  obtain ⟨members, hsome⟩ := h.table
  rw [enter, hsome] at henter
  obtain ⟨hnot, heq⟩ := Option.ite_none_left_eq_some.mp henter
  cases heq
  have hheaded := h.solid.resolve_right (not_or.mp hnot).1
  exact ⟨hheaded, hheaded⟩

theorem follow_firm {change : Outline → Option Outline} {path : List String}
    (hfirm : t.Firm form g) (h : t.follow made change path = some t')
    (hnil : change t = some t' → t'.Firm form g)
    (hform : ∀ u u', change u = some u' → u'.form = u.form) : t'.Firm form g := by
  cases path with
  | nil => exact hnil h
  | cons n path =>
      obtain ⟨inner, inner', henter, hfollow, rfl⟩ := follow_cons_eq_some.mp h
      by_cases hn : n = g
      · subst hn
        obtain ⟨hheaded, hinner⟩ := hfirm.form_enter henter
        refine ⟨.inl hheaded, inner'.members, ?_⟩
        rw [leave_single hfirm.single, members_set, tree, follow_form hform hfollow, hinner,
          hheaded]
      · obtain ⟨y, hy⟩ := t.leave_eq_set n inner'
        rw [hy]
        exact firm_congr (members_set_of_ne (Ne.symm hn) t y) hfirm

theorem Firm.ne_of_join {direct : Prop} [Decidable direct] (hfirm : t.Firm form g)
    (h : t.join direct n y = some t') : n ≠ g := by
  obtain ⟨members, hsome⟩ := hfirm.table
  obtain ⟨-, hnone, -⟩ := join_eq_some.mp h
  rintro rfl
  cases hsome.symm.trans hnone

theorem Firm.ne_of_head {array : Bool} (hfirm : t.Firm form g)
    (h : t.head array n = some t') : n ≠ g := by
  obtain ⟨members, hsome⟩ := hfirm.table
  rintro rfl
  rw [head.eq_def, hsome] at h
  rcases hfirm.solid with rfl | rfl
  · cases array <;> cases h
  · cases array <;> cases h

theorem add_firm {path : List String} (hfirm : t.Firm form g) (h : t.add path y = some t') :
    t'.Firm form g := by
  obtain ⟨name, -, hfollow⟩ := add_eq_some h
  refine follow_firm hfirm hfollow ?_ ?_
  · intro hjoin
    have hne := hfirm.ne_of_join hjoin
    obtain ⟨-, -, rfl⟩ := join_eq_some.mp hjoin
    exact firm_congr (members_set_of_ne hne.symm t y) hfirm
  · intro u u' hjoin
    obtain ⟨-, -, rfl⟩ := join_eq_some.mp hjoin
    rfl

theorem form_head {array : Bool} (h : u.head array n = some v) : v.form = u.form := by
  obtain ⟨y, rfl, -⟩ := head_eq_some h
  rfl

theorem head_firm {array : Bool} (hfirm : t.Firm form g) (h : t.head array n = some t') :
    t'.Firm form g := by
  have hne := hfirm.ne_of_head h
  obtain ⟨y, rfl, -⟩ := head_eq_some h
  exact firm_congr (members_set_of_ne hne.symm t y) hfirm

/-- Only dotted keys have made the table `g`, if it is there at all. -/
def Dotted (t : Outline) (g : String) : Prop :=
  ∀ x, t.members g = some x → ∃ members, x = .table .dotted members

theorem dotted_congr (h : t'.members g = t.members g) : t'.Dotted g ↔ t.Dotted g := by
  rw [Dotted, Dotted, h]

theorem Dotted.single (h : t.Dotted g) : t.Single g := by
  intro headed elements hg
  obtain ⟨members, heq⟩ := h _ hg
  cases heq

theorem Dotted.form_enter (h : t.Dotted g) (henter : t.enter .dotted g = some u) :
    u.form = .dotted := by
  rw [enter] at henter
  cases hg : t.members g with
  | none =>
      rw [hg] at henter
      cases henter
      rfl
  | some x =>
      obtain ⟨members, rfl⟩ := h x hg
      rw [hg] at henter
      obtain ⟨-, heq⟩ := Option.ite_none_left_eq_some.mp henter
      cases heq
      rfl

theorem add_dotted {path : List String} (hdotted : t.Dotted g) (hpath : path ≠ [g])
    (h : t.add path y = some t') : t'.Dotted g := by
  obtain ⟨name, hname, hfollow⟩ := add_eq_some h
  cases houter : path.dropLast with
  | nil =>
      have hne : g ≠ name := by
        rintro rfl
        exact hpath (eq_singleton (getLast?_of_lastName hname) houter)
      simp only [houter] at hfollow
      obtain ⟨-, -, rfl⟩ := join_eq_some.mp hfollow
      exact (dotted_congr (members_set_of_ne hne t y)).mpr hdotted
  | cons n rest =>
      simp only [houter] at hfollow
      obtain ⟨inner, inner', henter, hinner, rfl⟩ := follow_cons_eq_some.mp hfollow
      by_cases hn : n = g
      · subst hn
        have hform : inner'.form = .dotted := by
          refine (follow_form ?_ hinner).trans (hdotted.form_enter henter)
          intro u u' hjoin
          obtain ⟨-, -, rfl⟩ := join_eq_some.mp hjoin
          rfl
        rw [leave_single hdotted.single]
        intro x hx
        rw [members_set] at hx
        cases hx
        exact ⟨inner'.members, by rw [tree, hform]⟩
      · obtain ⟨z, hz⟩ := t.leave_eq_set n inner'
        rw [hz]
        exact (dotted_congr (members_set_of_ne (Ne.symm hn) t z)).mpr hdotted

theorem firm_of_head (h : t.head false g = some t') : t'.Firm .headed g := by
  rw [head.eq_def] at h
  split at h
  · cases h
    exact ⟨.inl rfl, _, members_set t g _⟩
  · next heq => cases heq
  · next heq => cases heq
  · cases h
    exact ⟨.inl rfl, _, members_set t g _⟩
  · cases h

/-- Below the header of the table a member is added to the table. -/
theorem insert_headed (hfirm : t.Firm .headed g) (hlacks : t.Lacks g k) (x : Tree) :
    t.follow .implied (·.add [k] x) [g] = some (t.plant g k x) := by
  obtain ⟨members, hsome⟩ := hfirm.table
  obtain ⟨form, members', heq, hk⟩ := hlacks _ hsome
  cases heq
  have henter : t.enter .implied g = some ⟨.headed, members⟩ := by
    rw [enter, hsome]
    rfl
  have hadd : (⟨.headed, members⟩ : Outline).add [k] x =
      some ((⟨.headed, members⟩ : Outline).graft k x) :=
    add_single.mpr ⟨show Form.headed ≠ .dotted by decide, hk, rfl⟩
  refine follow_cons_eq_some.mpr ⟨_, _, henter, hadd, ?_⟩
  rw [leave_single hfirm.single, plant_of_table hsome]

/-- So is it by a dotted key. -/
theorem insert_dotted (hdotted : t.Dotted g) (hlacks : t.Lacks g k) (x : Tree) :
    t.add [g, k] x = some (t.plant g k x) := by
  have hjoin : ∀ members : String → Option Tree, members k = none →
      (⟨.dotted, members⟩ : Outline).join ([g] = []) k x =
        some ((⟨.dotted, members⟩ : Outline).graft k x) := by
    intro members hk
    exact join_eq_some.mpr ⟨by simp, hk, rfl⟩
  rw [add]
  cases hg : t.members g with
  | none =>
      have henter : t.enter .dotted g = some (empty .dotted) := by
        rw [enter, hg]
      refine follow_cons_eq_some.mpr ⟨_, _, henter, hjoin _ rfl, ?_⟩
      rw [leave_single hdotted.single, plant_of_none hg]
      rfl
  | some y =>
      obtain ⟨members, rfl⟩ := hdotted y hg
      obtain ⟨form, members', heq, hk⟩ := hlacks _ hg
      cases heq
      have henter : t.enter .dotted g = some ⟨.dotted, members⟩ := by
        rw [enter, hg]
        rfl
      refine follow_cons_eq_some.mpr ⟨_, _, henter, hjoin _ hk, ?_⟩
      rw [leave_single hdotted.single, plant_of_table hg]

/-- So is it between the braces of the table. -/
theorem insert_braced {ms ms' : List (List String × Item)} {i : Item} (hform : u.form = .braced)
    (hi : i.tree = some y) (h : addItems u (ms ++ ms') = some u') (hk : u'.members k = none) :
    addItems u (ms ++ ([k], i) :: ms') = some (u'.graft k y) := by
  induction ms generalizing u with
  | nil =>
      have hadd : u.add [k] y = some (u.graft k y) := by
        refine add_single.mpr ⟨by simp [hform], addItems_keeps h hk, ?_⟩
        rw [graft, if_neg (by simp [hform])]
        rfl
      rw [List.nil_append, addItems, hi]
      simp only [Option.bind_eq_bind, Option.bind_some, hadd]
      exact addItems_graft h hk (by simp [hform])
  | cons m ms ih =>
      obtain ⟨z, hz, hrest⟩ := Option.bind_eq_some_iff.mp h
      obtain ⟨v, hadd, hlast⟩ := Option.bind_eq_some_iff.mp hrest
      rw [List.cons_append, addItems, hz]
      simp only [Option.bind_eq_bind, Option.bind_some, hadd]
      exact ih ((form_add hadd).trans hform) hlast

end Keeping

end Outline

/-! ## Clauses -/

/-- Is this a member? -/
def Clause.isMember : Clause → Bool
  | .member _ _ => true
  | .header _ _ => false

section Clauses

variable {s s' : Sketch} {c : Clause} {cs : List Clause} {g k : String} {x : Tree}

/-- The document with one more member in the table `g`. -/
def Sketch.plant (s : Sketch) (g k : String) (x : Tree) : Sketch :=
  { s with whole := s.whole.plant g k x }

/-- No header and no key by itself is going to make the table `g`. -/
structure Sketch.Loose (s : Sketch) (g : String) (cs : List Clause) : Prop where
  path : s.path ≠ [g]
  headers : ∀ array, .header array [g] ∉ cs
  members : s.path = [] → ∀ i, .member [g] i ∉ cs.takeWhile Clause.isMember

theorem clause_lacks (h : s.clause c = some s') (hlacks : s'.whole.Lacks g k) :
    s.whole.Lacks g k := by
  cases c with
  | header array path =>
      obtain ⟨name, -, hfollow, -⟩ := clause_header_eq_some.mp h
      exact Outline.follow_lacks hfollow hlacks (fun hhead => Outline.head_lacks hhead hlacks)
        fun _ _ => Outline.head_keeps
  | member path i =>
      obtain ⟨y, -, hfollow, -⟩ := clause_member_eq_some.mp h
      exact Outline.follow_lacks hfollow hlacks (fun hadd => Outline.add_lacks hadd hlacks)
        fun _ _ => Outline.add_keeps

theorem clause_firm {form : Form} (hfirm : s.whole.Firm form g) (h : s.clause c = some s') :
    s'.whole.Firm form g := by
  cases c with
  | header array path =>
      obtain ⟨name, -, hfollow, -⟩ := clause_header_eq_some.mp h
      exact Outline.follow_firm hfirm hfollow (fun hhead => Outline.head_firm hfirm hhead)
        fun _ _ => Outline.form_head
  | member path i =>
      obtain ⟨y, -, hfollow, -⟩ := clause_member_eq_some.mp h
      exact Outline.follow_firm hfirm hfollow (fun hadd => Outline.add_firm hfirm hadd)
        fun _ _ => Outline.form_add

theorem clause_loose (hloose : s.Loose g (c :: cs)) (h : s.clause c = some s') :
    s'.Loose g cs := by
  have hheaders : ∀ array, .header array [g] ∉ cs := fun array hmem =>
    hloose.headers array (.tail c hmem)
  cases c with
  | header array path =>
      obtain ⟨name, hname, -, hpath⟩ := clause_header_eq_some.mp h
      refine ⟨?_, hheaders, ?_⟩
      · rw [hpath]
        rintro rfl
        exact hloose.headers array List.mem_cons_self
      · rw [hpath]
        rintro rfl
        cases hname
  | member path i =>
      obtain ⟨y, -, -, hpath⟩ := clause_member_eq_some.mp h
      refine ⟨hpath ▸ hloose.path, hheaders, ?_⟩
      intro hnil j hmem
      exact hloose.members (hpath ▸ hnil) j (.tail _ hmem)

/-- A clause does the same with one more member in the table `g`. -/
theorem clause_plant (hg : (∃ form, s.whole.Firm form g) ∨ s.Loose g (c :: cs))
    (h : s.clause c = some s') (hlacks : s'.whole.Lacks g k) :
    (s.plant g k x).clause c = some (s'.plant g k x) := by
  cases c with
  | header array path =>
      obtain ⟨name, hname, hfollow, hpath⟩ := clause_header_eq_some.mp h
      refine clause_header_eq_some.mpr ⟨name, hname, ?_, hpath⟩
      -- Either the header stands beside the table, or its path leads through it.
      refine Outline.follow_plant (.inl rfl) hfollow hlacks ?_ ?_
      · intro hnil hhead
        refine Outline.head_plant ?_ hhead
        rintro rfl
        rcases hg with ⟨form, hfirm⟩ | hloose
        · exact hfirm.ne_of_head hhead rfl
        · have hpath := Outline.eq_singleton (Outline.getLast?_of_lastName hname) hnil
          exact hloose.headers array (hpath ▸ List.mem_cons_self)
      · intro rest u u' _ _ hinner hk
        exact Outline.follow_graft hinner hk fun _ hhead => Outline.head_graft hhead hk
  | member path i =>
      obtain ⟨y, hy, hfollow, hpath⟩ := clause_member_eq_some.mp h
      refine clause_member_eq_some.mpr ⟨y, hy, ?_, hpath⟩
      refine Outline.follow_plant (.inl rfl) hfollow hlacks ?_ ?_
      · intro hnil hadd
        refine Outline.add_plant hadd hlacks ?_
        rintro rfl
        rcases hg with ⟨form, hfirm⟩ | hloose
        · obtain ⟨members, hsome⟩ := hfirm.table
          obtain ⟨-, hnone, -⟩ := Outline.add_single.mp hadd
          cases hsome.symm.trans hnone
        · exact hloose.members hnil i List.mem_cons_self
      · intro rest u u' hrest henter hinner hk
        refine Outline.follow_graft hinner hk ?_
        rintro rfl hadd
        refine Outline.add_graft hadd hk ?_
        rcases hg with ⟨form, hfirm⟩ | hloose
        · rw [(hfirm.form_enter henter).2]
          nofun
        · exact absurd hrest hloose.path

/-! ## Clause after clause -/

theorem foldlM_append_eq_some {cs' : List Clause} :
    (cs ++ cs').foldlM Sketch.clause s = some s' ↔
      ∃ s₁, cs.foldlM Sketch.clause s = some s₁ ∧ cs'.foldlM Sketch.clause s₁ = some s' := by
  rw [List.foldlM_append]
  exact Option.bind_eq_some_iff

theorem foldlM_cons_eq_some :
    (c :: cs).foldlM Sketch.clause s = some s' ↔
      ∃ s₁, s.clause c = some s₁ ∧ cs.foldlM Sketch.clause s₁ = some s' := by
  rw [List.foldlM_cons]
  exact Option.bind_eq_some_iff

/-- What a document lacks in the end it has lacked all along. -/
theorem clauses_lack (h : cs.foldlM Sketch.clause s = some s') (hlacks : s'.whole.Lacks g k) :
    s.whole.Lacks g k := by
  induction cs generalizing s with
  | nil =>
      cases h
      exact hlacks
  | cons c cs ih =>
      obtain ⟨s₁, hfirst, hrest⟩ := foldlM_cons_eq_some.mp h
      exact clause_lacks hfirst (ih hrest)

/-- Clauses do the same with one more member in the table `g`. -/
theorem clauses_plant (hg : (∃ form, s.whole.Firm form g) ∨ s.Loose g cs)
    (h : cs.foldlM Sketch.clause s = some s') (hlacks : s'.whole.Lacks g k) :
    cs.foldlM Sketch.clause (s.plant g k x) = some (s'.plant g k x) := by
  induction cs generalizing s with
  | nil =>
      cases h
      rfl
  | cons c cs ih =>
      obtain ⟨s₁, hfirst, hrest⟩ := foldlM_cons_eq_some.mp h
      have hplant := clause_plant (x := x) hg hfirst (clauses_lack hrest hlacks)
      refine foldlM_cons_eq_some.mpr ⟨_, hplant, ih ?_ hrest⟩
      refine hg.imp ?_ (clause_loose · hfirst)
      rintro ⟨form, hfirm⟩
      exact ⟨form, clause_firm hfirm hfirst⟩

/-! ## The three notations -/

/-- The clauses with one more member `k` in the table `g`. -/
inductive Adds (g k : String) (i : Item) : List Clause → List Clause → Prop
  /-- Below the header of the table. -/
  | headed {before ms after : List Clause} : (∀ c ∈ ms, c.isMember = true) →
      Adds g k i (before ++ .header false [g] :: (ms ++ after))
        (before ++ .header false [g] :: (ms ++ .member [k] i :: after))
  /-- By a dotted key in front of all headers. -/
  | dotted {before after : List Clause} : (∀ c ∈ before, c.isMember = true) →
      (∀ array, .header array [g] ∉ before ++ after) →
      (∀ j, .member [g] j ∉ (before ++ after).takeWhile Clause.isMember) →
      Adds g k i (before ++ after) (before ++ .member [g, k] i :: after)
  /-- Between the braces of the table. -/
  | braced {before after : List Clause} {ms ms' : List (List String × Item)} :
      (∀ c ∈ before, c.isMember = true) →
      Adds g k i (before ++ .member [g] (.table (ms ++ ms')) :: after)
        (before ++ .member [g] (.table (ms ++ ([k], i) :: ms')) :: after)

/-- Members leave the path of the last header. -/
theorem members_path (hcs : ∀ c ∈ cs, c.isMember = true)
    (h : cs.foldlM Sketch.clause s = some s') : s'.path = s.path := by
  induction cs generalizing s with
  | nil =>
      cases h
      rfl
  | cons c cs ih =>
      obtain ⟨s₁, hfirst, hrest⟩ := foldlM_cons_eq_some.mp h
      have hpath := ih (fun d hd => hcs d (.tail c hd)) hrest
      cases c with
      | header array path => cases hcs _ List.mem_cons_self
      | member path i =>
          obtain ⟨y, -, -, hpath₁⟩ := clause_member_eq_some.mp hfirst
          exact hpath.trans hpath₁

theorem clauses_firm {form : Form} (hfirm : s.whole.Firm form g)
    (h : cs.foldlM Sketch.clause s = some s') : s'.whole.Firm form g := by
  induction cs generalizing s with
  | nil =>
      cases h
      exact hfirm
  | cons c cs ih =>
      obtain ⟨s₁, hfirst, hrest⟩ := foldlM_cons_eq_some.mp h
      exact ih (clause_firm hfirm hfirst) hrest

/-- In front of all headers only dotted keys make the table `g`, unless it is a
key by itself. -/
theorem members_dotted (hcs : ∀ c ∈ cs, c.isMember = true) (hg : ∀ i, .member [g] i ∉ cs)
    (hpath : s.path = []) (hdotted : s.whole.Dotted g)
    (h : cs.foldlM Sketch.clause s = some s') : s'.whole.Dotted g := by
  induction cs generalizing s with
  | nil =>
      cases h
      exact hdotted
  | cons c cs ih =>
      obtain ⟨s₁, hfirst, hrest⟩ := foldlM_cons_eq_some.mp h
      cases c with
      | header array path => cases hcs _ List.mem_cons_self
      | member path i =>
          obtain ⟨y, -, hadd, hpath₁⟩ := clause_member_eq_some.mp hfirst
          rw [hpath] at hadd hpath₁
          have hne : path ≠ [g] := by
            rintro rfl
            exact hg i List.mem_cons_self
          exact ih (fun d hd => hcs d (.tail _ hd)) (fun j hj => hg j (.tail _ hj)) hpath₁
            (Outline.add_dotted hdotted hne hadd) hrest

section Notations

variable {i : Item} {before after : List Clause}

/-- Below its header the table takes one more member, the last of those that
stand there. -/
theorem adds_headed {ms : List Clause} (hms : ∀ c ∈ ms, c.isMember = true)
    (hx : i.tree = some x)
    (h : (before ++ .header false [g] :: (ms ++ after)).foldlM Sketch.clause s = some s')
    (hlacks : s'.whole.Lacks g k) :
    (before ++ .header false [g] :: (ms ++ .member [k] i :: after)).foldlM Sketch.clause s =
      some (s'.plant g k x) := by
  obtain ⟨s₁, hbefore, h⟩ := foldlM_append_eq_some.mp h
  obtain ⟨s₂, hheader, h⟩ := foldlM_cons_eq_some.mp h
  obtain ⟨s₃, hmembers, hafter⟩ := foldlM_append_eq_some.mp h
  obtain ⟨name, hname, hhead, hpath₂⟩ := clause_header_eq_some.mp hheader
  cases hname
  have hpath := (members_path hms hmembers).trans hpath₂
  have hfirm := clauses_firm (Outline.firm_of_head hhead) hmembers
  have hmember : s₃.clause (.member [k] i) = some (s₃.plant g k x) := by
    refine clause_member_eq_some.mpr ⟨x, hx, ?_, rfl⟩
    rw [hpath]
    exact Outline.insert_headed hfirm (clauses_lack hafter hlacks) x
  have hplanted : after.foldlM Sketch.clause (s₃.plant g k x) = some (s'.plant g k x) :=
    clauses_plant (.inl ⟨.headed, hfirm⟩) hafter hlacks
  refine foldlM_append_eq_some.mpr ⟨s₁, hbefore, foldlM_cons_eq_some.mpr ⟨s₂, hheader, ?_⟩⟩
  exact foldlM_append_eq_some.mpr ⟨s₃, hmembers, foldlM_cons_eq_some.mpr ⟨_, hmember, hplanted⟩⟩

/-- In front of all headers it takes one by a dotted key, if dotted keys are
all that makes it. -/
theorem adds_dotted (hbefore : ∀ c ∈ before, c.isMember = true)
    (hheaders : ∀ array, .header array [g] ∉ before ++ after)
    (hkeys : ∀ j, .member [g] j ∉ (before ++ after).takeWhile Clause.isMember)
    (hx : i.tree = some x) (h : (before ++ after).foldlM Sketch.clause .start = some s')
    (hlacks : s'.whole.Lacks g k) :
    (before ++ .member [g, k] i :: after).foldlM Sketch.clause .start =
      some (s'.plant g k x) := by
  obtain ⟨s₁, hfirst, hafter⟩ := foldlM_append_eq_some.mp h
  have hpath : s₁.path = [] := members_path hbefore hfirst
  rw [List.takeWhile_append_of_pos hbefore] at hkeys
  have hdotted : s₁.whole.Dotted g := by
    refine members_dotted hbefore ?_ rfl ?_ hfirst
    · exact fun j hj => hkeys j (List.mem_append_left _ hj)
    · intro y hy
      cases hy
  have hmember : s₁.clause (.member [g, k] i) = some (s₁.plant g k x) := by
    refine clause_member_eq_some.mpr ⟨x, hx, ?_, rfl⟩
    rw [hpath]
    exact Outline.insert_dotted hdotted (clauses_lack hafter hlacks) x
  have hloose : s₁.Loose g after := by
    refine ⟨?_, ?_, ?_⟩
    · rw [hpath]
      nofun
    · exact fun array hmem => hheaders array (List.mem_append_right _ hmem)
    · exact fun _ j hmem => hkeys j (List.mem_append_right _ hmem)
  have hplanted : after.foldlM Sketch.clause (s₁.plant g k x) = some (s'.plant g k x) :=
    clauses_plant (.inr hloose) hafter hlacks
  exact foldlM_append_eq_some.mpr ⟨s₁, hfirst, foldlM_cons_eq_some.mpr ⟨_, hmember, hplanted⟩⟩

/-- Between its braces it takes one anywhere. -/
theorem adds_braced {ms ms' : List (List String × Item)}
    (hbefore : ∀ c ∈ before, c.isMember = true) (hx : i.tree = some x)
    (h : (before ++ .member [g] (.table (ms ++ ms')) :: after).foldlM Sketch.clause .start =
      some s') (hlacks : s'.whole.Lacks g k) :
    (before ++ .member [g] (.table (ms ++ ([k], i) :: ms')) :: after).foldlM Sketch.clause
      .start = some (s'.plant g k x) := by
  obtain ⟨s₁, hfirst, h⟩ := foldlM_append_eq_some.mp h
  obtain ⟨s₂, hmember, hafter⟩ := foldlM_cons_eq_some.mp h
  have hpath : s₁.path = [] := members_path hbefore hfirst
  obtain ⟨y, hy, hadd, hpath₂⟩ := clause_member_eq_some.mp hmember
  rw [hpath] at hadd
  obtain ⟨u, hu, heq⟩ := Option.bind_eq_some_iff.mp hy
  cases heq
  have hform : u.form = .braced := Outline.form_addItems hu
  obtain ⟨hdirect, hnone, hwhole⟩ := Outline.add_single.mp hadd
  have hg : s₂.whole.members g = some (.table .braced u.members) := by
    rw [hwhole, Outline.members_set]
  obtain ⟨form, members, heq, hk⟩ := clauses_lack hafter hlacks _ hg
  cases heq
  have hitem : (Item.table (ms ++ ([k], i) :: ms')).tree =
      some (.table .braced (u.graft k x).members) :=
    Option.bind_eq_some_iff.mpr ⟨_, Outline.insert_braced rfl hx hu hk, rfl⟩
  have hplant : s₁.clause (.member [g] (.table (ms ++ ([k], i) :: ms'))) =
      some (s₂.plant g k x) := by
    refine clause_member_eq_some.mpr ⟨_, hitem, ?_, hpath₂⟩
    rw [hpath]
    refine Outline.add_single.mpr ⟨hdirect, hnone, ?_⟩
    show s₂.whole.plant g k x = _
    rw [Outline.plant_of_table hg, hwhole, Outline.set_set]
    rfl
  have hplanted : after.foldlM Sketch.clause (s₂.plant g k x) = some (s'.plant g k x) :=
    clauses_plant (.inl ⟨.braced, .inr rfl, _, hg⟩) hafter hlacks
  exact foldlM_append_eq_some.mpr ⟨s₁, hfirst, foldlM_cons_eq_some.mpr ⟨_, hplant, hplanted⟩⟩

end Notations

/-- In each of the three notations the document has one more member. -/
theorem adds_clauses {i : Item} {cs ds : List Clause} (hadds : Adds g k i cs ds)
    (hx : i.tree = some x) (h : cs.foldlM Sketch.clause .start = some s')
    (hlacks : s'.whole.Lacks g k) :
    ds.foldlM Sketch.clause .start = some (s'.plant g k x) := by
  cases hadds with
  | headed hms => exact adds_headed hms hx h hlacks
  | dotted hbefore hheaders hkeys => exact adds_dotted hbefore hheaders hkeys hx h hlacks
  | braced hbefore => exact adds_braced hbefore hx h hlacks

end Clauses

end OrderDesk.Toml
