/-
# `Proofs.Settings.Notation` — settings among other content

A document gives settings beside whatever else it says.  Its clauses are told
as those of the rest with the settings put in one after the other, each in
one of the three notations and at any place where it can stand.

| | |
| :-- | :-- |
| `Setting`               | a setting and its value |
| `Tells rest l cs`       | the clauses of the rest with the settings of the layer |
| `Presents rest l d t`   | a text of such clauses, whose brackets nest `d` deep at most |
| `Tells.assemble`        | these settings are in the document, and no others |

The rest has to be a document by itself, and to say nothing about the
settings.  It may have their tables, with or without other members.
-/
import OrderDesk.Proofs.Settings.Placeholders
import OrderDesk.Proofs.Settings.Values
import OrderDesk.Proofs.Toml.Planting

namespace OrderDesk

open Toml

/-! ## One more value -/

namespace Toml.Outline

section Values

variable {t : Outline} {g h k n : String} {x : Tree}

theorem lacks_of_tabular (htable : t.Tabular g) (hvalue : t.value g k = none) : t.Lacks g k := by
  intro y hy
  obtain ⟨form, members, rfl⟩ := htable y hy
  rw [value, hy] at hvalue
  exact ⟨form, members, rfl, hvalue⟩

theorem tabular_plant (htable : t.Tabular h) : (t.plant g k x).Tabular h := by
  intro y hy
  rcases t.plant_eq_set_or g k x with hplant | ⟨z, hplant⟩
  · rw [hplant] at hy
    exact htable y hy
  · by_cases hname : h = g
    · subst hname
      cases hh : t.members h with
      | none =>
          rw [plant_of_none hh, members_set] at hy
          cases hy
          exact ⟨_, _, rfl⟩
      | some w =>
          obtain ⟨form, members, rfl⟩ := htable w hh
          rw [plant_of_table hh, members_set] at hy
          cases hy
          exact ⟨_, _, rfl⟩
    · rw [members_plant_of_ne hname] at hy
      exact htable y hy

/-- One more member is there afterwards. -/
theorem value_plant (htable : t.Tabular g) : (t.plant g k x).value g k = some x := by
  cases hg : t.members g with
  | none =>
      rw [plant_of_none hg, value, members_set]
      exact members_set _ k x
  | some y =>
      obtain ⟨form, members, rfl⟩ := htable y hg
      rw [plant_of_table hg, value, members_set]
      exact members_set _ k x

/-- Every other value is as it was. -/
theorem value_plant_of_ne (htable : t.Tabular g) (hne : h ≠ g ∨ n ≠ k) :
    (t.plant g k x).value h n = t.value h n := by
  by_cases hname : h = g
  · subst hname
    have hn : n ≠ k := hne.resolve_left (· rfl)
    cases hg : t.members h with
    | none =>
        rw [plant_of_none hg, value, value, members_set, hg]
        exact members_set_of_ne hn _ x
    | some y =>
        obtain ⟨form, members, rfl⟩ := htable y hg
        rw [plant_of_table hg, value, value, members_set, hg]
        exact members_set_of_ne hn _ x
  · rw [value, value, members_plant_of_ne hname]

end Values

end Toml.Outline

/-- No number is too large with one more member either. -/
theorem Toml.Adds.fits {g k : String} {i : Item} {cs ds : List Clause} (h : Adds g k i cs ds)
    (hi : i.Fits) (hcs : ∀ c ∈ cs, c.Fits) : ∀ c ∈ ds, c.Fits := by
  cases h with
  | headed =>
      simp only [List.forall_mem_append, List.forall_mem_cons] at hcs ⊢
      obtain ⟨hbefore, hheader, hms, hafter⟩ := hcs
      exact ⟨hbefore, hheader, hms, .member hi, hafter⟩
  | dotted =>
      simp only [List.forall_mem_append, List.forall_mem_cons] at hcs ⊢
      obtain ⟨hbefore, hafter⟩ := hcs
      exact ⟨hbefore, .member hi, hafter⟩
  | braced =>
      simp only [List.forall_mem_append, List.forall_mem_cons] at hcs ⊢
      obtain ⟨hbefore, hmember, hafter⟩ := hcs
      refine ⟨hbefore, .member (.table ?_), hafter⟩
      cases hmember with
      | member hitem =>
          cases hitem with
          | table hms =>
              simp only [List.forall_mem_append, List.forall_mem_cons] at hms ⊢
              exact ⟨hms.1, hi, hms.2⟩

/-! ## Settings -/

namespace Settings

/-- A setting and its value. -/
inductive Setting where
  | baseUrl (url : String)
  | timeout (seconds : Nat)
  | source (s : Source)

namespace Setting

/-- The table that the setting belongs to. -/
def group : Setting → String
  | .baseUrl _ => "customer_api"
  | .timeout _ => "customer_api"
  | .source _ => "lookup"

/-- Its name there. -/
def name : Setting → String
  | .baseUrl _ => "base_url"
  | .timeout _ => "timeout_seconds"
  | .source _ => "source"

/-- Its value in a document. -/
def scalar : Setting → Scalar
  | .baseUrl url => .text url.toList
  | .timeout seconds => .integer seconds
  | .source s => .text s.name.toList

/-- The layer has no such setting. -/
def Free (l : Layer) : Setting → Prop
  | .baseUrl _ => l.baseUrl = none
  | .timeout _ => l.timeout = none
  | .source _ => l.source = none

/-- The layer with the setting. -/
def put (l : Layer) : Setting → Layer
  | .baseUrl url => { l with baseUrl := some url }
  | .timeout seconds => { l with timeout := some seconds }
  | .source s => { l with source := some s }

end Setting

/-- The clauses say what `rest` says and give the settings of the layer, each in
one of the three notations. -/
inductive Tells (rest : List Clause) : Layer → List Clause → Prop
  | rest : Tells rest {} rest
  | setting {l : Layer} {cs ds : List Clause} (s : Setting) : Tells rest l cs → s.Free l →
      Adds s.group s.name (.scalar s.scalar) cs ds → Tells rest (s.put l) ds

section Telling

variable {t : Outline} {l : Layer} {s : Setting}

theorem Holds.tabular (h : Holds t l) (s : Setting) : t.Tabular s.group := by
  cases s with
  | baseUrl url => exact h.api
  | timeout seconds => exact h.api
  | source s => exact h.lookup

/-- A setting that is not given is not in the document. -/
theorem Holds.lacks (h : Holds t l) (hfree : s.Free l) : t.Lacks s.group s.name := by
  refine Outline.lacks_of_tabular (h.tabular s) ?_
  cases s with
  | baseUrl url =>
      have hnone : l.baseUrl = none := hfree
      exact h.baseUrl.trans (by rw [hnone]; rfl)
  | timeout seconds =>
      have hnone : l.timeout = none := hfree
      exact h.timeout.trans (by rw [hnone]; rfl)
  | source s =>
      have hnone : l.source = none := hfree
      exact h.source.trans (by rw [hnone]; rfl)

/-- One more member in the document is one more setting. -/
theorem Holds.plant (h : Holds t l) (s : Setting) :
    Holds (t.plant s.group s.name (.scalar s.scalar)) (s.put l) := by
  have htable := h.tabular s
  have hother := @Outline.value_plant_of_ne t s.group
  have hown := Outline.value_plant (k := s.name) (x := .scalar s.scalar) htable
  have hgroups : "customer_api" ≠ "lookup" := by decide
  have hnames : "base_url" ≠ "timeout_seconds" := by decide
  refine ⟨Outline.tabular_plant h.api, Outline.tabular_plant h.lookup, ?_, ?_, ?_⟩
  · cases s with
    | baseUrl url => exact hown
    | timeout seconds => exact (hother htable (.inr hnames)).trans h.baseUrl
    | source s => exact (hother htable (.inl hgroups)).trans h.baseUrl
  · cases s with
    | baseUrl url => exact (hother htable (.inr hnames.symm)).trans h.timeout
    | timeout seconds => exact hown
    | source s => exact (hother htable (.inl hgroups)).trans h.timeout
  · cases s with
    | baseUrl url => exact (hother htable (.inl hgroups.symm)).trans h.source
    | timeout seconds => exact (hother htable (.inl hgroups.symm)).trans h.source
    | source s => exact hown

/-- The settings that are told are in the document. -/
theorem Tells.assemble {rest told : List Clause} {doc : Outline} (htells : Tells rest l told)
    (hrest : assemble rest = some doc) (hdoc : Holds doc {}) :
    ∃ doc', assemble told = some doc' ∧ Holds doc' l := by
  induction htells with
  | rest => exact ⟨doc, hrest, hdoc⟩
  | setting s _ hfree hadds ih =>
      obtain ⟨doc', hdoc', hholds⟩ := ih
      obtain ⟨s', hs', heq⟩ := Option.bind_eq_some_iff.mp hdoc'
      cases heq
      refine ⟨s'.whole.plant s.group s.name (.scalar s.scalar), ?_, hholds.plant s⟩
      exact Option.bind_eq_some_iff.mpr ⟨_, adds_clauses hadds rfl hs' (hholds.lacks hfree), rfl⟩

end Telling

/-! ## The agreement -/

/-- No number that is told is too large, if none beside the settings is. -/
theorem Tells.fits {rest told : List Clause} {l : Layer} (h : Tells rest l told)
    (hrest : ∀ c ∈ rest, c.Fits)
    (hrange : ∀ seconds, l.timeout = some seconds → seconds < 0x10000000000000000) :
    ∀ c ∈ told, c.Fits := by
  induction h with
  | rest => exact hrest
  | @setting l cs ds s _ hfree hadds ih =>
      cases s with
      | baseUrl url => exact hadds.fits (.scalar trivial) (ih hrange)
      | source s => exact hadds.fits (.scalar trivial) (ih hrange)
      | timeout seconds =>
          have hnone : l.timeout = none := hfree
          have hlt : seconds < 0x10000000000000000 := hrange seconds rfl
          have hscalar : (Scalar.integer seconds).Fits :=
            show (_ : Int) ≤ seconds ∧ (seconds : Int) < _ by omega
          refine hadds.fits (.scalar hscalar) (ih ?_)
          intro seconds' hsome
          cases hnone.symm.trans hsome

/-- The text is a document that says what `rest` says, which is nothing about
the settings, and gives the settings of the layer; its brackets nest at most
`d` deep. -/
inductive Presents (rest : List Clause) (l : Layer) (d : Nat) (text : List Char) : Prop
  | mk {doc : Outline} {told : List Clause} : assemble rest = some doc → Holds doc {} →
      Tells rest l told → WrittenDocument d told text → Presents rest l d text

end Settings

end OrderDesk
