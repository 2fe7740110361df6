/-
# `Proofs.CommandLine.Values` — values arrive as they were written

Behind `--` every word is an id, whatever it looks like.  An order with its
three options in the form `--name=value` has exactly these values, in any
order of the options; it is refused only because of the text of the amount,
and then for the reason that the reader of amounts gives.
-/
import Mathlib.Data.List.Permutation
import OrderDesk.Proofs.CommandLine.Sayings

namespace OrderDesk

namespace CommandLine

open Utf8 (ofText ofString)

/-! ## Ids behind the separator -/

theorem all_separator (ids : List String) :
    Reading.all .customer (ofString "--" :: ids.map ofString) = .ok { ids := ids } := by
  obtain ⟨r', hwords, hr'⟩ := words_closing (r := {}) (d := {}) rfl (.separator ids) (.inl rfl)
  rw [Reading.all, hwords]
  exact hr'

theorem read_separator {ids : List String} (h : ids ≠ []) :
    read (ofString "customer" :: ofString "--" :: ids.map ofString) =
      .ok ⟨{}, .customer ids⟩ := by
  have hwords := words_command_name (r := {}) (d := {}) (t := .customer) rfl (by decide)
    (ofString "--" :: ids.map ofString)
  rw [Topic.name] at hwords
  rw [read, hwords]
  simp only [commandOf, all_separator, bind, Except.bind, Draft.customer, if_neg h]
  rfl

/-! ## The options of an order -/

/-- The word of an option whose value is text. -/
theorem said_ofString (v : Valued) (text : String) (opening : String)
    (h : opening = "--" ++ v.name ++ "=") :
    ofString (opening ++ text) = v.said (ofString text) := by
  rw [h]
  simp [Valued.said, ofString, ofText]

/-- A run of options with their values goes into the draft one by one. -/
theorem all_said (p : Place) {said : List (Valued × Word)}
    (hp : ∀ s ∈ said, .valued s.1 ∈ p.switches) :
    Reading.all p (said.map fun s => s.1.said s.2) =
      said.foldlM (fun d s => d.put s.1 s.2) ({} : Draft) := by
  have hrun : ∀ d : Draft, (Reading.words ⟨d, .nothing⟩ p (said.map fun s => s.1.said s.2) >>=
      fun read => read.1.settle) = said.foldlM (fun d s => d.put s.1 s.2) d := by
    induction said with
    | nil =>
        intro d
        rfl
    | cons s said ih =>
        intro d
        rw [List.map_cons, words_said rfl (hp s List.mem_cons_self), List.foldlM_cons, bind_assoc]
        refine bind_congr ?_
        intro d'
        exact ih (fun s' hs' => hp s' (List.mem_cons_of_mem s hs')) d'
  exact hrun {}

/-- The three options of an order in any order: each value goes into its
place, and only the amount is looked at. -/
theorem put_order {a b t : String} {said : List (Valued × Word)}
    (h : said.Perm [(.id, ofString a), (.customerId, ofString b), (.amount, ofString t)]) :
    said.foldlM (fun d s => d.put s.1 s.2) ({} : Draft) =
      (amountOf (ofString t)).map fun x =>
        { id := some a, customerId := some b, amount := some x } := by
  have hsix := List.mem_permutations'.mpr h
  simp only [List.permutations', List.permutations'Aux, List.flatMap_cons, List.flatMap_nil,
    List.map_cons, List.map_nil, List.append_nil, List.cons_append, List.nil_append,
    List.mem_cons, List.not_mem_nil, or_false] at hsix
  cases hx : amountOf (ofString t) with
  | error e =>
      rcases hsix with rfl | rfl | rfl | rfl | rfl | rfl <;>
        simp [Draft.put, Draft.has, Draft.set, textOf_ofString, hx, bind, Except.bind, Except.map]
  | ok x =>
      rcases hsix with rfl | rfl | rfl | rfl | rfl | rfl <;>
        simp [Draft.put, Draft.has, Draft.set, textOf_ofString, hx, bind, Except.bind, Except.map,
          pure, Except.pure]

theorem amountOf_ofString (t : String) :
    amountOf (ofString t) =
      match Binary64.parse t.toList with
      | .ok x => .ok x
      | .error why => .error (.wrongAmount t why) := by
  rw [amountOf, textOf_ofString]
  simp only [bind, Except.bind]
  cases Binary64.parse t.toList <;> rfl

/-- The words of an order in any order are an order, or the amount is wrong. -/
theorem read_order {a b t : String} {ws : List Word}
    (h : ws.Perm [ofString ("--id=" ++ a), ofString ("--customer-id=" ++ b),
      ofString ("--amount=" ++ t)]) :
    read (ofString "order" :: ws) =
      (amountOf (ofString t)).map fun x => ⟨{}, .order a b x⟩ := by
  -- the words in their order are those of the options in some order
  rw [said_ofString .id a "--id=" rfl, said_ofString .customerId b "--customer-id=" rfl,
    said_ofString .amount t "--amount=" rfl] at h
  obtain ⟨said, rfl, hsaid⟩ := (congrFun₂ (List.eq_map_comp_perm fun s : Valued × Word =>
    s.1.said s.2) ws [(.id, ofString a), (.customerId, ofString b), (.amount, ofString t)]).mpr h
  have hplaces : ∀ s ∈ said, .valued s.1 ∈ Place.order.switches := by
    intro s hs
    have hs' := hsaid.mem_iff.mp hs
    simp only [List.mem_cons, List.not_mem_nil, or_false] at hs'
    rcases hs' with rfl | rfl | rfl <;> simp [Place.switches]
  have hcommand := words_command_name (r := {}) (d := {}) (t := .order) rfl (by decide)
    (said.map fun s => s.1.said s.2)
  rw [Topic.name] at hcommand
  rw [read, hcommand]
  simp only [commandOf, all_said .order hplaces, put_order hsaid, bind, Except.bind]
  cases amountOf (ofString t) <;> rfl

/-- A command line is the values that were written in it. -/
theorem values_untouched :
    (∀ ids : List String, ids ≠ [] →
      read (ofString "customer" :: ofString "--" :: ids.map ofString) = .ok ⟨{}, .customer ids⟩) ∧
    ∀ (a b t : String) (ws : List Word),
      ws.Perm [ofString ("--id=" ++ a), ofString ("--customer-id=" ++ b),
        ofString ("--amount=" ++ t)] →
      match Binary64.parse t.toList with
      | .ok x => read (ofString "order" :: ws) = .ok ⟨{}, .order a b x⟩
      | .error why => read (ofString "order" :: ws) = .error (.wrongAmount t why) := by
  refine ⟨fun ids => read_separator, ?_⟩
  intro a b t ws hws
  have hread := read_order hws
  rw [amountOf_ofString] at hread
  cases hparse : Binary64.parse t.toList with
  | ok x =>
      rw [hparse] at hread
      exact hread
  | error why =>
      rw [hparse] at hread
      exact hread

/-- Ids that look like anything but ids, and values that look like options;
the amount comes first. -/
theorem disguised_untouched :
    ["--", "", "--verbose", "order"] ≠ [] ∧
    read (ofString "customer" :: ofString "--" ::
      ["--", "", "--verbose", "order"].map ofString) =
        .ok ⟨{}, .customer ["--", "", "--verbose", "order"]⟩ ∧
    [ofString "--amount=-inf", ofString "--id=--id=", ofString "--customer-id="].Perm
      [ofString "--id=--id=", ofString "--customer-id=", ofString "--amount=-inf"] ∧
    read [ofString "order", ofString "--amount=-inf", ofString "--id=--id=",
      ofString "--customer-id="] = .ok ⟨{}, .order "--id=" "" (.infinite true)⟩ := by
  have hids : ["--", "", "--verbose", "order"] ≠ [] := List.cons_ne_nil _ _
  have hperm : [ofString "--amount=-inf", ofString "--id=--id=", ofString "--customer-id="].Perm
      [ofString "--id=--id=", ofString "--customer-id=", ofString "--amount=-inf"] :=
    @List.perm_append_comm _ [ofString "--amount=-inf"] _
  have horder := values_untouched.2 "--id=" "" "-inf" _ hperm
  have hparse : Binary64.parse "-inf".toList = .ok (.infinite true) := by decide
  rw [hparse] at horder
  exact ⟨hids, values_untouched.1 _ hids, hperm, horder⟩

end CommandLine

end OrderDesk
