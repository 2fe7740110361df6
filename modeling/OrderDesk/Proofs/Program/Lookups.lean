/-
# `Proofs.Program.Lookups` — a run that looks customers up

Such a run writes one line for each id, and the lines are all that there is
to read its results from.  So two things are shown of them: a line can be
told from the next whatever ids were given and whatever the customer API
sent (`Json.Numbered.visible`), and each holds the customer that was found
for the id in its place.

The customer API may answer by what it was asked before, so the place of
a lookup among the others counts.  `Rounds` says what it is to look ids up
one after the other: each lookup finds the requests of those before it, and
adds its own.
-/
import OrderDesk.Proofs.Json.Lines
import OrderDesk.Proofs.Program.Endings
import OrderDesk.Proofs.RoundTrip

namespace OrderDesk

namespace Lookup

/-! ## One lookup after the other -/

/-- Ids are looked up after some requests, each id with the customer that is
found for it and the requests that this takes. -/
inductive Rounds (d : Directory (List Request)) :
    List Request → List String → List (Customer × List Request) → Prop
  | nil {made : List Request} : Rounds d made [] []
  | cons {made added : List Request} {id : String} {ids : List String}
      {rounds : List (Customer × List Request)} :
      (fetch d id made).state = made ++ added →
      Rounds d (made ++ added) ids rounds →
      Rounds d made (id :: ids) (((fetch d id made).value, added) :: rounds)

/-- The directory forgets no request. -/
def Remembers (d : Directory (List Request)) : Prop :=
  ∀ id made, made <+: (d.ask id made).state

section Rounds

variable {d : Directory (List Request)}

/-- A lookup leaves the directory as it is or as a question leaves it. -/
theorem fetch_state (d : Directory σ) (id : String) (s : σ) :
    (fetch d id s).state = s ∨ (fetch d id s).state = (d.ask id s).state := by
  rw [fetch, tryFetch]
  cases known? id with
  | some customer => exact .inl rfl
  | none =>
      refine .inr ?_
      cases (d.ask id s).value with
      | ok customer => rfl
      | error e => rfl

theorem Remembers.fetch (hd : Remembers d) (id : String) (made : List Request) :
    made <+: (fetch d id made).state := by
  rcases fetch_state d id made with h | h
  · rw [h]
  · rw [h]
    exact hd id made

/-- Looking all ids up is looking them up one after the other. -/
theorem Remembers.fetchAll (hd : Remembers d) (ids : List String) (made : List Request) :
    ∃ rounds, Rounds d made ids rounds ∧
      (fetchAll d ids made).value = rounds.map Prod.fst ∧
      (fetchAll d ids made).state = made ++ rounds.flatMap Prod.snd := by
  induction ids generalizing made with
  | nil => exact ⟨[], .nil, rfl, (List.append_nil _).symm⟩
  | cons id ids ih =>
      obtain ⟨added, hadded⟩ := hd.fetch id made
      obtain ⟨rounds, hrounds, hvalue, hstate⟩ := ih (made ++ added)
      rw [hadded] at hvalue hstate
      refine ⟨_, .cons hadded.symm hrounds, ?_, ?_⟩
      · exact congrArg (List.cons _) hvalue
      · refine hstate.trans ?_
        rw [← hadded, List.append_assoc]
        rfl

theorem Rounds.length_eq {made : List Request} {ids : List String}
    {rounds : List (Customer × List Request)} (h : Rounds d made ids rounds) :
    rounds.length = ids.length := by
  induction h with
  | nil => rfl
  | cons _ _ ih => exact congrArg Nat.succ ih

end Rounds

end Lookup

/-- The directory of any settings forgets no request. -/
theorem Settings.directory_remembers {x : Settings} {net : Network}
    {d : Directory (List Request)} (h : x.directory net = .ok d) : Lookup.Remembers d := by
  intro id made
  rcases directory_cases h with rfl | ⟨base, rfl⟩
  · exact List.prefix_refl _
  · obtain ⟨sent, last, -, -, hstate, -⟩ :=
      Remote.ask_requests (net x.timeout) (Remote.customerUrl base id) id made
    rw [hstate, List.append_assoc]
    exact List.prefix_append _ _

namespace Program

/-! ## The lines of a run -/

theorem toList_join_lines (customers : List Customer) :
    (String.join (customers.map fun c => c.text ++ "\n")).toList =
      (customers.map fun c => c.text.toList).flatMap (· ++ ['\n']) := by
  rw [String.toList_join, List.flatMap_map, List.flatMap_map]
  simp only [String.toList_append]
  rfl

theorem visible_text (c : Customer) : Json.Visible c.text.toList := by
  rw [Customer.text, String.toList_ofList]
  exact c.json_numbered.visible

/-- A run that looks ids up writes a line for each of them.  No line holds a
character that ends it, and each holds the customer that is found for its
id after those before it have been looked up; the requests of the lookups
are made in the same order. -/
theorem lookups_output {s : Surroundings} {words : List Word} {o : Options} {ids : List String}
    {x : Settings} (hread : CommandLine.read words = .ok ⟨o, .customer ids⟩)
    (hsettings : o.settings s.environment s.files = .ok x) (hvalid : x.validate = .ok ()) :
    ∃ d lines rounds, x.directory s.network = .ok d ∧
      (run s words).output.toList = lines.flatMap (· ++ ['\n']) ∧
      lines.length = ids.length ∧
      (∀ line ∈ lines, ∀ c ∈ line, 0x20 ≤ c.toNat) ∧
      Lookup.Rounds d [] ids rounds ∧
      List.Forall₂ (fun line round => Customer.decode (Utf8.encode line) = .ok round.1)
        lines rounds ∧
      (run s words).requests = rounds.flatMap Prod.snd := by
  obtain ⟨d, hd, hrun⟩ := run_performed hread (settings_eq_ok.mpr ⟨hsettings, hvalid⟩)
  obtain ⟨rounds, hrounds, hvalue, hstate⟩ :=
    (Settings.directory_remembers hd).fetchAll ids []
  refine ⟨d, rounds.map fun round => round.1.text.toList, rounds, hd, ?_, ?_, ?_, hrounds, ?_, ?_⟩
  · rw [hrun.output]
    show (String.join ((Lookup.fetchAll d ids []).value.map fun c => c.text ++ "\n")).toList = _
    rw [hvalue, toList_join_lines, List.map_map]
    rfl
  · rw [List.length_map, hrounds.length_eq]
  · intro line hline
    obtain ⟨round, -, rfl⟩ := List.mem_map.mp hline
    exact visible_text round.1
  · rw [List.forall₂_map_left_iff]
    exact List.forall₂_same.mpr fun round _ => round.1.decode_text
  · rw [hrun.requests]
    exact hstate

/-- A customer API that has moved, and nothing else to depend on. -/
def movedApi : Surroundings where
  environment _ := none
  files _ := .ok []
  network := Remote.moved

/-- The words that ask for two ids, one of them with a line break and one
fixed. -/
def brokenId : List Word :=
  ["--source=remote", "--base-url", "http://[::1]:8080/v1", "customer", "a\n\"b", "123"].map
    Utf8.ofString

theorem brokenId_output :
    ∃ lines : List (List Char),
      (run movedApi brokenId).output.toList = lines.flatMap (· ++ ['\n']) ∧
      lines.length = 2 ∧ ∀ line ∈ lines, ∀ c ∈ line, 0x20 ≤ c.toNat := by
  let o : Options := { layer := { baseUrl := some "http://[::1]:8080/v1", source := some .remote } }
  have hread : CommandLine.read brokenId = .ok ⟨o, .customer ["a\n\"b", "123"]⟩ := rfl
  have hsettings : o.settings movedApi.environment movedApi.files =
      .ok ⟨"http://[::1]:8080/v1", none, .remote⟩ := rfl
  obtain ⟨d, lines, rounds, -, houtput, hlength, hvisible, -⟩ := lookups_output hread hsettings rfl
  exact ⟨lines, houtput, hlength, hvisible⟩

end Program

end OrderDesk
