/-
# `Proofs.Program.Endings` — how a run ends

A run has all its failures behind it when the first customer is looked up.
Until then three things may stop it, and none of them reaches the network.

| the words            | the settings           | exit status |
| :--                  | :--                    | :--         |
| ask for help         |                        | 0           |
| are not understood   |                        | 2           |
| are understood       | cannot be had or used  | 1           |
| are understood       | pass the checks        | 0           |

There is a fourth place where a run could stop, the connection to the
customer API.  It is never reached: the address has been checked with the
settings, and connecting reads the same text in the same way
(`Settings.directory_of_validate`).
-/
import OrderDesk.Program
import OrderDesk.Proofs.CommandLine.Wishes
import OrderDesk.Proofs.Settings.Agreement

namespace OrderDesk

/-! ## Settings that pass the checks -/

namespace Settings

/-- Settings that pass the checks name a directory. -/
theorem directory_of_validate {s : Settings} (h : s.validate = .ok ()) (net : Network) :
    ∃ d, s.directory net = .ok d :=
  directory_ok_iff.mpr (validate_eq_ok.mp h).1

end Settings

namespace Program

/-! ## The settings of a run -/

section Settings

variable {s : Surroundings} {o : Options} {x : Settings} {e : LookupError}

theorem settings_of_unread (h : o.settings s.environment s.files = .error e) :
    settings s o = .error e := by
  rw [settings, h]
  rfl

theorem settings_of_read (h : o.settings s.environment s.files = .ok x) :
    settings s o = x.validate.map fun _ => x := by
  rw [settings, h]
  show (x.validate >>= fun _ => pure x) = _
  cases x.validate with
  | error e => rfl
  | ok u => rfl

/-- The settings of a run are those of its options, and they pass the
checks. -/
theorem settings_eq_ok :
    settings s o = .ok x ↔ o.settings s.environment s.files = .ok x ∧ x.validate = .ok () := by
  cases hread : o.settings s.environment s.files with
  | error e => simp [settings_of_unread hread]
  | ok y =>
      rw [settings_of_read hread]
      constructor
      · intro h
        cases hy : y.validate with
        | error e =>
            rw [hy] at h
            cases h
        | ok u =>
            rw [hy] at h
            cases h
            exact ⟨rfl, hy⟩
      · rintro ⟨hxy, hx⟩
        cases hxy
        rw [hx]
        rfl

end Settings

/-! ## Whole runs -/

section Run

variable {s : Surroundings} {words : List Word} {c : CommandLine}

/-- The run has stopped for its settings, before anything was done. -/
structure Unusable (o : Outcome) : Prop where
  exit : o.exit = 1
  output : o.output = ""
  requests : o.requests = []

/-- The run has done what it was asked to do with the help of a directory.
All it has to say besides is records. -/
structure Performed (o : Outcome) (d : Directory (List Request)) (c : Command) : Prop where
  exit : o.exit = 0
  output : o.output = (perform d [] c).value.1
  requests : o.requests = (perform d [] c).state
  notices : ∀ n ∈ o.notices, ∃ r, n = .record r

theorem run_unusable {e : LookupError} (hread : CommandLine.read words = .ok c)
    (h : settings s c.options = .error e) : Unusable (run s words) := by
  rw [run, hread]
  simp only [carryOut, unfiltered, h]
  exact ⟨rfl, rfl, rfl⟩

/-- A run whose settings pass the checks has a directory and does what it
was asked to do. -/
theorem run_performed {x : Settings} (hread : CommandLine.read words = .ok c)
    (h : settings s c.options = .ok x) :
    ∃ d, x.directory s.network = .ok d ∧ Performed (run s words) d c.command := by
  obtain ⟨-, hvalidate⟩ := settings_eq_ok.mp h
  obtain ⟨d, hd⟩ := Settings.directory_of_validate hvalidate s.network
  refine ⟨d, hd, ?_⟩
  rw [run, hread]
  simp only [carryOut, unfiltered, h, hd]
  refine ⟨rfl, rfl, rfl, ?_⟩
  intro n hn
  have hnotice := (List.mem_filter.mp hn).1
  rw [List.mem_append, List.mem_append, List.mem_singleton] at hnotice
  rcases hnotice with (hopening | hconfigured) | hperformed
  · obtain ⟨r, -, hr⟩ := List.mem_map.mp hopening
    exact ⟨r, hr.symm⟩
  · exact ⟨_, hconfigured⟩
  · obtain ⟨r, -, hr⟩ := List.mem_map.mp hperformed
    exact ⟨r, hr.symm⟩

/-- The run has stopped for its words, before anything was done: it counts as
a success only if one of them asks for help. -/
structure Refused (o : Outcome) (words : List Word) (r : CommandLine.Refusal) : Prop where
  exit : o.exit = if r.isHelp then 0 else 2
  asked : r.isHelp = true → ∃ w ∈ words, CommandLine.Wishes w
  requests : o.requests = []

/-- How a run ends: words that are not understood are refused, unusable
settings stop the run, and nothing else does. -/
theorem run_ends (s : Surroundings) (words : List Word) :
    match CommandLine.read words with
    | .error r => Refused (run s words) words r
    | .ok c =>
      match c.options.settings s.environment s.files with
      | .error _ => Unusable (run s words)
      | .ok x =>
        match x.validate with
        | .error _ => Unusable (run s words)
        | .ok () =>
          ∃ d, x.directory s.network = .ok d ∧ Performed (run s words) d c.command := by
  cases hread : CommandLine.read words with
  | error r =>
      rw [run, hread]
      exact ⟨rfl, CommandLine.wish_of_help words r hread, rfl⟩
  | ok c =>
      cases hsettings : c.options.settings s.environment s.files with
      | error e =>
          simp only [hsettings]
          exact run_unusable hread (settings_of_unread hsettings)
      | ok x =>
          simp only [hsettings]
          cases hvalidate : x.validate with
          | error e =>
              have hrefused := settings_of_read hsettings
              rw [hvalidate] at hrefused
              exact run_unusable hread hrefused
          | ok u => exact run_performed hread (settings_eq_ok.mpr ⟨hsettings, hvalidate⟩)

end Run

end Program

end OrderDesk
