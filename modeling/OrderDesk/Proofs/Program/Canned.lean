/-
# `Proofs.Program.Canned` — runs with the built-in directory

The built-in directory always answers, and its answer to an id depends on
nothing but the id.  So a run with it has no choice: its command alone
says what it writes (`written`), and no request is made.  The address of
the customer API is not even looked at, hence it may be any text; only a
timeout of zero could still stop the run.

What is on the output is not only said to be the same, but read: `Shows` asks
of a text that lines or a document can be made out in it, and what customers
they decode to, whoever wrote them.

| | |
| :-- | :-- |
| `written f c`      | what the command `c` writes if `f` answers every id |
| `Shows c text`     | the built-in records for `c` are read in the text |
| `Settled o c`      | the run shows these, and nobody was asked |
| `run_canned`       | a run with the built-in directory is settled |

Fixed customers stand in two places, in front of every directory and in
the built-in one.  As they are the same in both, it makes no difference
which of the two is looked at (`Lookup.fetch_canned`).
-/
import OrderDesk.Proofs.Program.Orders

namespace OrderDesk

namespace Lookup

/-- An id has its built-in record, whichever place it is found in. -/
theorem fetch_canned (id : String) (state : σ) :
    (fetch cannedDirectory id state).value = canned id ∧
      (fetch cannedDirectory id state).state = state := by
  rw [fetch, tryFetch, canned]
  cases hknown : known? id with
  | some customer => exact ⟨rfl, rfl⟩
  | none =>
      refine ⟨?_, rfl⟩
      show canned id = _
      rw [canned, hknown]

theorem fetchAll_canned (ids : List String) (state : σ) :
    (fetchAll cannedDirectory ids state).value = ids.map canned ∧
      (fetchAll cannedDirectory ids state).state = state := by
  induction ids generalizing state with
  | nil => exact ⟨rfl, rfl⟩
  | cons id ids ih =>
      obtain ⟨hvalue, hstate⟩ := fetch_canned id state
      obtain ⟨hvalues, hlast⟩ := ih (fetch cannedDirectory id state).state
      constructor
      · show _ :: _ = _
        rw [hvalue, hvalues]
        rfl
      · exact hlast.trans hstate

/-- A built-in record is a fixed one or that of an unknown customer. -/
theorem canned_cases (id : String) : known? id = some (canned id) ∨ canned id = .unknown id := by
  rw [canned]
  cases known? id with
  | some customer => exact .inl rfl
  | none => exact .inr rfl

/-- A placeholder for a failure is known by its name. -/
theorem ne_fallback {customer : Customer} (h : customer.name ≠ "Fallback User") (other : String) :
    customer ≠ .fallback other := by
  rintro rfl
  exact h rfl

theorem known?_eq_some {id : String} {customer : Customer} (h : known? id = some customer) :
    customer.id = id ∧ ∀ other, customer ≠ .fallback other := by
  rw [known?] at h
  split at h
  · next hid =>
      cases h
      exact ⟨hid.symm, ne_fallback (by decide)⟩
  split at h
  · next hid =>
      cases h
      exact ⟨hid.symm, ne_fallback (by decide)⟩
  · cases h

/-- A built-in record carries the id that was asked for, and is no
placeholder for a failure. -/
theorem canned_spec (id : String) :
    (canned id).id = id ∧ ∀ other, canned id ≠ .fallback other := by
  rcases canned_cases id with hknown | hunknown
  · exact known?_eq_some hknown
  · have hname : (Customer.unknown id).name = "Unknown User" := rfl
    rw [hunknown]
    exact ⟨rfl, ne_fallback (hname ▸ by decide)⟩

end Lookup

namespace Program

open Json (Document Members Value)

/-- What a command writes if every id is answered by this. -/
def written (answer : String → Customer) : Command → String
  | .customer ids => String.join (ids.map fun id => (answer id).text ++ "\n")
  | .order id customerId amount =>
    String.ofList (report (Order.new id customerId amount) (answer customerId)).pretty ++ "\n"

theorem perform_canned (c : Command) (state : σ) :
    (perform Lookup.cannedDirectory state c).value.1 = written Lookup.canned c ∧
      (perform Lookup.cannedDirectory state c).state = state := by
  cases c with
  | customer ids =>
      obtain ⟨hvalue, hstate⟩ := Lookup.fetchAll_canned ids state
      refine ⟨?_, hstate⟩
      show String.join ((Lookup.fetchAll _ ids state).value.map _) = String.join (ids.map _)
      rw [hvalue, List.map_map]
      rfl
  | order id customerId amount =>
      obtain ⟨hvalue, hstate⟩ := Lookup.fetch_canned customerId state
      refine ⟨?_, hstate⟩
      show String.ofList (report _ (Lookup.fetch _ customerId state).value).pretty ++ "\n" = _
      rw [hvalue]
      rfl

/-- What is read of an output: a line for each id, which holds its built-in record,
or one document with the built-in record of the customer beside the order. -/
inductive Shows : Command → List Char → Prop
  | customer {ids : List String} {lines : List (List Char)} :
      List.Forall₂ (fun id line => (∀ c ∈ line, 0x20 ≤ c.toNat) ∧
        Customer.decode (Utf8.encode line) = .ok (Lookup.canned id)) ids lines →
      Shows (.customer ids) (lines.flatMap (· ++ ['\n']))
  | order {id customerId : String} {amount : Binary64} {customer : Value} {members : Members}
      {text inner : List Char} :
      Document (.object [("customer".toList, customer), ("order".toList, .object members)]) text →
      Document customer inner →
      (∀ inner, Document customer inner →
        Customer.decode (Utf8.encode inner) = .ok (Lookup.canned customerId)) →
      members.Perm (Order.new id customerId amount).members →
      Shows (.order id customerId amount) (text ++ ['\n'])

/-- What is written with the built-in answers is read as these. -/
theorem shows_written (c : Command) : Shows c (written Lookup.canned c).toList := by
  cases c with
  | customer ids =>
      have hlines : (written Lookup.canned (.customer ids)).toList =
          (ids.map fun id => (Lookup.canned id).text.toList).flatMap (· ++ ['\n']) := by
        have hjoin := toList_join_lines (ids.map Lookup.canned)
        rwa [List.map_map, List.map_map] at hjoin
      rw [hlines]
      refine .customer ?_
      rw [List.forall₂_map_right_iff]
      refine List.forall₂_same.mpr ?_
      intro id _
      exact ⟨visible_text (Lookup.canned id), (Lookup.canned id).decode_text⟩
  | order id customerId amount =>
      have hreport : (written Lookup.canned (.order id customerId amount)).toList =
          (report (Order.new id customerId amount) (Lookup.canned customerId)).pretty ++
            ['\n'] := by
        show (String.ofList _ ++ "\n").toList = _
        rw [String.toList_append, String.toList_ofList]
        rfl
      have hnumbered := numbered_report (Order.new id customerId amount) (Lookup.canned customerId)
      rw [hreport]
      rw [report_eq] at hnumbered ⊢
      refine .order hnumbered.pretty.document
        (numbered_byName (Lookup.canned customerId).json_numbered).compact.document ?_
        (byName_perm _)
      intro inner hinner
      exact decode_customer (Lookup.canned customerId) hinner

/-- The run has done its work without asking anyone: there is an output, and it
shows the built-in records. -/
structure Settled (o : Outcome) (c : Command) : Prop where
  exit : o.exit = 0
  requests : o.requests = []
  output : Shows c o.output.toList

section Run

variable {s s' : Surroundings} {words words' : List Word} {c c' : CommandLine} {x x' : Settings}

theorem run_canned (hread : CommandLine.read words = .ok c)
    (hsettings : c.options.settings s.environment s.files = .ok x) (hsource : x.source = .canned)
    (htimeout : ∀ seconds, x.timeout = some seconds → 1 ≤ seconds) :
    Settled (run s words) c.command ∧ (run s words).output = written Lookup.canned c.command := by
  have hvalid : x.validate = .ok () := Settings.validate_eq_ok.mpr ⟨.inl hsource, htimeout⟩
  obtain ⟨d, hd, hrun⟩ := run_performed hread (settings_eq_ok.mpr ⟨hsettings, hvalid⟩)
  cases (Settings.directory_canned hsource).symm.trans hd
  obtain ⟨hwritten, hrequests⟩ := perform_canned c.command ([] : List Request)
  have houtput := hrun.output.trans hwritten
  exact ⟨⟨hrun.exit, hrun.requests.trans hrequests, houtput ▸ shows_written c.command⟩, houtput⟩

/-- Two runs with the same command and the built-in directory end alike,
whatever else they were given: with success, without a request, and with the
same output, on which the built-in record can be read for each id that was
asked for.  That record carries the id, and is no placeholder for a failure. -/
theorem canned_runs_agree (hread : CommandLine.read words = .ok c)
    (hread' : CommandLine.read words' = .ok c') (hcommand : c.command = c'.command)
    (hsettings : c.options.settings s.environment s.files = .ok x)
    (hsettings' : c'.options.settings s'.environment s'.files = .ok x')
    (hsource : x.source = .canned) (hsource' : x'.source = .canned)
    (htimeout : ∀ seconds, x.timeout = some seconds → 1 ≤ seconds)
    (htimeout' : ∀ seconds, x'.timeout = some seconds → 1 ≤ seconds) :
    Settled (run s words) c.command ∧ Settled (run s' words') c.command ∧
      (run s words).output = (run s' words').output ∧
      ∀ id, (Lookup.canned id).id = id ∧ ∀ other, Lookup.canned id ≠ .fallback other := by
  obtain ⟨hrun, houtput⟩ := run_canned hread hsettings hsource htimeout
  obtain ⟨hrun', houtput'⟩ := run_canned hread' hsettings' hsource' htimeout'
  rw [← hcommand] at hrun' houtput'
  exact ⟨hrun, hrun', houtput.trans houtput'.symm, Lookup.canned_spec⟩

end Run

/-- A world where everything is missing. -/
def bare : Surroundings where
  environment _ := none
  files _ := .error .missing
  network := Network.unreachable

/-- A world with a file `lookup=["canned"]`. -/
def furnished : Surroundings where
  environment _ := some "ftp://api"
  files _ := .ok [108, 111, 111, 107, 117, 112, 61, 91, 34, 99, 97, 110, 110, 101, 100, 34, 93]
  network := Remote.moved

/-- An unknown id and a fixed one: neither world has any influence on what can be
read on the output. -/
theorem bare_furnished_agree :
    let words := ["--base-url=", "customer", "a\tb", "123"].map Utf8.ofString
    let words' := ["--config=f", "--timeout-seconds=5", "customer", "a\tb", "123"].map Utf8.ofString
    (run bare words).exit = 0 ∧ (run furnished words').requests = [] ∧
      (run bare words).output = (run furnished words').output ∧
      ∃ unknown fixed,
        (run bare words).output.toList = unknown ++ '\n' :: (fixed ++ ['\n']) ∧
        Customer.decode (Utf8.encode unknown) = .ok (.unknown "a\tb") ∧
        Customer.decode (Utf8.encode fixed) = .ok ⟨"123", "John Doe", "john@example.com"⟩ := by
  intro words words'
  let o : Options := { layer := { baseUrl := some "" } }
  let o' : Options := { config := some (Utf8.ofString "f"), layer := { timeout := some 5 } }
  have hread : CommandLine.read words = .ok ⟨o, .customer ["a\tb", "123"]⟩ := rfl
  have hread' : CommandLine.read words' = .ok ⟨o', .customer ["a\tb", "123"]⟩ := rfl
  have hsettings : o.settings bare.environment bare.files = .ok ⟨"", none, .canned⟩ := rfl
  have hsettings' : o'.settings furnished.environment furnished.files =
      .ok ⟨Settings.standardUrl, some 5, .canned⟩ := by decide +kernel
  have htimeout : ∀ seconds, (none : Option Nat) = some seconds → 1 ≤ seconds := by
    rintro seconds ⟨⟩
  have htimeout' : ∀ seconds, some 5 = some seconds → 1 ≤ seconds := by
    rintro seconds ⟨⟩
    decide
  obtain ⟨hsettled, hsettled', houtput, -⟩ :=
    canned_runs_agree hread hread' rfl hsettings hsettings' rfl rfl htimeout htimeout'
  refine ⟨hsettled.exit, hsettled'.requests, houtput, ?_⟩
  have hshows := hsettled.output
  generalize (run bare words).output.toList = text at hshows ⊢
  cases hshows with
  | customer hlines =>
      obtain _ | ⟨⟨-, hunknown⟩, _ | ⟨⟨-, hfixed⟩, _ | _⟩⟩ := hlines
      exact ⟨_, _, by simp, hunknown, hfixed⟩

end Program

end OrderDesk
