/-
# `Proofs.Program.Failures` — every failed lookup is in the log, once

A lookup that fails is answered by a placeholder, which looks like any other
customer.  The log is the only place where the failure can be seen, so it has
to be complete and legible: with JSON lines and the standard filter, whoever
reads the lines of the error stream finds the failed lookups, each with its
id and its error, in the order in which they were made, and no others.

| | |
| :-- | :-- |
| `Lookup.failures d ids state` | the lookups that fail, with their errors |
| `Picks wanted tells as bs`    | those of `as` that are wanted tell of `bs`, in order |
| `HasLevel level v`            | the line `v` has this level |
| `Reports v failure`           | the line `v` tells of this failure |

Failures are followed on their way from events to records, from all records
to those that the filter keeps, and from records to lines.  On each way the
other events, records and lines are passed over, and nothing is reordered.
-/
import OrderDesk.Proofs.Json.Unambiguous
import OrderDesk.Proofs.Program.Lookups

namespace OrderDesk

/-! ## Picking some of a list -/

/-- Those elements of a list that are wanted tell of the elements of another
list, one of one, in the same order. -/
inductive Picks (wanted : α → Prop) (tells : α → β → Prop) : List α → List β → Prop
  | nil : Picks wanted tells [] []
  | pass {a : α} {as : List α} {bs : List β} : ¬ wanted a → Picks wanted tells as bs →
      Picks wanted tells (a :: as) bs
  | pick {a : α} {b : β} {as : List α} {bs : List β} : wanted a → tells a b →
      Picks wanted tells as bs → Picks wanted tells (a :: as) (b :: bs)

namespace Picks

variable {wanted : α → Prop} {tells : α → β → Prop} {as : List α} {bs : List β}

theorem filterMap (f : α → Option β) (as : List α) :
    Picks (fun a => (f a).isSome) (fun a b => f a = some b) as (as.filterMap f) := by
  induction as with
  | nil => exact .nil
  | cons a as ih =>
      cases h : f a with
      | none =>
          rw [List.filterMap_cons_none h]
          exact .pass (by simp [h]) ih
      | some b =>
          rw [List.filterMap_cons_some h]
          exact .pick (by simp [h]) h ih

theorem map {wanted' : γ → Prop} {tells' : γ → β → Prop} {f : α → γ}
    (hwanted : ∀ a, wanted' (f a) ↔ wanted a) (htells : ∀ a b, tells a b → tells' (f a) b)
    (h : Picks wanted tells as bs) : Picks wanted' tells' (as.map f) bs := by
  induction h with
  | nil => exact .nil
  | pass hno _ ih => exact .pass (mt (hwanted _).mp hno) ih
  | pick hyes hb _ ih => exact .pick ((hwanted _).mpr hyes) (htells _ _ hb) ih

/-- What is not wanted may stand in front. -/
theorem append {front : List α} (hfront : ∀ a ∈ front, ¬ wanted a)
    (h : Picks wanted tells as bs) : Picks wanted tells (front ++ as) bs := by
  induction front with
  | nil => exact h
  | cons a front ih =>
      obtain ⟨ha, hrest⟩ := List.forall_mem_cons.mp hfront
      exact .pass ha (ih hrest)

/-- What is not wanted may be left out. -/
theorem filter {keep : α → Bool} (hkeep : ∀ a b, wanted a → tells a b → keep a = true)
    (h : Picks wanted tells as bs) : Picks wanted tells (as.filter keep) bs := by
  induction h with
  | nil => exact .nil
  | @pass a as bs hno _ ih =>
      cases ha : keep a with
      | true =>
          rw [List.filter_cons_of_pos ha]
          exact .pass hno ih
      | false =>
          rw [List.filter_cons_of_neg (by simp [ha])]
          exact ih
  | pick hyes hb _ ih =>
      rw [List.filter_cons_of_pos (hkeep _ _ hyes hb)]
      exact .pick hyes hb ih

/-- Numbering the elements changes nothing. -/
theorem zipIdx (h : Picks wanted tells as bs) (k : Nat) :
    Picks (fun a : α × Nat => wanted a.1) (fun a b => tells a.1 b) (as.zipIdx k) bs := by
  induction h generalizing k with
  | nil => exact .nil
  | pass hno _ ih => exact .pass hno (ih (k + 1))
  | pick hyes hb _ ih => exact .pick hyes hb (ih (k + 1))

end Picks

/-! ## From lookups to events -/

/-- The failed lookup that an event tells of. -/
def Event.failure? : Event → Option (String × LookupError)
  | .lookupFailed id e => some (id, e)
  | _ => none

namespace Lookup

/-- The lookups that fail when ids are looked up one after the other, with
their errors. -/
def failures (d : Directory σ) : List String → σ → List (String × LookupError)
  | [], _ => []
  | id :: ids, state =>
    let a := tryFetch d id state
    match a.value with
    | .ok _ => failures d ids a.state
    | .error e => (id, e) :: failures d ids a.state

/-- The directory itself says of no lookup that it failed. -/
def Discreet (d : Directory σ) : Prop :=
  ∀ id state, (d.ask id state).events.filterMap Event.failure? = []

section Failures

variable {σ : Type} {d : Directory σ}

theorem Discreet.tryFetch (hd : Discreet d) (id : String) (state : σ) :
    (tryFetch d id state).events.filterMap Event.failure? = [] := by
  rw [Lookup.tryFetch]
  split
  · rfl
  · exact hd id state

/-- Looking ids up gives an event of failure for each lookup that fails. -/
theorem Discreet.fetchAll (hd : Discreet d) (ids : List String) (state : σ) :
    (fetchAll d ids state).events.filterMap Event.failure? = failures d ids state := by
  induction ids generalizing state with
  | nil => rfl
  | cons id ids ih =>
      have hquiet := hd.tryFetch id state
      rw [Lookup.fetchAll, failures, List.filterMap_append, fetch]
      cases hvalue : (Lookup.tryFetch d id state).value with
      | ok customer =>
          simp only [hquiet, List.nil_append]
          exact ih _
      | error e =>
          simp only [List.filterMap_append, hquiet, List.nil_append]
          exact congrArg (List.cons (id, e)) (ih _)

/-- A lookup of a fixed id does not fail. -/
theorem known?_of_failure {ids : List String} {state : σ} {id : String} {e : LookupError}
    (h : (id, e) ∈ failures d ids state) : known? id = none := by
  induction ids generalizing state with
  | nil => cases h
  | cons first ids ih =>
      rw [failures] at h
      cases hvalue : (tryFetch d first state).value with
      | ok customer =>
          simp only [hvalue] at h
          exact ih h
      | error e' =>
          simp only [hvalue, List.mem_cons, Prod.mk.injEq] at h
          rcases h with ⟨rfl, -⟩ | h
          · cases hknown : known? id with
            | none => rfl
            | some customer =>
                rw [tryFetch, hknown] at hvalue
                cases hvalue
          · exact ih h

end Failures

end Lookup

/-- The directory of any settings is discreet. -/
theorem Settings.directory_discreet {x : Settings} {net : Network}
    {d : Directory (List Request)} (h : x.directory net = .ok d) : Lookup.Discreet d := by
  intro id made
  rcases directory_cases h with rfl | ⟨base, rfl⟩
  · rfl
  · simp only [Remote.ask]
    split
    · rfl
    · rfl

/-! ## From events to records -/

namespace Log

/-- The record tells of a failed lookup. -/
structure Record.Tells (r : Record) (failure : String × LookupError) : Prop where
  level : r.level = .error
  part : r.part = lookupPart
  fields : r.fields = [("customer_id", failure.1), ("error", failure.2.message)]

theorem record_level (e : Event) : e.record.level = .error ↔ e.failure?.isSome = true := by
  cases e <;> simp [Event.record, Event.failure?]

theorem record_tells (e : Event) (failure : String × LookupError)
    (h : e.failure? = some failure) : e.record.Tells failure := by
  cases e with
  | lookupFailed id error =>
      cases h
      exact ⟨rfl, rfl, rfl⟩
  | _ => cases h

/-- The standard filter keeps the records of failed lookups. -/
theorem standard_keeps {r : Record} {failure : String × LookupError} (h : r.Tells failure)
    (verbose : Bool) : (standard verbose).keeps r = true := by
  have hbelow : ∀ t, (Directive.below root t).concerns r = true := by
    intro t
    have hprefix : root.toList.isPrefixOf lookupPart.toList = true := by decide
    simp [Directive.concerns, Directive.below, h.part, hprefix]
  have hall : ∀ t, (Directive.all t).concerns r = true := fun _ => rfl
  have hkeeps : ∀ l, (Directive.below root (some l)).keeps r = true := by
    intro l
    have hrank : 1 ≤ l.rank := by cases l <;> decide
    simpa [Directive.keeps, Directive.below, h.level, Level.rank] using hrank
  cases verbose with
  | false =>
      have hdecisive : (standard false).decisive? r = some (.below root (some .info)) := by
        simp only [standard, Filter.decisive?, Bool.false_eq_true, if_false, List.filter_cons,
          List.filter_nil, hbelow, if_true, List.foldl_cons, List.foldl_nil]
      simp only [Filter.keeps, hdecisive, Option.any_some, hkeeps]
  | true =>
      have hyields : (Directive.below root (some .debug)).yields (.all (some .info)) = false := by
        decide
      have hdecisive : (standard true).decisive? r = some (.below root (some .debug)) := by
        simp only [standard, Filter.decisive?, if_true, List.filter_cons, List.filter_nil, hbelow,
          hall, List.foldl_cons, List.foldl_nil, hyields, Bool.false_eq_true, if_false]
      simp only [Filter.keeps, hdecisive, Option.any_some, hkeeps]

/-! ## From records to lines -/

/-- The line has this level. -/
def HasLevel (level : String) (v : Json.Value) : Prop :=
  ∃ ms, v = .object ms ∧ Json.Only ms "level" (.ofString level)

/-- The line tells of a failed lookup: among its fields are the id that was
asked for and the error in words. -/
def Reports (v : Json.Value) (failure : String × LookupError) : Prop :=
  ∃ ms fields, v = .object ms ∧ Json.Only ms "fields" (.object fields) ∧
    Json.Only fields "customer_id" (.ofString failure.1) ∧
    Json.Only fields "error" (.ofString failure.2.message)

theorem Level.name_eq_error {l : Level} : l.name = "ERROR" ↔ l = .error := by
  cases l <;> decide

theorem json_level (r : Record) (time : String) :
    HasLevel "ERROR" (r.json time) ↔ r.level = .error := by
  constructor
  · rintro ⟨ms, hms, hlevel⟩
    cases hms
    refine Level.name_eq_error.mp (String.toList_injective ?_)
    simpa [Json.Only, Json.named, Json.Value.ofString] using hlevel
  · intro hlevel
    refine ⟨_, rfl, ?_⟩
    rw [hlevel]
    rfl

theorem json_reports {r : Record} {failure : String × LookupError} (h : r.Tells failure)
    (time : String) : Reports (r.json time) failure := by
  refine ⟨_, _, rfl, rfl, ?_, ?_⟩
  · simp [h.fields, Json.Only, Json.named]
  · simp [h.fields, Json.Only, Json.named]

theorem json_numbered (r : Record) (time : String) : Json.Numbered (r.json time) := by
  refine .object ?_
  simp only [List.forall_mem_cons]
  refine ⟨.string _, .string _, .object ?_, List.forall_mem_nil _⟩
  intro m hm
  obtain ⟨f, -, rfl⟩ := List.mem_map.mp hm
  exact .string _

end Log

/-! ## The error stream of a run -/

/-- The ids that a command looks up. -/
def Command.lookups : Command → List String
  | .customer ids => ids
  | .order _ customerId _ => [customerId]

namespace Program

/-- The records of a command tell of the lookups that fail. -/
theorem perform_picks {d : Directory σ} (hd : Lookup.Discreet d) (state : σ) (c : Command) :
    Picks (fun r : Log.Record => r.level = .error) Log.Record.Tells (perform d state c).value.2
      (Lookup.failures d c.lookups state) := by
  have hevents : ∀ events : List Event,
      Picks (fun r : Log.Record => r.level = .error) Log.Record.Tells (events.map Event.record)
        (events.filterMap Event.failure?) := by
    intro events
    exact (Picks.filterMap Event.failure? events).map Log.record_level Log.record_tells
  cases c with
  | customer ids =>
      rw [Command.lookups, ← hd.fetchAll]
      exact hevents _
  | order id customerId amount =>
      have hone : (Lookup.fetch d customerId state).events.filterMap Event.failure? =
          Lookup.failures d [customerId] state := by
        rw [← hd.fetchAll [customerId] state]
        simp [Lookup.fetchAll]
      rw [Command.lookups, ← hone]
      exact .pass (by simp [Log.created]) (hevents _)

section Run

variable {s : Surroundings} {words : List Word} {c : CommandLine} {x : Settings}

/-- All records of a run, before some are dropped. -/
def records (c : CommandLine) (source : Source) (d : Directory (List Request)) : List Log.Record :=
  opening c ++ [Log.configured source] ++ (perform d [] c.command).value.2

theorem records_picks {d : Directory (List Request)} (hd : Lookup.Discreet d) (c : CommandLine)
    (source : Source) :
    Picks (fun r : Log.Record => r.level = .error) Log.Record.Tells (records c source d)
      (Lookup.failures d c.command.lookups []) := by
  refine (perform_picks hd [] c.command).append ?_
  intro r hr
  rw [opening] at hr
  split at hr
  · simp only [List.cons_append, List.nil_append, List.mem_cons, List.not_mem_nil, or_false] at hr
    rcases hr with rfl | rfl | rfl <;> simp [Log.started, Log.asked, Log.configured]
  · simp only [List.cons_append, List.nil_append, List.mem_cons, List.not_mem_nil, or_false] at hr
    rcases hr with rfl | rfl <;> simp [Log.started, Log.configured]

/-- A run whose settings pass the checks notices nothing but records. -/
theorem run_notices (hread : CommandLine.read words = .ok c)
    (h : settings s c.options = .ok x) :
    ∃ d, x.directory s.network = .ok d ∧
      (run s words).layout = (if c.options.jsonLogs then .json else .compact) ∧
      (run s words).notices = ((records c x.source d).filter
        (Log.filter s.environment c.options.verbose).keeps).map Notice.record := by
  obtain ⟨-, hvalidate⟩ := settings_eq_ok.mp h
  obtain ⟨d, hd⟩ := Settings.directory_of_validate hvalidate s.network
  refine ⟨d, hd, ?_⟩
  rw [run, hread]
  simp only [carryOut, unfiltered, h, hd]
  refine ⟨trivial, ?_⟩
  rw [records, ← List.map_singleton, ← List.map_append, ← List.map_append, List.filter_map]
  rfl

/-- Records in the JSON layout, as lines. -/
theorem toList_errors {o : Outcome} {rs : List Log.Record} (hlayout : o.layout = .json)
    (hnotices : o.notices = rs.map Notice.record) (clock : Nat → String) :
    (o.errors clock).toList =
      (rs.zipIdx.map fun r => (r.1.json (clock r.2)).compact).flatMap (· ++ ['\n']) := by
  rw [Outcome.errors, hlayout, hnotices, List.zipIdx_map, List.map_map, String.toList_join,
    List.flatMap_map, List.flatMap_map]
  refine List.flatMap_congr ?_
  intro r _
  show (String.ofList (r.1.json (clock r.2)).compact ++ "\n").toList = _
  rw [String.toList_append, String.toList_ofList]
  rfl

/-- With JSON lines and the standard filter the error stream of a run whose
settings pass the checks is a list of lines, each of them one object, which
have one value each; those of the level `ERROR` report the lookups that
failed, each with the id that was asked for and its error, in the order of
the lookups.  None of these is a lookup of a fixed id. -/
theorem failures_reported (hread : CommandLine.read words = .ok c)
    (hjson : c.options.jsonLogs = true) (hunset : s.environment Log.filterVariable = none)
    (hsettings : c.options.settings s.environment s.files = .ok x)
    (hvalid : x.validate = .ok ()) (clock : Nat → String) :
    ∃ d lines, x.directory s.network = .ok d ∧
      ((run s words).errors clock).toList = lines.flatMap (· ++ ['\n']) ∧
      (∀ line ∈ lines, '\n' ∉ line ∧ ∃ ms, Json.Document (.object ms) line) ∧
      (∀ values, List.Forall₂ Json.Document values lines →
        Picks (Log.HasLevel "ERROR") Log.Reports values
          (Lookup.failures d c.command.lookups [])) ∧
      ∀ failure ∈ Lookup.failures d c.command.lookups [], Lookup.known? failure.1 = none := by
  obtain ⟨d, hd, hlayout, hnotices⟩ :=
    run_notices hread (settings_eq_ok.mpr ⟨hsettings, hvalid⟩)
  rw [hjson, if_pos rfl] at hlayout
  have hfilter : Log.filter s.environment c.options.verbose = Log.standard c.options.verbose := by
    rw [Log.filter, hunset]
    rfl
  rw [hfilter] at hnotices
  let kept := (records c x.source d).filter (Log.standard c.options.verbose).keeps
  let read (r : Log.Record × Nat) : Json.Value := r.1.json (clock r.2)
  have hdoc : ∀ r, Json.Document (read r) (read r).compact :=
    fun r => (Log.json_numbered r.1 _).compact.document
  refine ⟨d, kept.zipIdx.map fun r => (read r).compact, hd, toList_errors hlayout hnotices clock,
    ?_, ?_, ?_⟩
  · intro line hline
    obtain ⟨r, -, rfl⟩ := List.mem_map.mp hline
    refine ⟨?_, _, hdoc r⟩
    intro hnewline
    exact absurd ((Log.json_numbered r.1 _).visible _ hnewline) (by decide)
  · -- A line has one value, so any reading of the lines is the reading of the records.
    intro values hvalues
    have hread : values = kept.zipIdx.map read := by
      rw [List.forall₂_map_right_iff] at hvalues
      refine List.forall₂_eq_eq_eq ▸ ?_
      rw [List.forall₂_map_right_iff]
      exact hvalues.imp fun v r hv => hv.unique (hdoc r)
    have hkept : Picks (fun r : Log.Record => r.level = .error) Log.Record.Tells kept
        (Lookup.failures d c.command.lookups []) :=
      (records_picks (Settings.directory_discreet hd) c x.source).filter
        fun r failure _ htells => Log.standard_keeps htells c.options.verbose
    rw [hread]
    exact (hkept.zipIdx 0).map (fun r => Log.json_level r.1 _)
      fun r failure htells => Log.json_reports htells _
  · rintro ⟨id, e⟩ hfailure
    exact Lookup.known?_of_failure hfailure

end Run

/-- The words that ask for JSON lines and for three ids: one that cannot be had
and would break a line, a fixed one, and the first once more. -/
def brokenIds : List Word :=
  ["--json-logs", "--verbose", "--source=remote", "--base-url=http://[::1]:8080/v1", "customer",
    "a\n\"b", "123", "a\n\"b"].map Utf8.ofString

/-- Two of the three lookups are reported. -/
theorem brokenIds_reported :
    ∃ d lines,
      (Settings.mk "http://[::1]:8080/v1" none .remote).directory movedApi.network = .ok d ∧
      ((run movedApi brokenIds).errors fun _ => "now").toList = lines.flatMap (· ++ ['\n']) ∧
      (Lookup.failures d ["a\n\"b", "123", "a\n\"b"] []).map Prod.fst = ["a\n\"b", "a\n\"b"] ∧
      ∀ values, List.Forall₂ Json.Document values lines →
        Picks (Log.HasLevel "ERROR") Log.Reports values
          (Lookup.failures d ["a\n\"b", "123", "a\n\"b"] []) := by
  let o : Options :=
    { layer := { baseUrl := some "http://[::1]:8080/v1", source := some .remote }
      verbose := true, jsonLogs := true }
  have hread : CommandLine.read brokenIds =
      .ok ⟨o, .customer ["a\n\"b", "123", "a\n\"b"]⟩ := rfl
  have hsettings : o.settings movedApi.environment movedApi.files =
      .ok ⟨"http://[::1]:8080/v1", none, .remote⟩ := rfl
  obtain ⟨d, lines, hd, hlines, -, hpicks, -⟩ :=
    failures_reported hread rfl rfl hsettings rfl fun _ => "now"
  refine ⟨d, lines, hd, hlines, ?_, hpicks⟩
  have hdirectory : (Settings.mk "http://[::1]:8080/v1" none .remote).directory movedApi.network =
      .ok ((Remote.localClient none).directory Remote.moved) := rfl
  obtain rfl := Except.ok.inj (hdirectory.symm.trans hd)
  decide +kernel

end Program

end OrderDesk
