/-
# `Proofs.Lookup.Runs` — whole runs of lookups

A run is any number of calls of either verb, one after the other, on one
lookup.  The directory behind it may be any machine whatever: its answers
may depend on all that it was asked before.

| | |
| :-- | :-- |
| `asked cs`     | the ids that the calls `cs` take to the directory |
| `replies d ids`| what the directory answers when it is asked these ids |
| `recording d`  | the directory, with a list of what it was asked |
| `Edit`         | calls of fixed ids inserted or deleted, verbs changed |
| `run_spec`     | a run is what its calls and the replies make it |

The invariant of the induction is that the directory is in the state that
the ids asked so far have brought it to: a call of a fixed id leaves it
alone, and the verb of a call is of no consequence to it.
-/
import OrderDesk.Lookup

namespace OrderDesk.Lookup

/-! ## Calls -/

/-- The two ways to look a customer up. -/
inductive Verb where
  | fetch
  | tryFetch
  deriving DecidableEq

/-- A lookup of an id. -/
structure Call where
  verb : Verb
  id : String
  deriving DecidableEq

/-- What comes back from a call. -/
inductive Result where
  | customer (c : Customer)
  | outcome (r : Except LookupError Customer)

/-- What a verb makes of the reply to an id: `fetch` has a placeholder for a
failure. -/
def Verb.result (id : String) (reply : Except LookupError Customer) : Verb → Result
  | .tryFetch => .outcome reply
  | .fetch =>
    match reply with
    | .ok customer => .customer customer
    | .error _ => .customer (.fallback id)

/-- Makes a call. -/
def Call.run (d : Directory σ) (c : Call) (s : σ) : Result × σ :=
  match c.verb with
  | .fetch => (.customer (Lookup.fetch d c.id s).value, (Lookup.fetch d c.id s).state)
  | .tryFetch => (.outcome (Lookup.tryFetch d c.id s).value, (Lookup.tryFetch d c.id s).state)

/-- Makes calls one after the other. -/
def run (d : Directory σ) : List Call → σ → List Result × σ
  | [], s => ([], s)
  | c :: cs, s =>
    let (r, s) := c.run d s
    let (rs, s) := run d cs s
    (r :: rs, s)

/-- Is this none of the fixed ids? -/
def isOpen (id : String) : Bool := id != "123" && id != "456"

/-- The ids that go to the directory, in the order of their calls. -/
def asked (cs : List Call) : List String := (cs.map Call.id).filter isOpen

/-- What a directory answers to ids, and the state that it is left in. -/
def replies (d : Directory σ) : List String → σ → List (Except LookupError Customer) × σ
  | [], s => ([], s)
  | id :: ids, s =>
    let answer := d.ask id s
    let (rs, s) := replies d ids answer.state
    (answer.value :: rs, s)

/-- The results of calls when the directory replies like this. -/
def results : List Call → List (Except LookupError Customer) → List Result
  | [], _ => []
  | c :: cs, rs =>
    match known? c.id with
    | some customer => c.verb.result c.id (.ok customer) :: results cs rs
    | none =>
      match rs with
      | [] => []
      | r :: rs => c.verb.result c.id r :: results cs rs

/-- The directory, with the ids that it was asked. -/
def recording (d : Directory σ) : Directory (σ × List String) where
  ask id s :=
    let answer := d.ask id s.1
    ⟨answer.value, answer.events, (answer.state, s.2 ++ [id])⟩

/-! ## One call -/

section Step

variable {σ : Type} {d : Directory σ} {c : Call} {s : σ}

theorem known?_eq_none_iff (id : String) : known? id = none ↔ isOpen id = true := by
  rw [known?, isOpen]
  split
  · next h => simp [h]
  split
  · next h => simp [h]
  · next h h' => simp [h, h']

/-- A fixed id is answered without the directory. -/
theorem Call.run_known {customer : Customer} (h : known? c.id = some customer) :
    c.run d s = (c.verb.result c.id (.ok customer), s) := by
  have htry : tryFetch d c.id s = ⟨.ok customer, [.fixedAnswer c.id], s⟩ := by rw [tryFetch, h]
  rw [Call.run]
  cases c.verb with
  | tryFetch => simp only [htry, Verb.result]
  | fetch => simp only [fetch, htry, Verb.result]

/-- Any other id is a question to the directory, whatever the verb. -/
theorem Call.run_unknown (h : known? c.id = none) :
    c.run d s = (c.verb.result c.id (d.ask c.id s).value, (d.ask c.id s).state) := by
  have htry : tryFetch d c.id s = d.ask c.id s := by rw [tryFetch, h]
  rw [Call.run]
  cases c.verb with
  | tryFetch => simp only [htry, Verb.result]
  | fetch =>
      simp only [fetch, htry, Verb.result]
      cases (d.ask c.id s).value with
      | ok customer => rfl
      | error e => rfl

theorem asked_known {customer : Customer} (h : known? c.id = some customer) (cs : List Call) :
    asked (c :: cs) = asked cs := by
  have hfixed : ¬ isOpen c.id = true := by
    intro hopen
    cases h.symm.trans ((known?_eq_none_iff c.id).mpr hopen)
  rw [asked, List.map_cons, List.filter_cons_of_neg hfixed]
  rfl

theorem asked_unknown (h : known? c.id = none) (cs : List Call) :
    asked (c :: cs) = c.id :: asked cs := by
  rw [asked, List.map_cons, List.filter_cons_of_pos ((known?_eq_none_iff c.id).mp h)]
  rfl

theorem results_known {customer : Customer} (h : known? c.id = some customer) (cs : List Call)
    (rs : List (Except LookupError Customer)) :
    results (c :: cs) rs = c.verb.result c.id (.ok customer) :: results cs rs := by
  simp only [results, h]

theorem results_unknown (h : known? c.id = none) (cs : List Call)
    (r : Except LookupError Customer) (rs : List (Except LookupError Customer)) :
    results (c :: cs) (r :: rs) = c.verb.result c.id r :: results cs rs := by
  simp only [results, h]

theorem run_known {customer : Customer} (h : known? c.id = some customer) (cs : List Call) :
    run d (c :: cs) s =
      (c.verb.result c.id (.ok customer) :: (run d cs s).1, (run d cs s).2) := by
  rw [run, Call.run_known h]

theorem run_unknown (h : known? c.id = none) (cs : List Call) :
    run d (c :: cs) s =
      (c.verb.result c.id (d.ask c.id s).value :: (run d cs (d.ask c.id s).state).1,
        (run d cs (d.ask c.id s).state).2) := by
  rw [run, Call.run_unknown h]

end Step

/-! ## Whole runs -/

section Run

variable {σ : Type}

/-- The results of a run are those of the replies, and the directory is left
where the replies leave it. -/
theorem run_eq (d : Directory σ) (cs : List Call) (s : σ) :
    run d cs s = (results cs (replies d (asked cs) s).1, (replies d (asked cs) s).2) := by
  induction cs generalizing s with
  | nil => rfl
  | cons c cs ih =>
      cases h : known? c.id with
      | some customer => rw [run_known h, asked_known h, results_known h, ih]
      | none => rw [run_unknown h, asked_unknown h, replies, results_unknown h, ih]

/-- Recording what the directory is asked changes nothing else, and finds
the ids that are not fixed, each once and in the order of the calls. -/
theorem run_recording (d : Directory σ) (cs : List Call) (s : σ) (log : List String) :
    run (recording d) cs (s, log) = ((run d cs s).1, (run d cs s).2, log ++ asked cs) := by
  induction cs generalizing s log with
  | nil => rw [run, run, asked, List.map_nil, List.filter_nil, List.append_nil]
  | cons c cs ih =>
      cases h : known? c.id with
      | some customer => rw [run_known h, run_known h, asked_known h, ih]
      | none =>
          rw [run_unknown h, run_unknown h, asked_unknown h]
          simp only [recording]
          rw [← recording, ih, List.append_assoc, List.singleton_append]

/-! ## Changes of a run -/

/-- Two runs that differ only by calls of fixed ids in one of them and by
verbs, laid side by side; `f` tells the call. -/
inductive Edit (f : α → Call) : List α → List α → Prop
  | nil : Edit f [] []
  | keep (a : α) {as bs : List α} : Edit f as bs → Edit f (a :: as) (a :: bs)
  | swap {a b : α} {as bs : List α} : (f a).id = (f b).id → (f a).verb ≠ (f b).verb →
      Edit f as bs → Edit f (a :: as) (b :: bs)
  | insert {b : α} {as bs : List α} : isOpen (f b).id = false → Edit f as bs →
      Edit f as (b :: bs)
  | delete {a : α} {as bs : List α} : isOpen (f a).id = false → Edit f as bs →
      Edit f (a :: as) bs

/-- The calls of a run with their results. -/
def transcript (d : Directory σ) (cs : List Call) (s : σ) : List (Call × Result) :=
  cs.zip (run d cs s).1

theorem exists_known {id : String} (h : isOpen id = false) :
    ∃ customer, known? id = some customer := by
  refine Option.ne_none_iff_exists'.mp ?_
  intro hnone
  have hopen := (known?_eq_none_iff id).mp hnone
  rw [h] at hopen
  cases hopen

theorem transcript_known {d : Directory σ} {s : σ} {c : Call} {customer : Customer}
    (h : known? c.id = some customer) (cs : List Call) :
    transcript d (c :: cs) s =
      (c, c.verb.result c.id (.ok customer)) :: transcript d cs s := by
  rw [transcript, run_known h]
  rfl

theorem transcript_unknown {d : Directory σ} {s : σ} {c : Call} (h : known? c.id = none)
    (cs : List Call) :
    transcript d (c :: cs) s =
      (c, c.verb.result c.id (d.ask c.id s).value) :: transcript d cs (d.ask c.id s).state := by
  rw [transcript, run_unknown h]
  rfl

/-- Edited calls keep their results wherever the calls are kept, and the
directory ends in the same state. -/
theorem Edit.transcripts {d : Directory σ} {cs cs' : List Call} (h : Edit id cs cs') (s : σ) :
    Edit Prod.fst (transcript d cs s) (transcript d cs' s) ∧ (run d cs s).2 = (run d cs' s).2 := by
  induction h generalizing s with
  | nil => exact ⟨.nil, rfl⟩
  | keep c _ ih =>
      cases hc : known? c.id with
      | some customer =>
          rw [transcript_known hc, transcript_known hc, run_known hc, run_known hc]
          exact ⟨.keep _ (ih s).1, (ih s).2⟩
      | none =>
          rw [transcript_unknown hc, transcript_unknown hc, run_unknown hc, run_unknown hc]
          exact ⟨.keep _ (ih _).1, (ih _).2⟩
  | @swap c c' cs cs' hid hverb _ ih =>
      -- both calls ask the same or nothing; only what the verbs make of it differs
      have hid : c.id = c'.id := hid
      cases hc : known? c.id with
      | some customer =>
          have hc' : known? c'.id = some customer := hid ▸ hc
          rw [transcript_known hc, transcript_known hc', run_known hc, run_known hc']
          exact ⟨.swap hid hverb (ih s).1, (ih s).2⟩
      | none =>
          have hc' : known? c'.id = none := hid ▸ hc
          rw [transcript_unknown hc, transcript_unknown hc', run_unknown hc, run_unknown hc', hid]
          exact ⟨.swap hid hverb (ih _).1, (ih _).2⟩
  | @insert c _ _ hfixed _ ih =>
      obtain ⟨customer, hc⟩ : ∃ customer, known? c.id = some customer := exists_known hfixed
      rw [transcript_known hc, run_known hc]
      exact ⟨.insert hfixed (ih s).1, (ih s).2⟩
  | @delete c _ _ hfixed _ ih =>
      obtain ⟨customer, hc⟩ : ∃ customer, known? c.id = some customer := exists_known hfixed
      rw [transcript_known hc, run_known hc]
      exact ⟨.delete hfixed (ih s).1, (ih s).2⟩

/-- A whole run: the directory is asked the ids that are not fixed, each
once and in order, and nothing else; the results are those that its
replies and the fixed customers give; and calls of fixed ids and the
choice of the verb have no influence on any other call. -/
theorem run_spec (d : Directory σ) (cs : List Call) (s : σ) :
    run (recording d) cs (s, []) = ((run d cs s).1, (run d cs s).2, asked cs) ∧
      run d cs s = (results cs (replies d (asked cs) s).1, (replies d (asked cs) s).2) ∧
      ∀ cs', Edit id cs cs' →
        Edit Prod.fst (transcript d cs s) (transcript d cs' s) ∧
          (run d cs s).2 = (run d cs' s).2 := by
  refine ⟨?_, run_eq d cs s, ?_⟩
  · rw [run_recording, List.nil_append]
  · intro cs' h
    exact h.transcripts s

/-- A directory that fails the first time it is asked. -/
def failsOnce : Directory Nat where
  ask id n := ⟨if n = 0 then .error (.status 500 id) else .ok (.unknown id), [], n + 1⟩

theorem failsOnce_run :
    Edit id [⟨.tryFetch, "7"⟩, ⟨.fetch, "123"⟩, ⟨.fetch, "7"⟩]
        [⟨.fetch, "7"⟩, ⟨.fetch, "7"⟩] ∧
      Edit Prod.fst
        (transcript failsOnce [⟨.tryFetch, "7"⟩, ⟨.fetch, "123"⟩, ⟨.fetch, "7"⟩] 0)
        (transcript failsOnce [⟨.fetch, "7"⟩, ⟨.fetch, "7"⟩] 0) ∧
      (run (recording failsOnce) [⟨.tryFetch, "7"⟩, ⟨.fetch, "123"⟩, ⟨.fetch, "7"⟩] (0, [])).2 =
        (2, ["7", "7"]) := by
  have hedit : Edit id [⟨.tryFetch, "7"⟩, ⟨.fetch, "123"⟩, ⟨.fetch, "7"⟩]
      [⟨.fetch, "7"⟩, ⟨.fetch, "7"⟩] :=
    .swap rfl (by decide) (.delete (by decide) (.keep _ .nil))
  obtain ⟨hlog, -, hsame⟩ :=
    run_spec failsOnce [⟨.tryFetch, "7"⟩, ⟨.fetch, "123"⟩, ⟨.fetch, "7"⟩] 0
  refine ⟨hedit, (hsame _ hedit).1, ?_⟩
  rw [hlog]
  decide

end Run

end OrderDesk.Lookup
