/-
# `Proofs.Program.Logging` — the log has no influence

What is logged depends on two flags and on a variable, and so does how a
record looks.  Nothing else depends on them.  Two runs that differ there
only do the same work in the same world (`SameWork`, `SameWorld`): they
have the same settings, because a file could see the variable in a
placeholder only, and hence the same directory, output and requests.

Records go to the error stream.  That none of them is on the output as
well can be seen from the lines of the output, as they all begin
otherwise than a record does:

| line of the output      | begins with                 |
| :--                     | :--                         |
| a customer              | `{"id"`                     |
| an order, first line    | `{` and nothing else        |
| an order, further lines | a blank or a closing brace  |

| record          | begins with     |
| :--             | :--             |
| compact layout  | the time        |
| JSON layout     | `{"timestamp"`  |
-/
import OrderDesk.Proofs.Program.Orders

namespace OrderDesk

namespace Template

variable {env env' : Environment}

theorem mem_names {name text : List Char} (h : Part.placeholder name ∈ parts text) :
    String.ofList name ∈ names text :=
  List.mem_filterMap.mpr ⟨_, h, rfl⟩

/-- Only the names in a text count for what it is filled in with. -/
theorem fill_congr {text : List Char} (h : ∀ name ∈ names text, env name = env' name) :
    fill env text = fill env' text := by
  refine List.flatMap_congr ?_
  intro p hp
  cases p with
  | plain c => rfl
  | placeholder name => rw [Part.fill, Part.fill, h _ (mem_names hp)]

end Template

/-- The same is to be done, however it is logged. -/
structure CommandLine.SameWork (c c' : CommandLine) : Prop where
  command : c.command = c'.command
  config : c.options.config = c'.options.config
  layer : c.options.layer = c'.options.layer

/-- It is to be done in the same world: the variables differ in the filter of
the log only, which the file with the settings does not mention. -/
structure Surroundings.SameWorld (s s' : Surroundings) (config : Option Word) : Prop where
  environment : ∀ name, name ≠ Log.filterVariable → s.environment name = s'.environment name
  network : s.network = s'.network
  file : ∀ path, config = some path → s.files path = s'.files path
  unmentioned : ∀ path octets text, config = some path → s.files path = .ok octets →
    Utf8.string? octets = some text → Log.filterVariable ∉ Template.names text.toList

namespace Program

/-! ## The same work in the same world -/

section Same

variable {s s' : Surroundings} {c c' : CommandLine}

/-- The filter of the log changes nothing in a file that does not mention it. -/
theorem ofFile_same {path : Word} {config : Option Word} (hs : s.SameWorld s' config)
    (hpath : config = some path) :
    Layer.ofFile s.environment (s.files path) = Layer.ofFile s'.environment (s'.files path) := by
  rw [← hs.file path hpath]
  cases hcontent : s.files path with
  | error e => rfl
  | ok octets =>
      rw [Layer.ofFile, Layer.ofFile]
      cases htext : Utf8.string? octets with
      | none => rfl
      | some text =>
          have hunmentioned := hs.unmentioned path octets text hpath hcontent htext
          have hfill : Template.fill s.environment text.toList =
              Template.fill s'.environment text.toList := by
            refine Template.fill_congr ?_
            intro name hname
            refine hs.environment name ?_
            rintro rfl
            exact hunmentioned hname
          simp only [Layer.ofText, hfill]

theorem settings_same (hs : s.SameWorld s' c.options.config) (hc : c.SameWork c') :
    settings s c.options = settings s' c'.options := by
  have hread : c.options.configuration s.environment s.files =
      c'.options.configuration s'.environment s'.files := by
    rw [Options.configuration, Options.configuration, ← hc.config]
    cases hpath : c.options.config with
    | none => rfl
    | some path =>
        show Configuration.ofFile _ _ = Configuration.ofFile _ _
        rw [Configuration.ofFile, Configuration.ofFile, ofFile_same hs hpath]
  rw [settings, settings, Options.settings, Options.settings, hread, hc.layer]

/-- The same work in the same world ends in the same way. -/
theorem run_same {words words' : List Word} (hread : CommandLine.read words = .ok c)
    (hread' : CommandLine.read words' = .ok c') (hc : c.SameWork c')
    (hs : s.SameWorld s' c.options.config) :
    (run s words).exit = (run s' words').exit ∧ (run s words).output = (run s' words').output ∧
      (run s words).requests = (run s' words').requests := by
  -- The flags are not read before the settings are there, and then only for the notices.
  have hsame := settings_same hs hc
  cases hsettings : settings s c.options with
  | error e =>
      have hrun := run_unusable hread hsettings
      have hrun' := run_unusable hread' (hsame.symm.trans hsettings)
      exact ⟨hrun.exit.trans hrun'.exit.symm, hrun.output.trans hrun'.output.symm,
        hrun.requests.trans hrun'.requests.symm⟩
  | ok x =>
      obtain ⟨d, hd, hrun⟩ := run_performed hread hsettings
      obtain ⟨d', hd', hrun'⟩ := run_performed hread' (hsame.symm.trans hsettings)
      rw [← hs.network, hd] at hd'
      cases hd'
      rw [← hc.command] at hrun'
      exact ⟨hrun.exit.trans hrun'.exit.symm, hrun.output.trans hrun'.output.symm,
        hrun.requests.trans hrun'.requests.symm⟩

end Same

end Program

/-! ## How records begin -/

namespace Log

/-- A character that a time may begin with: a digit, or the sign of a year. -/
def BeginsTime (c : Char) : Prop := c.isDigit = true ∨ c = '+' ∨ c = '-'

/-- The text may be that of a time. -/
def IsTime (time : String) : Prop := ∃ c rest, time.toList = c :: rest ∧ BeginsTime c

/-- The text begins like a record. -/
inductive Opening : List Char → Prop
  | time {c : Char} {rest : List Char} : BeginsTime c → Opening (c :: rest)
  | object {rest : List Char} : Opening ('\x7b' :: '"' :: 't' :: rest)

theorem Record.line_opening {time : String} (h : IsTime time) (r : Record) (layout : Layout) :
    Opening (r.line layout time).toList := by
  cases layout with
  | compact =>
      obtain ⟨c, rest, htime, hc⟩ := h
      rw [line, compact]
      simp only [String.toList_append, htime, List.cons_append]
      exact .time hc
  | json =>
      rw [line, String.toList_append, String.toList_ofList]
      exact .object

/-- The line is not the first line of any record. -/
def Apart (line : List Char) : Prop :=
  ∀ (r : Record) (layout : Layout) (time : String), IsTime time →
    ¬ line ++ ['\n'] <+: (r.line layout time).toList

theorem apart_of_opening {line : List Char} (h : ∀ t, Opening t → ¬ line ++ ['\n'] <+: t) :
    Apart line := by
  intro r layout time htime
  exact h _ (r.line_opening htime layout)

/-- A record begins neither with a blank nor with a closing bracket. -/
theorem Opening.not_inset {c : Char} {rest : List Char} (h : Opening (c :: rest)) :
    ¬ Json.Inset c := by
  cases h with
  | time hc =>
      rintro (rfl | rfl | rfl)
      · simp [BeginsTime] at hc
      · simp [BeginsTime] at hc
      · simp [BeginsTime] at hc
  | object => simp [Json.Inset]

theorem apart_inset {c : Char} {rest : List Char} (hc : Json.Inset c) : Apart (c :: rest) := by
  refine apart_of_opening ?_
  rintro t ht ⟨behind, rfl⟩
  exact ht.not_inset hc

/-- Behind an opening brace it is enough that the first member differs. -/
theorem apart_brace {rest : List Char} (h : ∀ t, ¬ rest ++ ['\n'] <+: '"' :: 't' :: t) :
    Apart ('\x7b' :: rest) := by
  refine apart_of_opening ?_
  intro t ht hprefix
  cases ht with
  | time hc =>
      obtain rfl := (List.cons_prefix_cons.mp hprefix).1
      simp [BeginsTime] at hc
  | object => exact h _ (List.cons_prefix_cons.mp hprefix).2

/-- The text consists of lines, and none of them begins a record. -/
def Clear (text : List Char) : Prop :=
  ∃ lines : List (List Char), text = lines.flatMap (· ++ ['\n']) ∧
    ∀ line ∈ lines, '\n' ∉ line ∧ Apart line

end Log

/-! ## The lines of the output -/

namespace Program

theorem apart_text (c : Customer) : Log.Apart c.text.toList := by
  obtain ⟨rest, hrest⟩ : ∃ rest, c.text.toList = '\x7b' :: '"' :: 'i' :: rest := by
    rw [Customer.text, String.toList_ofList]
    exact ⟨_, rfl⟩
  rw [hrest]
  refine Log.apart_brace ?_
  intro t ht
  simp only [List.cons_append, List.cons_prefix_cons] at ht
  exact absurd ht.2.1 (by decide)

/-- A line for each customer. -/
theorem clear_customers (customers : List Customer) :
    Log.Clear (String.join (customers.map fun c => c.text ++ "\n")).toList := by
  refine ⟨_, toList_join_lines customers, ?_⟩
  intro line hline
  obtain ⟨c, -, rfl⟩ := List.mem_map.mp hline
  refine ⟨?_, apart_text c⟩
  intro hnewline
  exact absurd (visible_text c _ hnewline) (by decide)

/-- A brace on the first line, and lines that are set in. -/
theorem clear_report (o : Order) (c : Customer) :
    Log.Clear ((report o c).pretty ++ ['\n']) := by
  have hindented : Json.Indented (report o c).pretty := (numbered_report o c).indented 0
  obtain ⟨rest, hrest⟩ : ∃ rest, (report o c).pretty = '\x7b' :: '\n' :: ' ' :: rest := ⟨_, rfl⟩
  rw [hrest] at hindented ⊢
  cases hindented with
  | char _ hbehind =>
      cases hbehind with
      | char hne => exact absurd rfl hne
      | line hblank hbehind =>
          obtain ⟨first, others, heq, hfirst, hothers⟩ := hbehind.lines
          refine ⟨['\x7b'] :: (' ' :: first) :: others, ?_, ?_⟩
          · simp only [List.cons_append, heq]
            rfl
          · simp only [List.forall_mem_cons]
            refine ⟨⟨by decide, ?_⟩, ⟨?_, Log.apart_inset hblank⟩, ?_⟩
            · refine Log.apart_brace ?_
              intro t ht
              exact absurd (List.cons_prefix_cons.mp ht).1 (by decide)
            · exact List.not_mem_cons_of_ne_of_not_mem (by decide) hfirst
            · intro line hline
              obtain ⟨hnewline, c, rest, hc, rfl⟩ := hothers line hline
              exact ⟨hnewline, Log.apart_inset hc⟩

theorem clear_perform (d : Directory σ) (state : σ) (c : Command) :
    Log.Clear (perform d state c).value.1.toList := by
  cases c with
  | customer ids => exact clear_customers _
  | order id customerId amount =>
      show Log.Clear (String.ofList (report _ _).pretty ++ "\n").toList
      rw [String.toList_append, String.toList_ofList]
      exact clear_report _ _

/-- A run whose words are not understood logs nothing; the output of any other
run is clear of the log. -/
theorem run_clear (s : Surroundings) (words : List Word) :
    (∀ r, Notice.record r ∉ (run s words).notices) ∨ Log.Clear (run s words).output.toList := by
  cases hread : CommandLine.read words with
  | error r =>
      refine .inl ?_
      rw [run, hread]
      intro record hrecord
      simp only [refused] at hrecord
      split at hrecord
      · cases hrecord
      · cases List.mem_singleton.mp hrecord
  | ok c =>
      refine .inr ?_
      cases hsettings : settings s c.options with
      | error e =>
          rw [(run_unusable hread hsettings).output]
          exact ⟨[], rfl, List.forall_mem_nil _⟩
      | ok x =>
          obtain ⟨d, -, hrun⟩ := run_performed hread hsettings
          rw [hrun.output]
          exact clear_perform d [] c.command

/-- The log has no influence on a run and does not show on its output.  The
same work in the same world ends with the same status, the same output and
the same requests, whatever is logged in which form; and the lines of the
output are none of the log. -/
theorem logging_inert :
    (∀ (s s' : Surroundings) (words words' : List Word) (c c' : CommandLine),
      CommandLine.read words = .ok c → CommandLine.read words' = .ok c' →
      c.SameWork c' → s.SameWorld s' c.options.config →
      (run s words).exit = (run s' words').exit ∧ (run s words).output = (run s' words').output ∧
        (run s words).requests = (run s' words').requests) ∧
    ∀ (s : Surroundings) (words : List Word), (∀ r, Notice.record r ∉ (run s words).notices) ∨
      Log.Clear (run s words).output.toList := by
  refine ⟨?_, run_clear⟩
  intro s s' words words' c c' hread hread' hc hs
  exact run_same hread hread' hc hs

/-- A world with a file `c=1`, in which the filter of the log is this. -/
def filtered (filter : Option String) : Surroundings where
  environment name := if name = Log.filterVariable then filter else none
  files _ := .ok [99, 61, 49]
  network := Remote.moved

theorem filtered_same :
    let quiet := run (filtered (some "off")) (["--config=f", "customer", "7"].map Utf8.ofString)
    let loud := run (filtered none) (["--verbose", "customer", "--config=f", "--json-logs", "7"].map
      Utf8.ofString)
    quiet.exit = loud.exit ∧ quiet.output = loud.output ∧ quiet.requests = loud.requests := by
  intro quiet loud
  let o : Options := { config := some (Utf8.ofString "f") }
  have hread : CommandLine.read (["--config=f", "customer", "7"].map Utf8.ofString) =
      .ok ⟨o, .customer ["7"]⟩ := rfl
  have hread' : CommandLine.read (["--verbose", "customer", "--config=f", "--json-logs", "7"].map
      Utf8.ofString) = .ok ⟨{ o with verbose := true, jsonLogs := true }, .customer ["7"]⟩ := rfl
  have hworld : (filtered (some "off")).SameWorld (filtered none) o.config := by
    refine ⟨?_, rfl, fun path hpath => rfl, ?_⟩
    · intro name hname
      simp only [filtered, if_neg hname]
    · intro path octets text hpath hcontent htext
      cases hcontent
      have hutf8 : Utf8.string? [99, 61, 49] = some "c=1" := by decide +kernel
      cases hutf8.symm.trans htext
      decide +kernel
  exact logging_inert.1 _ _ _ _ _ _ hread hread' ⟨rfl, rfl, rfl⟩ hworld

end Program

end OrderDesk
