/-
# `Proofs.CommandLine.Sayings` — what a word chooses, and what a run of words comes to

A `Choice` is what an option settles; a `Saying` is a choice together with
a word for it, an option with its value behind an equals sign or a flag.
Sayings and ids can stand in any order, and what has been read is told by
membership alone: `d.Tells gs` says that the draft has exactly the choices
of the sayings `gs`, and an order of them is nowhere in it.

One word (`words_saying`, `words_id`) leads from a reading that can be
settled to another one; a run of words follows by induction (`words_items`),
and so do the words behind `--` (`rest_ids`).  That the reading can be
settled is the whole invariant: no value is awaited, and all that is pending
can be looked at.
-/
import OrderDesk.Proofs.CommandLine.Wishes

namespace OrderDesk

open Utf8 (ofText ofString)

namespace CommandLine

/-! ## Words for switches -/

/-- The word of an option with its value. -/
def Valued.said (v : Valued) (w : Word) : Word :=
  .char '-' :: .char '-' :: (ofString v.name ++ .char '=' :: w)

/-- The word of a flag. -/
def Flag.said (f : Flag) : Word := .char '-' :: .char '-' :: ofString f.name

/-- What a switch settles. -/
inductive Choice where
  | config (path : Word)
  | source (s : Source)
  | baseUrl (url : String)
  | timeout (seconds : Nat)
  | verbose
  | jsonLogs
  | id (id : String)
  | customerId (id : String)
  | amount (x : Binary64)
  deriving DecidableEq

/-- The switch that settles it. -/
def Choice.switch : Choice → Switch
  | .config _ => .valued .config
  | .source _ => .valued .source
  | .baseUrl _ => .valued .baseUrl
  | .timeout _ => .valued .timeout
  | .verbose => .flag .verbose
  | .jsonLogs => .flag .jsonLogs
  | .id _ => .valued .id
  | .customerId _ => .valued .customerId
  | .amount _ => .valued .amount

/-- The words for a choice. -/
inductive Spells : Choice → Word → Prop
  | config {path : Word} : path ≠ [] → Spells (.config path) (Valued.config.said path)
  | source (s : Source) : Spells (.source s) (Valued.source.said (ofString s.name))
  | baseUrl (url : String) : Spells (.baseUrl url) (Valued.baseUrl.said (ofString url))
  | timeout (text : String) {seconds : Nat} : Whole.parse text.toList = .ok seconds →
      Spells (.timeout seconds) (Valued.timeout.said (ofString text))
  | verbose : Spells .verbose Flag.verbose.said
  | jsonLogs : Spells .jsonLogs Flag.jsonLogs.said
  | id (id : String) : Spells (.id id) (Valued.id.said (ofString id))
  | customerId (id : String) : Spells (.customerId id) (Valued.customerId.said (ofString id))
  | amount (text : String) {x : Binary64} : Binary64.parse text.toList = .ok x →
      Spells (.amount x) (Valued.amount.said (ofString text))

/-- A choice with a word for it. -/
structure Saying where
  choice : Choice
  word : Word
  spells : Spells choice word

namespace Saying

/-- The switch that is said. -/
def switch (g : Saying) : Switch := g.choice.switch

/-- May it be said in front of the command as well as behind it? -/
def IsCommon (g : Saying) : Prop := g.switch ∈ Place.top.switches

instance (g : Saying) : Decidable g.IsCommon := by
  unfold IsCommon
  infer_instance

end Saying

/-! ## What a draft has -/

end CommandLine

open CommandLine

/-- Has this been chosen among the common options? -/
def Options.Has (o : Options) : Choice → Prop
  | .config path => o.config = some path
  | .source s => o.layer.source = some s
  | .baseUrl url => o.layer.baseUrl = some url
  | .timeout seconds => o.layer.timeout = some seconds
  | .verbose => o.verbose = true
  | .jsonLogs => o.jsonLogs = true
  | .id _ | .customerId _ | .amount _ => False

/-- The options have what is said and nothing else. -/
def Options.Tells (o : Options) (gs : List Saying) : Prop :=
  ∀ c, o.Has c ↔ c ∈ gs.map Saying.choice

/-- Options are what they have. -/
theorem Options.ext_has {o o' : Options} (h : ∀ c, o.Has c ↔ o'.Has c) : o = o' := by
  obtain ⟨config, ⟨baseUrl, timeout, source⟩, verbose, jsonLogs⟩ := o
  obtain ⟨config', ⟨baseUrl', timeout', source'⟩, verbose', jsonLogs'⟩ := o'
  obtain rfl : config = config' := Option.ext fun path => h (.config path)
  obtain rfl : baseUrl = baseUrl' := Option.ext fun url => h (.baseUrl url)
  obtain rfl : timeout = timeout' := Option.ext fun seconds => h (.timeout seconds)
  obtain rfl : source = source' := Option.ext fun s => h (.source s)
  obtain rfl : verbose = verbose' := Bool.eq_iff_iff.mpr (h .verbose)
  obtain rfl : jsonLogs = jsonLogs' := Bool.eq_iff_iff.mpr (h .jsonLogs)
  rfl

theorem Options.Tells.unique {o o' : Options} {gs : List Saying} (h : o.Tells gs)
    (h' : o'.Tells gs) : o = o' := by
  refine ext_has ?_
  intro c
  rw [h c, h' c]

namespace CommandLine

namespace Draft

/-- Has this been chosen? -/
def Has (d : Draft) : Choice → Prop
  | .id id => d.id = some id
  | .customerId id => d.customerId = some id
  | .amount x => d.amount = some x
  | c => d.options.Has c

/-- The draft has what is said and nothing else. -/
def Tells (d : Draft) (gs : List Saying) : Prop := ∀ c, d.Has c ↔ c ∈ gs.map Saying.choice

/-- The draft with one choice more. -/
def choose (d : Draft) : Choice → Draft
  | .config path => { d with options := { d.options with config := some path } }
  | .source s => d.withLayer { d.options.layer with source := some s }
  | .baseUrl url => d.withLayer { d.options.layer with baseUrl := some url }
  | .timeout seconds => d.withLayer { d.options.layer with timeout := some seconds }
  | .verbose => { d with options := { d.options with verbose := true } }
  | .jsonLogs => { d with options := { d.options with jsonLogs := true } }
  | .id id => { d with id := some id }
  | .customerId id => { d with customerId := some id }
  | .amount x => { d with amount := some x }

/-- A choice leaves what other switches have settled. -/
theorem has_choose {d : Draft} {c c' : Choice} :
    (d.choose c).Has c' ↔ c' = c ∨ (d.Has c' ∧ c'.switch ≠ c.switch) := by
  cases c <;> cases c' <;> simp [Has, choose, Options.Has, Choice.switch, withLayer]
  all_goals exact eq_comm

theorem Tells.choose {d : Draft} {gs : List Saying} {g : Saying} (h : d.Tells gs)
    (hg : g.switch ∉ gs.map Saying.switch) : (d.choose g.choice).Tells (g :: gs) := by
  intro c
  rw [has_choose, h c, List.map_cons, List.mem_cons]
  constructor
  · rintro (rfl | ⟨hc, -⟩)
    · exact .inl rfl
    · exact .inr hc
  · rintro (rfl | hc)
    · exact .inl rfl
    · refine .inr ⟨hc, ?_⟩
      obtain ⟨g', hg', rfl⟩ := List.mem_map.mp hc
      intro hswitch
      exact hg (List.mem_map.mpr ⟨g', hg', hswitch⟩)

theorem Tells.perm {d : Draft} {gs gs' : List Saying} (h : d.Tells gs) (hperm : gs.Perm gs') :
    d.Tells gs' := by
  intro c
  rw [h c, (hperm.map Saying.choice).mem_iff]

end Draft

/-! ## One word -/

theorem textOf_ofString (s : String) : textOf (ofString s) = .ok s := by
  rw [textOf, ofString, Utf8.text?_ofText]
  simp

theorem form_said (v : Valued) (w : Word) :
    Form.of (v.said w) = .long (ofString v.name) (some w) := by
  cases v <;> rfl

theorem switch?_name {p : Place} {s : Switch} (h : s ∈ p.switches) : p.switch? s.name = some s := by
  revert s
  cases p <;> decide

/-- A word that begins with a hyphen is no command. -/
theorem command?_hyphen (p : Place) (w : Word) : Reading.command? p (.char '-' :: w) = none := by
  cases p <;> rfl

section Words

variable {r : Reading} {d d' : Draft} {p : Place}

/-- What can be settled awaits no value. -/
theorem isAwaiting_of_settle (h : r.settle = .ok d) : r.isAwaiting = false := by
  obtain ⟨draft, pending⟩ := r
  cases pending with
  | awaiting v => cases h
  | nothing => rfl
  | value v w => rfl
  | ids words => rfl

theorem words_long {name w : Word} {value : Option Word}
    (hform : Form.of (.char '-' :: w) = .long name value) (ws : List Word) :
    r.words p ((.char '-' :: w) :: ws) = (r.long p name value >>= fun r' => r'.words p ws) := by
  have hcommand : (if r.isAwaiting then none else Reading.command? p (.char '-' :: w)) = none := by
    rw [command?_hyphen, ite_self]
  rw [Reading.words, hcommand, hform, if_neg Form.noConfusion, Reading.word, hform]

/-- The switch of a name is found in its place. -/
theorem switchOf_name {s : Switch} (h : s ∈ p.switches) :
    ((Utf8.text? (ofString s.name)).bind fun text => p.switch? (String.ofList text)) = some s := by
  rw [ofString, Utf8.text?_ofText, Option.bind_some, String.ofList_toList]
  exact switch?_name h

theorem words_said {v : Valued} (hr : r.settle = .ok d) (hv : .valued v ∈ p.switches) (w : Word)
    (ws : List Word) :
    r.words p (v.said w :: ws) =
      (d.put v w >>= fun d' => Reading.words ⟨d', .nothing⟩ p ws) := by
  have hlong : r.long p (ofString v.name) (some w) =
      (d.put v w >>= fun d' => pure ⟨d', .nothing⟩) := by
    have hfound := switchOf_name hv
    rw [Switch.name] at hfound
    rw [Reading.long.eq_def, hfound, hr]
    rfl
  rw [Valued.said, words_long (form_said v w), hlong]
  cases d.put v w <;> rfl

/-- The draft with one id more. -/
def Draft.addId (d : Draft) (id : String) : Draft := { d with ids := d.ids ++ [id] }

theorem Draft.Tells.addId {gs : List Saying} (h : d.Tells gs) (id : String) :
    (d.addId id).Tells gs := by
  intro c
  rw [← h c]
  cases c <;> exact Iff.rfl

theorem texts_ofString (ids : List String) : (ids.map ofString).mapM textOf = .ok ids := by
  induction ids with
  | nil => rfl
  | cons id ids ih =>
      rw [List.map_cons, List.mapM_cons, textOf_ofString, ih]
      rfl

/-- An id joins the ids that are pending, or they begin with it. -/
theorem withId_settle (hr : r.settle = .ok d) (id : String) :
    ∃ r', r.withId (ofString id) = .ok r' ∧ r'.settle = .ok (d.addId id) := by
  obtain ⟨draft, pending⟩ := r
  have hone : ∀ d : Draft, d.addIds [ofString id] = .ok (d.addId id) := by
    intro d
    rw [Draft.addIds, ← List.map_singleton, texts_ofString]
    rfl
  cases pending with
  | ids words =>
      -- The words are looked at when they are settled, all of them at once.
      refine ⟨⟨draft, .ids (words ++ [ofString id])⟩, rfl, ?_⟩
      simp only [Reading.settle, Draft.addIds, List.mapM_append] at hr ⊢
      cases htexts : words.mapM textOf with
      | error e =>
          rw [htexts] at hr
          cases hr
      | ok texts =>
          rw [htexts] at hr
          cases hr
          rw [← List.map_singleton, texts_ofString]
          simp [bind, Except.bind, pure, Except.pure, Except.map, Draft.addId]
  | awaiting v => cases hr
  | nothing =>
      cases hr
      exact ⟨⟨draft, .ids [ofString id]⟩, rfl, hone draft⟩
  | value v w =>
      refine ⟨⟨d, .ids [ofString id]⟩, ?_, hone d⟩
      rw [Reading.withId, hr]
      rfl

/-- Does the text begin with no hyphen? -/
def Plain (id : String) : Prop := id.toList.head? ≠ some '-'

theorem rest_ids (hr : r.settle = .ok d) (ids : List String) :
    ∃ r', r.rest .customer (ids.map ofString) = .ok r' ∧
      r'.settle = .ok { d with ids := d.ids ++ ids } := by
  induction ids generalizing r d with
  | nil => exact ⟨r, rfl, by rw [List.append_nil]; exact hr⟩
  | cons id ids ih =>
      obtain ⟨r₁, hwith, hr₁⟩ := withId_settle hr id
      obtain ⟨r₂, hrest, hr₂⟩ := ih hr₁
      refine ⟨r₂, ?_, ?_⟩
      · rw [List.map_cons, Reading.rest]
        show (r.withId (ofString id) >>= fun r => r.rest .customer (ids.map ofString)) = _
        rw [hwith]
        exact hrest
      · rw [hr₂, Draft.addId]
        simp

/-- What stands in front of `--`: options, and behind the command to look
customers up, ids. -/
abbrev Item := Saying ⊕ String

namespace Item

/-- The word of an item. -/
def word : Item → Word
  | .inl g => g.word
  | .inr id => ofString id

/-- The ids among the items. -/
def ids (items : List Item) : List String := items.filterMap Sum.getRight?

end Item

/-- What stands behind the last option: nothing, or `--` and ids. -/
inductive Closing : List String → List Word → Prop
  | none : Closing [] []
  | separator (ids : List String) : Closing ids (ofString "--" :: ids.map ofString)

theorem words_separator (hr : r.settle = .ok d) (ws : List Word) :
    r.words p (ofString "--" :: ws) = (r.rest p ws).map fun r' => (r', none) := by
  have hcommand : (if r.isAwaiting then none else Reading.command? p (ofString "--")) = none := by
    rw [isAwaiting_of_settle hr]
    exact command?_hyphen p _
  have hform : Form.of (ofString "--") = .separator := rfl
  rw [Reading.words, hcommand, hform, if_pos rfl]

/-- The words behind a command are read to their end. -/
theorem words_closing {more : List String} {ws : List Word} (hr : r.settle = .ok d)
    (h : Closing more ws) (hp : p = .customer ∨ more = []) :
    ∃ r', r.words p ws = .ok (r', none) ∧ r'.settle = .ok { d with ids := d.ids ++ more } := by
  cases h with
  | none =>
      refine ⟨r, rfl, ?_⟩
      rw [List.append_nil]
      exact hr
  | separator =>
      rw [words_separator hr]
      rcases hp with rfl | rfl
      · obtain ⟨r', hrest, hr'⟩ := rest_ids hr more
        refine ⟨r', ?_, hr'⟩
        rw [hrest]
        rfl
      · refine ⟨r, rfl, ?_⟩
        rw [List.append_nil]
        exact hr

/-- The command ends the words of the program. -/
theorem words_command_name {t : Topic} (hr : r.settle = .ok d) (ht : t ∈ Topic.commands)
    (ws : List Word) : r.words .top (ofString t.name :: ws) = .ok (r, some (t, ws)) := by
  have hcommand : (if r.isAwaiting then none else Reading.command? .top (ofString t.name)) =
      some t := by
    rw [isAwaiting_of_settle hr]
    cases t with
    | program => exact absurd ht (by decide)
    | customer => rfl
    | order => rfl
    | help => rfl
  rw [Reading.words, hcommand]

end Words

end CommandLine

end OrderDesk
