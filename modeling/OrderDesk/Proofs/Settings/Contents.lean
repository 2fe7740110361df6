/-
# `Proofs.Settings.Contents` — what a document says about the settings

Reading goes through the members of a document and of its tables once, and
writes down what it comes by; members of other names are passed over.
Said without going through anything: a setting has a value exactly if it
stands under its name in the table of its name (`describes_of_read`).  That
needs no rule about which of several values wins, as no name stands twice
in a table (`Toml.document_tidy`).

| | |
| :-- | :-- |
| `Given name holds ms a`   | the member of this name has a value that says `a` |
| `Grouped name place holds` | so has a group, which is a table or an array |
| `SetsUrl doc`, `SetsTimeout doc`, `SetsSource doc` | what the document sets |
| `Describes doc l`        | the layer `l` has the settings that the document sets, and no others |
| `Contains env f doc`     | the file is a text that, filled in, is this document |
| `Unreadable env f e`     | nothing can be read from the file, for this reason |

The three readers of members are one loop each (`Loop`): what a member does
to a setting depends on its name alone, and that is said and proved once.
-/
import OrderDesk.Proofs.Toml.Names
import OrderDesk.Settings.File

namespace OrderDesk

open Toml (Fault Members Span Value bind_eq_ok)

namespace Source

theorem name_injective {s s' : Source} (h : s.name = s'.name) : s = s' := by
  revert h
  cases s <;> cases s' <;> decide

/-- A source is found by its name only. -/
theorem ofName?_eq_some {name : String} {s : Source} (h : ofName? name = some s) :
    name = s.name := by
  rw [ofName?] at h
  split at h
  · next hcanned =>
      cases h
      exact hcanned
  split at h
  · next hremote =>
      cases h
      exact hremote
  · cases h

end Source

namespace Settings

/-! ## Contents -/

/-- The value is this text. -/
def IsText (v : Value) (s : String) : Prop := v = .scalar (.text s.toList)

/-- The value is this number. -/
def IsNatural (v : Value) (n : Nat) : Prop := v = .scalar (.integer n)

/-- The value is the name of this source, by itself or as the only name in
a table. -/
inductive IsSource : Value → Source → Prop
  | text (s : Source) : IsSource (.scalar (.text s.name.toList)) s
  | table {form : Toml.Form} {key : Toml.Key} {span : Span} {v : Value} (s : Source) :
      key.name = s.name → IsSource (.table form [(key, span, v)]) s

/-- A member of this name has a value that says this. -/
def Given (name : String) (holds : Value → α → Prop) (ms : Members) (a : α) : Prop :=
  ∃ m ∈ ms, m.1.name = name ∧ holds m.2.2 a

/-- A group has a value that says this: under its name if the group is a
table, at its place if it is an array. -/
inductive Grouped (name : String) (place : Nat) (holds : Value → α → Prop) : Value → α → Prop
  | table {form : Toml.Form} {ms : Members} {a : α} :
      Given name holds ms a → Grouped name place holds (.table form ms) a
  | array {headed : Bool} {vs : List (Span × Value)} {e : Span × Value} {a : α} :
      vs[place]? = some e → holds e.2 a → Grouped name place holds (.array headed vs) a

/-- The document sets the address. -/
def SetsUrl : Members → String → Prop := Given "customer_api" (Grouped "base_url" 0 IsText)

/-- The document sets the timeout. -/
def SetsTimeout : Members → Nat → Prop :=
  Given "customer_api" (Grouped "timeout_seconds" 1 IsNatural)

/-- The document sets the source. -/
def SetsSource : Members → Source → Prop := Given "lookup" (Grouped "source" 0 IsSource)

/-- The layer has the settings that the document sets, and no others. -/
structure Describes (doc : Members) (l : Layer) : Prop where
  baseUrl : ∀ url, l.baseUrl = some url ↔ SetsUrl doc url
  timeout : ∀ seconds, l.timeout = some seconds ↔ SetsTimeout doc seconds
  source : ∀ s, l.source = some s ↔ SetsSource doc s

/-- A document describes one layer only. -/
theorem Describes.unique {doc : Members} {l l' : Layer} (h : Describes doc l)
    (h' : Describes doc l') : l = l' := by
  have hurl : l.baseUrl = l'.baseUrl :=
    Option.ext fun url => (h.baseUrl url).trans (h'.baseUrl url).symm
  have htimeout : l.timeout = l'.timeout :=
    Option.ext fun seconds => (h.timeout seconds).trans (h'.timeout seconds).symm
  have hsource : l.source = l'.source := Option.ext fun s => (h.source s).trans (h'.source s).symm
  cases l
  cases l'
  cases hurl
  cases htimeout
  cases hsource
  rfl

/-! ## Groups -/

section Groups

variable {name : String} {place : Nat} {holds : Value → α → Prop} {a : α}

theorem grouped_table {form : Toml.Form} {ms : Members} :
    Grouped name place holds (.table form ms) a ↔ Given name holds ms a := by
  constructor
  · intro h
    cases h with
    | table hgiven => exact hgiven
  · exact .table

theorem grouped_array {headed : Bool} {vs : List (Span × Value)} :
    Grouped name place holds (.array headed vs) a ↔ ∃ e, vs[place]? = some e ∧ holds e.2 a := by
  constructor
  · intro h
    cases h with
    | array he hholds => exact ⟨_, he, hholds⟩
  · rintro ⟨e, he, hholds⟩
    exact .array he hholds

theorem not_grouped_scalar {s : Toml.Scalar} : ¬ Grouped name place holds (.scalar s) a := by
  intro h
  cases h

end Groups

/-! ## Single values -/

theorem IsText.unique {v : Value} {s s' : String} (h : IsText v s) (h' : IsText v s') : s = s' :=
  String.toList_injective (Toml.Scalar.text.inj (Value.scalar.inj (h.symm.trans h')))

theorem IsNatural.unique {v : Value} {n n' : Nat} (h : IsNatural v n) (h' : IsNatural v n') :
    n = n' :=
  Int.ofNat.inj (Toml.Scalar.integer.inj (Value.scalar.inj (h.symm.trans h')))

theorem IsSource.unique {v : Value} {s s' : Source} (h : IsSource v s) (h' : IsSource v s') :
    s = s' := by
  refine Source.name_injective ?_
  generalize hv : v = w at h'
  cases h with
  | text =>
      cases h' with
      | text => exact String.toList_injective (Toml.Scalar.text.inj (Value.scalar.inj hv))
      | table => cases hv
  | table _ hname =>
      cases h' with
      | text => cases hv
      | table _ hname' =>
          cases hv
          exact hname.symm.trans hname'

/-- What a reader of single values takes from a value is in it, and nothing
else is. -/
def Takes (read : Span → Value → Except Fault α) (holds : Value → α → Prop) : Prop :=
  ∀ (span : Span) (v : Value) (a b : α), read span v = .ok a → (holds v b ↔ b = a)

theorem takes_of_unique {read : Span → Value → Except Fault α} {holds : Value → α → Prop}
    (hread : ∀ span v a, read span v = .ok a → holds v a)
    (hunique : ∀ {v : Value} {a b : α}, holds v a → holds v b → a = b) : Takes read holds := by
  intro span v a b h
  constructor
  · intro hb
    exact hunique hb (hread span v a h)
  · rintro rfl
    exact hread span v b h

theorem wrongType_ne_ok {span : Span} {v : Value} {wanted : String} {a : α} :
    wrongType span v wanted ≠ .ok a := by
  intro h
  obtain ⟨found, -, hfault⟩ := bind_eq_ok.mp h
  cases hfault

theorem textOf_takes : Takes textOf IsText := by
  refine takes_of_unique ?_ IsText.unique
  intro span v a h
  rw [textOf.eq_def] at h
  split at h
  · next s =>
      cases h
      rw [IsText, String.toList_ofList]
  · exact absurd h wrongType_ne_ok

theorem naturalOf_takes : Takes naturalOf IsNatural := by
  refine takes_of_unique ?_ IsNatural.unique
  intro span v a h
  rw [naturalOf.eq_def] at h
  split at h
  · next n =>
      split at h
      · next hn =>
          cases h
          rw [IsNatural, Int.toNat_of_nonneg hn.1]
      split at h
      · cases h
      · exact absurd h wrongType_ne_ok
  · exact absurd h wrongType_ne_ok

theorem sourceNamed_eq_ok {span : Span} {name : String} {s : Source}
    (h : sourceNamed span name = .ok s) : name = s.name := by
  rw [sourceNamed] at h
  split at h
  · next s' hs' =>
      cases h
      exact Source.ofName?_eq_some hs'
  · cases h

theorem sourceOf_takes : Takes sourceOf IsSource := by
  refine takes_of_unique ?_ IsSource.unique
  intro span v a h
  rw [sourceOf.eq_def] at h
  split at h
  · next s =>
      obtain rfl : s = a.name.toList := by
        rw [← sourceNamed_eq_ok h, String.toList_ofList]
      exact .text a
  · cases h
  · obtain ⟨s, hs, hrest⟩ := bind_eq_ok.mp h
    obtain ⟨u, -, hpure⟩ := bind_eq_ok.mp hrest
    cases hpure
    exact .table a (sourceNamed_eq_ok hs)
  · cases h
  · cases h

/-! ## Loops over members -/

/-- Members are gone through one by one. -/
structure Loop (loop : Layer → Members → Except Fault Layer) : Prop where
  nil : ∀ l, loop l [] = .ok l
  cons : ∀ l m rest, loop l (m :: rest) = loop l [m] >>= fun next => loop next rest

/-- A member leaves a setting alone. -/
def Spares (loop : Layer → Members → Except Fault Layer) (field : Layer → Option α)
    (m : Toml.Key × Span × Value) : Prop :=
  ∀ (l l' : Layer), loop l [m] = .ok l' → field l' = field l

/-- A member gives the setting the value that it holds, if the setting has
none yet. -/
def Gives (loop : Layer → Members → Except Fault Layer) (field : Layer → Option α)
    (holds : Value → α → Prop) (m : Toml.Key × Span × Value) : Prop :=
  ∀ (l l' : Layer) (a : α), field l = none → loop l [m] = .ok l' →
    (field l' = some a ↔ holds m.2.2 a)

section Loop

variable {loop : Layer → Members → Except Fault Layer} {field : Layer → Option α}
  {name : String} {holds : Value → α → Prop} {ms : Members} {l l' : Layer}

theorem Loop.spares (hloop : Loop loop) (hspares : ∀ m ∈ ms, Spares loop field m)
    (h : loop l ms = .ok l') : field l' = field l := by
  induction ms generalizing l with
  | nil =>
      cases (hloop.nil l).symm.trans h
      rfl
  | cons m rest ih =>
      obtain ⟨hm, hrest⟩ := List.forall_mem_cons.mp hspares
      rw [hloop.cons] at h
      obtain ⟨next, hnext, hlast⟩ := bind_eq_ok.mp h
      rw [ih hrest hlast, hm l next hnext]

/-- In the end a setting has the value of the member of its name.  The
members are sorted, so behind that member there is no other of its name,
and in front of it the setting has no value yet. -/
theorem Loop.field_iff (hloop : Loop loop) (hsorted : ms.Sorted)
    (hother : ∀ m ∈ ms, m.1.name ≠ name → Spares loop field m)
    (hown : ∀ m ∈ ms, m.1.name = name → Gives loop field holds m) (hl : field l = none)
    (h : loop l ms = .ok l') (a : α) : field l' = some a ↔ Given name holds ms a := by
  induction ms generalizing l with
  | nil =>
      cases (hloop.nil l).symm.trans h
      simp [Given, hl]
  | cons m rest ih =>
      obtain ⟨hspares, hothers⟩ := List.forall_mem_cons.mp hother
      obtain ⟨hgives, howns⟩ := List.forall_mem_cons.mp hown
      obtain ⟨hfirst, hsorted⟩ := List.pairwise_cons.mp hsorted
      rw [hloop.cons] at h
      obtain ⟨next, hnext, hlast⟩ := bind_eq_ok.mp h
      by_cases hname : m.1.name = name
      · -- Names ascend, so none of the members behind this one has its name.
        have hnames : ∀ n ∈ rest, n.1.name ≠ name := by
          intro n hn heq
          exact (hfirst n hn).ne (hname.trans heq.symm)
        rw [hloop.spares (fun n hn => hothers n hn (hnames n hn)) hlast,
          hgives hname l next a hl hnext]
        constructor
        · intro ha
          exact ⟨m, .head rest, hname, ha⟩
        · rintro ⟨n, hn, hnname, ha⟩
          rcases List.mem_cons.mp hn with rfl | hn
          · exact ha
          · exact absurd hnname (hnames n hn)
      · rw [ih hsorted hothers howns ((hspares hname l next hnext).trans hl) hlast]
        constructor
        · rintro ⟨n, hn, ha⟩
          exact ⟨n, .tail m hn, ha⟩
        · rintro ⟨n, hn, hnname, ha⟩
          rcases List.mem_cons.mp hn with rfl | hn
          · exact absurd hnname hname
          · exact ⟨n, hn, hnname, ha⟩

end Loop

/-! ## What one member does -/

theorem apiMembers_loop : Loop apiMembers := by
  refine ⟨fun l => rfl, ?_⟩
  intro l m rest
  simp only [apiMembers]
  split_ifs
  · rw [bind_assoc]
    rfl
  · rw [bind_assoc]
    rfl
  · rw [bind_assoc]
    rfl

/-- What a member of the table `customer_api` does. -/
theorem apiMembers_single {l l' : Layer} {m : Toml.Key × Span × Value}
    (h : apiMembers l [m] = .ok l') :
    (m.1.name = "base_url" ∧ ∃ url, textOf m.2.1 m.2.2 = .ok url ∧
        l' = { l with baseUrl := some url }) ∨
      (m.1.name = "timeout_seconds" ∧ ∃ seconds, naturalOf m.2.1 m.2.2 = .ok seconds ∧
        l' = { l with timeout := some seconds }) ∨
      (m.1.name ≠ "base_url" ∧ m.1.name ≠ "timeout_seconds" ∧ l' = l) := by
  simp only [apiMembers] at h
  split_ifs at h with hurl htimeout
  · obtain ⟨url, hread, hpure⟩ := bind_eq_ok.mp h
    cases hpure
    exact .inl ⟨hurl, url, hread, rfl⟩
  · obtain ⟨seconds, hread, hpure⟩ := bind_eq_ok.mp h
    cases hpure
    exact .inr (.inl ⟨htimeout, seconds, hread, rfl⟩)
  · obtain ⟨u, -, hpure⟩ := bind_eq_ok.mp h
    cases hpure
    exact .inr (.inr ⟨hurl, htimeout, rfl⟩)

theorem lookupMembers_loop : Loop lookupMembers := by
  refine ⟨fun l => rfl, ?_⟩
  intro l m rest
  simp only [lookupMembers]
  split_ifs
  · rw [bind_assoc]
    rfl
  · rw [bind_assoc]
    rfl

/-- What a member of the table `lookup` does. -/
theorem lookupMembers_single {l l' : Layer} {m : Toml.Key × Span × Value}
    (h : lookupMembers l [m] = .ok l') :
    (m.1.name = "source" ∧ ∃ s, sourceOf m.2.1 m.2.2 = .ok s ∧
        l' = { l with source := some s }) ∨ (m.1.name ≠ "source" ∧ l' = l) := by
  simp only [lookupMembers] at h
  split_ifs at h with hsource
  · obtain ⟨s, hread, hpure⟩ := bind_eq_ok.mp h
    cases hpure
    exact .inl ⟨hsource, s, hread, rfl⟩
  · obtain ⟨u, -, hpure⟩ := bind_eq_ok.mp h
    cases hpure
    exact .inr ⟨hsource, rfl⟩

theorem documentMembers_loop : Loop documentMembers := by
  refine ⟨fun l => rfl, ?_⟩
  intro l m rest
  simp only [documentMembers]
  split_ifs
  · rw [bind_assoc]
    rfl
  · rw [bind_assoc]
    rfl
  · rw [bind_assoc]
    rfl

/-- What a member of a document does. -/
theorem documentMembers_single {l l' : Layer} {m : Toml.Key × Span × Value}
    (h : documentMembers l [m] = .ok l') :
    (m.1.name = "customer_api" ∧ apiOf l m.2.1 m.2.2 = .ok l') ∨
      (m.1.name = "lookup" ∧ lookupOf l m.2.1 m.2.2 = .ok l') ∨
      (m.1.name ≠ "customer_api" ∧ m.1.name ≠ "lookup" ∧ l' = l) := by
  simp only [documentMembers] at h
  split_ifs at h with hapi hlookup
  · obtain ⟨next, hread, hpure⟩ := bind_eq_ok.mp h
    cases hpure
    exact .inl ⟨hapi, hread⟩
  · obtain ⟨next, hread, hpure⟩ := bind_eq_ok.mp h
    cases hpure
    exact .inr (.inl ⟨hlookup, hread⟩)
  · obtain ⟨u, -, hpure⟩ := bind_eq_ok.mp h
    cases hpure
    exact .inr (.inr ⟨hapi, hlookup, rfl⟩)

/-! ## The two groups -/

section Groups

variable {l l' : Layer} {span : Span} {v : Value} {ms : Members}

theorem apiMembers_baseUrl (hms : ms.Sorted) (hl : l.baseUrl = none)
    (h : apiMembers l ms = .ok l') (url : String) :
    l'.baseUrl = some url ↔ Given "base_url" IsText ms url := by
  refine apiMembers_loop.field_iff hms ?_ ?_ hl h url
  · rintro m - hname l l' h
    rcases apiMembers_single h with ⟨hurl, -⟩ | ⟨-, seconds, -, rfl⟩ | ⟨-, -, rfl⟩
    · exact absurd hurl hname
    · rfl
    · rfl
  · rintro m - hname l l' url hl h
    rcases apiMembers_single h with ⟨-, url', hread, rfl⟩ | ⟨htimeout, -⟩ | ⟨hurl, -⟩
    · rw [Option.some_inj, textOf_takes _ _ _ url hread, eq_comm]
    · exact absurd (hname.symm.trans htimeout) (by decide)
    · exact absurd hname hurl

theorem apiMembers_timeout (hms : ms.Sorted) (hl : l.timeout = none)
    (h : apiMembers l ms = .ok l') (seconds : Nat) :
    l'.timeout = some seconds ↔ Given "timeout_seconds" IsNatural ms seconds := by
  refine apiMembers_loop.field_iff hms ?_ ?_ hl h seconds
  · rintro m - hname l l' h
    rcases apiMembers_single h with ⟨-, url, -, rfl⟩ | ⟨htimeout, -⟩ | ⟨-, -, rfl⟩
    · rfl
    · exact absurd htimeout hname
    · rfl
  · rintro m - hname l l' seconds hl h
    rcases apiMembers_single h with ⟨hurl, -⟩ | ⟨-, seconds', hread, rfl⟩ | ⟨-, htimeout, -⟩
    · exact absurd (hname.symm.trans hurl) (by decide)
    · rw [Option.some_inj, naturalOf_takes _ _ _ seconds hread, eq_comm]
    · exact absurd hname htimeout

theorem apiMembers_source (h : apiMembers l ms = .ok l') : l'.source = l.source := by
  refine apiMembers_loop.spares ?_ h
  rintro m - l l' h
  rcases apiMembers_single h with ⟨-, url, -, rfl⟩ | ⟨-, seconds, -, rfl⟩ | ⟨-, -, rfl⟩
  · rfl
  · rfl
  · rfl

theorem lookupMembers_source (hms : ms.Sorted) (hl : l.source = none)
    (h : lookupMembers l ms = .ok l') (s : Source) :
    l'.source = some s ↔ Given "source" IsSource ms s := by
  refine lookupMembers_loop.field_iff hms ?_ ?_ hl h s
  · rintro m - hname l l' h
    rcases lookupMembers_single h with ⟨hsource, -⟩ | ⟨-, rfl⟩
    · exact absurd hsource hname
    · rfl
  · rintro m - hname l l' s hl h
    rcases lookupMembers_single h with ⟨-, s', hread, rfl⟩ | ⟨hsource, -⟩
    · rw [Option.some_inj, sourceOf_takes _ _ _ s hread, eq_comm]
    · exact absurd hname hsource

theorem lookupMembers_api (h : lookupMembers l ms = .ok l') :
    l'.baseUrl = l.baseUrl ∧ l'.timeout = l.timeout := by
  constructor
  · refine lookupMembers_loop.spares ?_ h
    rintro m - l l' h
    rcases lookupMembers_single h with ⟨-, s, -, rfl⟩ | ⟨-, rfl⟩
    · rfl
    · rfl
  · refine lookupMembers_loop.spares ?_ h
    rintro m - l l' h
    rcases lookupMembers_single h with ⟨-, s, -, rfl⟩ | ⟨-, rfl⟩
    · rfl
    · rfl

/-- The customer API is a table, an array of its two values, or a moment,
which says nothing. -/
theorem apiOf_eq_ok (h : apiOf l span v = .ok l') :
    (∃ form ms, v = .table form ms ∧ apiMembers l ms = .ok l') ∨
      (∃ headed first second rest url seconds,
        v = .array headed (first :: second :: rest) ∧ textOf first.1 first.2 = .ok url ∧
          naturalOf second.1 second.2 = .ok seconds ∧
          l' = { l with baseUrl := some url, timeout := some seconds }) ∨
      (v = .scalar .moment ∧ l' = l) := by
  rw [apiOf.eq_def] at h
  split at h
  · next form ms => exact .inl ⟨form, ms, rfl, h⟩
  · next headed first url second seconds rest =>
      obtain ⟨url', hurl, hread⟩ := bind_eq_ok.mp h
      obtain ⟨seconds', hseconds, hpure⟩ := bind_eq_ok.mp hread
      cases hpure
      exact .inr (.inl ⟨headed, (first, url), (second, seconds), rest, url', seconds', rfl, hurl,
        hseconds, rfl⟩)
  · obtain ⟨url, -, hfault⟩ := bind_eq_ok.mp h
    cases hfault
  · cases h
  · cases h
    exact .inr (.inr ⟨rfl, rfl⟩)
  · exact absurd h wrongType_ne_ok

/-- The lookup is a table, an array with its value in front, or something
empty. -/
theorem lookupOf_eq_ok (h : lookupOf l span v = .ok l') :
    (∃ form ms, v = .table form ms ∧ lookupMembers l ms = .ok l') ∨
      (∃ headed first rest s, v = .array headed (first :: rest) ∧
        sourceOf first.1 first.2 = .ok s ∧ l' = { l with source := some s }) ∨
      ((v = .scalar .moment ∨ ∃ headed, v = .array headed []) ∧ l' = l) := by
  rw [lookupOf.eq_def] at h
  split at h
  · next form ms => exact .inl ⟨form, ms, rfl, h⟩
  · next headed first value rest =>
      obtain ⟨s, hs, hpure⟩ := bind_eq_ok.mp h
      cases hpure
      exact .inr (.inl ⟨headed, (first, value), rest, s, rfl, hs, rfl⟩)
  · next headed =>
      cases h
      exact .inr (.inr ⟨.inr ⟨headed, rfl⟩, rfl⟩)
  · cases h
    exact .inr (.inr ⟨.inl rfl, rfl⟩)
  · exact absurd h wrongType_ne_ok

theorem apiOf_baseUrl (hv : v.Tidy) (hl : l.baseUrl = none) (h : apiOf l span v = .ok l')
    (url : String) : l'.baseUrl = some url ↔ Grouped "base_url" 0 IsText v url := by
  rcases apiOf_eq_ok h with ⟨form, ms, rfl, hms⟩ |
    ⟨headed, first, second, rest, url', seconds, rfl, hread, -, rfl⟩ | ⟨rfl, rfl⟩
  · rw [apiMembers_baseUrl hv.members.sorted hl hms, grouped_table]
  · rw [grouped_array, Option.some_inj, eq_comm, ← textOf_takes _ _ _ url hread]
    simp
  · simp [hl, not_grouped_scalar]

theorem apiOf_timeout (hv : v.Tidy) (hl : l.timeout = none) (h : apiOf l span v = .ok l')
    (seconds : Nat) :
    l'.timeout = some seconds ↔ Grouped "timeout_seconds" 1 IsNatural v seconds := by
  rcases apiOf_eq_ok h with ⟨form, ms, rfl, hms⟩ |
    ⟨headed, first, second, rest, url, seconds', rfl, -, hread, rfl⟩ | ⟨rfl, rfl⟩
  · rw [apiMembers_timeout hv.members.sorted hl hms, grouped_table]
  · rw [grouped_array, Option.some_inj, eq_comm, ← naturalOf_takes _ _ _ seconds hread]
    simp
  · simp [hl, not_grouped_scalar]

theorem apiOf_source (h : apiOf l span v = .ok l') : l'.source = l.source := by
  rcases apiOf_eq_ok h with ⟨form, ms, rfl, hms⟩ |
    ⟨headed, first, second, rest, url, seconds, rfl, -, -, rfl⟩ | ⟨rfl, rfl⟩
  · exact apiMembers_source hms
  · rfl
  · rfl

theorem lookupOf_source (hv : v.Tidy) (hl : l.source = none) (h : lookupOf l span v = .ok l')
    (s : Source) : l'.source = some s ↔ Grouped "source" 0 IsSource v s := by
  rcases lookupOf_eq_ok h with ⟨form, ms, rfl, hms⟩ |
    ⟨headed, first, rest, s', rfl, hread, rfl⟩ | ⟨rfl | ⟨headed, rfl⟩, rfl⟩
  · rw [lookupMembers_source hv.members.sorted hl hms, grouped_table]
  · rw [grouped_array, Option.some_inj, eq_comm, ← sourceOf_takes _ _ _ s hread]
    simp
  · simp [hl, not_grouped_scalar]
  · simp [hl, grouped_array]

theorem lookupOf_api (h : lookupOf l span v = .ok l') :
    l'.baseUrl = l.baseUrl ∧ l'.timeout = l.timeout := by
  rcases lookupOf_eq_ok h with ⟨form, ms, rfl, hms⟩ |
    ⟨headed, first, rest, s, rfl, -, rfl⟩ | ⟨-, rfl⟩
  · exact lookupMembers_api hms
  · exact ⟨rfl, rfl⟩
  · exact ⟨rfl, rfl⟩

end Groups

/-! ## Whole documents -/

section Documents

variable {doc : Members} {l : Layer} {field : Layer → Option α} {holds : Value → α → Prop}

/-- A setting of the customer API, which the lookup leaves alone. -/
theorem documentMembers_api (hdoc : doc.Tidy) (hnone : field {} = none)
    (hlookup : ∀ {l l' : Layer} {span : Span} {v : Value}, lookupOf l span v = .ok l' →
      field l' = field l)
    (hown : ∀ {l l' : Layer} {span : Span} {v : Value}, v.Tidy → field l = none →
      apiOf l span v = .ok l' → ∀ a, field l' = some a ↔ holds v a)
    (h : documentMembers {} doc = .ok l) (a : α) :
    field l = some a ↔ Given "customer_api" holds doc a := by
  refine documentMembers_loop.field_iff hdoc.sorted ?_ ?_ hnone h a
  · rintro m - hname l l' h
    rcases documentMembers_single h with ⟨hapi, -⟩ | ⟨-, hread⟩ | ⟨-, -, rfl⟩
    · exact absurd hapi hname
    · exact hlookup hread
    · rfl
  · intro m hm hname l l' a hl h
    rcases documentMembers_single h with ⟨-, hread⟩ | ⟨hother, -⟩ | ⟨hapi, -⟩
    · exact hown (hdoc.values m hm) hl hread a
    · exact absurd (hname.symm.trans hother) (by decide)
    · exact absurd hname hapi

theorem documentMembers_lookup (hdoc : doc.Tidy) (hnone : field {} = none)
    (hapi : ∀ {l l' : Layer} {span : Span} {v : Value}, apiOf l span v = .ok l' →
      field l' = field l)
    (hown : ∀ {l l' : Layer} {span : Span} {v : Value}, v.Tidy → field l = none →
      lookupOf l span v = .ok l' → ∀ a, field l' = some a ↔ holds v a)
    (h : documentMembers {} doc = .ok l) (a : α) :
    field l = some a ↔ Given "lookup" holds doc a := by
  refine documentMembers_loop.field_iff hdoc.sorted ?_ ?_ hnone h a
  · rintro m - hname l l' h
    rcases documentMembers_single h with ⟨-, hread⟩ | ⟨hlookup, -⟩ | ⟨-, -, rfl⟩
    · exact hapi hread
    · exact absurd hlookup hname
    · rfl
  · intro m hm hname l l' a hl h
    rcases documentMembers_single h with ⟨hother, -⟩ | ⟨-, hread⟩ | ⟨-, hlookup, -⟩
    · exact absurd (hname.symm.trans hother) (by decide)
    · exact hown (hdoc.values m hm) hl hread a
    · exact absurd hname hlookup

/-- What is read from a document in order is what it sets. -/
theorem describes_of_read (hdoc : doc.Tidy) (h : documentMembers {} doc = .ok l) :
    Describes doc l := by
  refine ⟨?_, ?_, ?_⟩
  · exact documentMembers_api hdoc rfl (fun hread => (lookupOf_api hread).1) apiOf_baseUrl h
  · exact documentMembers_api hdoc rfl (fun hread => (lookupOf_api hread).2) apiOf_timeout h
  · exact documentMembers_lookup hdoc rfl apiOf_source lookupOf_source h

end Documents

end Settings

/-! ## Files -/

open Settings

/-- Nothing can be read from a file, for this reason: it could not be had,
it is no text, or the text, filled in, has a fault. -/
inductive Unreadable (env : Environment) : Except FileError (List UInt8) → LookupError → Prop
  | missing (e : FileError) : Unreadable env (.error e) (.file e)
  | notText {octets : List UInt8} : Utf8.string? octets = none →
      Unreadable env (.ok octets) (.file .notText)
  | faulty {octets : List UInt8} {text : String} {fault : Fault} :
      Utf8.string? octets = some text →
      Layer.ofToml (Template.fill env text.toList) = .error fault →
      Unreadable env (.ok octets) (.configuration
        ("TOML parsing error: " ++ fault.message (Template.fill env text.toList)))

/-- A file is a text that, filled in, is this document, and nothing is wrong
with it. -/
def Contains (env : Environment) (content : Except FileError (List UInt8)) (doc : Members) : Prop :=
  ∃ octets text l, content = .ok octets ∧ Utf8.string? octets = some text ∧
    Toml.document (Template.fill env text.toList) = .ok doc ∧ documentMembers {} doc = .ok l

/-- What is in a file is described by a layer. -/
theorem describes_of_contains {env : Environment} {content : Except FileError (List UInt8)}
    {doc : Members} (h : Contains env content doc) : ∃ l, Describes doc l := by
  obtain ⟨octets, text, l, -, -, hdoc, hmembers⟩ := h
  exact ⟨l, describes_of_read (Toml.document_tidy hdoc) hmembers⟩

namespace Layer

variable {env : Environment} {content : Except FileError (List UInt8)}

/-- A text is read as a document, and the document as a layer. -/
theorem ofToml_eq_ok {text : List Char} {l : Layer} :
    ofToml text = .ok l ↔ ∃ doc, Toml.document text = .ok doc ∧ documentMembers {} doc = .ok l :=
  bind_eq_ok

/-- A file that is not read has one of the three reasons. -/
theorem ofFile_eq_error {e : LookupError} :
    ofFile env content = .error e ↔ Unreadable env content e := by
  constructor
  · intro h
    cases content with
    | error fault =>
        cases h
        exact .missing fault
    | ok octets =>
        rw [ofFile] at h
        cases htext : Utf8.string? octets with
        | none =>
            rw [htext] at h
            cases h
            exact .notText htext
        | some text =>
            simp only [htext, ofText] at h
            split at h
            · cases h
            · next fault hfault =>
                cases h
                exact .faulty htext hfault
  · intro h
    cases h with
    | missing e => rfl
    | notText htext => simp only [ofFile, htext]
    | faulty htext hfault => simp only [ofFile, htext, ofText, hfault]

/-- What is read from a file is what the document in it sets. -/
theorem ofFile_eq_ok {l : Layer} :
    ofFile env content = .ok l ↔ ∃ doc, Contains env content doc ∧ Describes doc l := by
  constructor
  · intro h
    cases content with
    | error fault => cases h
    | ok octets =>
        rw [ofFile] at h
        cases htext : Utf8.string? octets with
        | none =>
            rw [htext] at h
            cases h
        | some text =>
            simp only [htext, ofText] at h
            split at h
            · next l' hread =>
                cases h
                obtain ⟨doc, hdoc, hmembers⟩ := ofToml_eq_ok.mp hread
                exact ⟨doc, ⟨octets, text, l, rfl, htext, hdoc, hmembers⟩,
                  describes_of_read (Toml.document_tidy hdoc) hmembers⟩
            · cases h
  · rintro ⟨doc, ⟨octets, text, l', rfl, htext, hdoc, hmembers⟩, hl⟩
    obtain rfl := hl.unique (describes_of_read (Toml.document_tidy hdoc) hmembers)
    have hread := ofToml_eq_ok.mpr ⟨doc, hdoc, hmembers⟩
    simp only [ofFile, htext, ofText, hread]

end Layer

end OrderDesk
